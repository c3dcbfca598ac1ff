import Footfall.Json.Value

/-!
# Requests and answers

The parts of HTTP messages that the service reads and writes.

## Main Definitions

* `Request`, `Response` — the messages
* `Request.header?` — the value of a header
* `Request.path`, `Request.query` — the parts of the target
-/

namespace Footfall

/-- A request. -/
structure Request where
  /-- The method. -/
  method : String
  /-- Path and query, percent-encoded as sent. -/
  target : String
  /-- Headers in their order. -/
  headers : List (String × String)
  /-- The body. -/
  body : String

/-- The body of an answer. -/
inductive Body where
  /-- None. -/
  | empty
  /-- A text. -/
  | text (s : String)
  /-- A JSON value. -/
  | json (value : Json)

/-- An answer. -/
structure Response where
  /-- The status code. -/
  status : Nat
  /-- Headers with their values; names are in lower case. -/
  headers : List (String × String)
  /-- The body. -/
  body : Body

namespace Request

/-- Whether a header value can be read as text: printable ASCII and tabs. -/
def isReadable (value : String) : Bool :=
  value.toList.all fun c => c == '\t' || (32 ≤ c.toNat && c.toNat < 127)

/-- The first value of a header, if it can be read as text. -/
def header? (r : Request) (name : String) : Option String :=
  ((r.headers.find? fun h => h.1.toLower == name).map (·.2)).filter isReadable

/-- The path of the target. -/
def path (r : Request) : String :=
  String.ofList (r.target.toList.takeWhile fun c => c != '?' && c != '#')

/-- The query of the target, empty without one. -/
def query (r : Request) : String :=
  let rest := (r.target.toList.takeWhile (· != '#')).dropWhile (· != '?')
  String.ofList (rest.drop 1)

end Request

namespace Response

/-- An answer without a body. -/
def bare (status : Nat) : Response :=
  ⟨status, [], .empty⟩

/-- An answer with a text. -/
def plain (status : Nat) (text : String) : Response :=
  ⟨status, [("content-type", "text/plain; charset=utf-8")], .text text⟩

/-- An answer with a JSON value. -/
def ofJson (status : Nat) (value : Json) : Response :=
  ⟨status, [("content-type", "application/json")], .json value⟩

/-- The value of a header. -/
def header? (r : Response) (name : String) : Option String :=
  (r.headers.find? (·.1 == name)).map (·.2)

/-- Adds headers after those that are there. -/
def withHeaders (r : Response) (headers : List (String × String)) : Response :=
  { r with headers := r.headers ++ headers }

/-- Drops the body. -/
def withoutBody (r : Response) : Response :=
  { r with body := .empty }

end Response

end Footfall
