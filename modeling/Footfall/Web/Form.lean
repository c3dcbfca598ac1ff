import Footfall.Text.Digits
import Footfall.Text.Utf8

/-!
# Forms

Names and values of a query in the media type `application/x-www-form-urlencoded`.

## Main Definitions

* `Form.parse` — the fields of a query
* `Form.field?` — the value of a field that may be missing and must not be repeated
* `Form.natural?` — such a field that holds a natural number
-/

namespace Footfall

/-- What is wrong with a form. -/
inductive FormFault where
  /-- A field is missing. -/
  | missing (name : String)
  /-- A field occurs more than once. -/
  | repeated (name : String)
  /-- A field holds no number of the range. -/
  | notNumber (name : String)
  deriving DecidableEq, Repr

/-- The fields of a query in their order. -/
abbrev Form := List (String × String)

namespace Form

/-- The byte of two hexadecimal digits. -/
def escaped? (a b : UInt8) : Option UInt8 := do
  some (16 * (← hexDigit? (Char.ofUInt8 a)) + (← hexDigit? (Char.ofUInt8 b))).toUInt8

/-- Replaces every escape by its byte. An escape that is malformed stays as it is. -/
def unescape : List UInt8 → List UInt8
  | 37 :: a :: b :: rest =>
    match escaped? a b with
    | some byte => byte :: unescape rest
    | none => 37 :: unescape (a :: b :: rest)
  | b :: rest => b :: unescape rest
  | [] => []

/-- The text of a name or value; a plus sign stands for a blank. -/
def component (bytes : List UInt8) : String :=
  Utf8.decode (unescape (bytes.map fun b => if b = 43 then 32 else b))

/-- The pieces of a run of bytes between marks. -/
def pieces (mark : UInt8) : List UInt8 → List (List UInt8)
  | [] => [[]]
  | b :: bs =>
    if b = mark then [] :: pieces mark bs
    else
      match pieces mark bs with
      | [] => [[b]]
      | piece :: rest => (b :: piece) :: rest

/-- The field of a piece: the name ends with the first equals sign. -/
def fieldOf (piece : List UInt8) : String × String :=
  (component (piece.takeWhile (· != 61)), component ((piece.dropWhile (· != 61)).drop 1))

/-- The fields of a query. -/
def parse (query : String) : Form :=
  ((pieces 38 query.toUTF8.toList).filter (!·.isEmpty)).map fieldOf

/-- The value of a field that may be missing and must not be repeated. -/
def field? (form : Form) (name : String) : Except FormFault (Option String) :=
  match form.filter (·.1 == name) with
  | [] => .ok none
  | [(_, value)] => .ok (some value)
  | _ => .error (.repeated name)

/-- The value of a field that must occur once. -/
def field (form : Form) (name : String) : Except FormFault String := do
  match ← form.field? name with
  | some value => .ok value
  | none => .error (.missing name)

/-- The value of a field that holds a natural number below 2^64, may be missing and must not be
repeated. -/
def natural? (form : Form) (name : String) : Except FormFault (Option Nat) := do
  match ← form.field? name with
  | none => .ok none
  | some value =>
    match naturalBelow? 18446744073709551616 value with
    | some n => .ok (some n)
    | none => .error (.notNumber name)

end Form

end Footfall
