import Footfall.Json.Token

/-!
# Event payloads

What the tracking script sends: a JSON object with a site, the address of a page and, if there is
one, the address of the page before.

## Main Definitions

* `Payload` — site, address and referrer
* `Payload.parse` — reads a payload
* `PayloadFault` — whether a text is no JSON, or JSON of another shape

## Design Notes

The text is read from front to back, and the first thing wrong with it decides how it is refused.
Members of other names are passed over, whatever they hold. An array of the three values in
order is read like an object.
-/

namespace Footfall

/-- What the tracking script sends. -/
structure Payload where
  /-- Site of the page. -/
  site : String
  /-- Address of the page. -/
  url : String
  /-- Address of the page before. -/
  referrer : Option String
  deriving DecidableEq, Repr

/-- Why a text is no payload. -/
inductive PayloadFault where
  /-- It is no JSON. -/
  | malformed
  /-- It is JSON of another shape. -/
  | mismatched
  deriving DecidableEq, Repr

namespace Payload

/-! ## Values that nobody reads -/

/-- What may come next in a value that is passed over. -/
inductive Expected where
  /-- A value. -/
  | value
  /-- A value, or the end of the array that was just opened. -/
  | valueOrEnd
  /-- A name. -/
  | name
  /-- A name, or the end of the object that was just opened. -/
  | nameOrEnd
  /-- A colon. -/
  | colon
  /-- A comma, or the end of the innermost array or object. -/
  | commaOrEnd
  deriving DecidableEq, Repr

/-- What encloses a value. -/
inductive Enclosure where
  | array
  | object
  deriving DecidableEq, Repr

/-- Whether a word is a value by itself. -/
def isPlainValue : Token → Bool
  | .null | .bool | .number _ | .text _ => true
  | _ => false

/-- Whether a word ends the innermost enclosure. -/
def closes : Token → Enclosure → Bool
  | .closeBracket, .array => true
  | .closeBrace, .object => true
  | _, _ => false

/-- What comes after the comma in an enclosure. -/
def afterComma : Enclosure → Expected
  | .array => .value
  | .object => .name

/-- Passes over a value and answers the words after it; none if it is malformed. -/
def skip (e : Expected) (around : List Enclosure) : List Token → Option (List Token)
  | [] => none
  | t :: ts =>
    match e, around with
    | .commaOrEnd, inner :: outer =>
      if closes t inner then
        match outer with
        | [] => some ts
        | _ => skip .commaOrEnd outer ts
      else if t = .comma then skip (afterComma inner) around ts
      else none
    | .valueOrEnd, .array :: outer =>
      if t = .closeBracket then
        match outer with
        | [] => some ts
        | _ => skip .commaOrEnd outer ts
      else if t = .openBracket then skip .valueOrEnd (.array :: around) ts
      else if t = .openBrace then skip .nameOrEnd (.object :: around) ts
      else if isPlainValue t then skip .commaOrEnd around ts
      else none
    | .nameOrEnd, .object :: outer =>
      if t = .closeBrace then
        match outer with
        | [] => some ts
        | _ => skip .commaOrEnd outer ts
      else
        match t with
        | .text _ => skip .colon around ts
        | _ => none
    | .name, _ =>
      match t with
      | .text _ => skip .colon around ts
      | _ => none
    | .colon, _ => if t = .colon then skip .value around ts else none
    | .value, _ =>
      if t = .openBracket then skip .valueOrEnd (.array :: around) ts
      else if t = .openBrace then skip .nameOrEnd (.object :: around) ts
      else if isPlainValue t then
        match around with
        | [] => some ts
        | _ => skip .commaOrEnd around ts
      else none
    | _, _ => none

/-! ## Values that are read -/

/-- The fault of a word in the place of another value. -/
def wrongValue : Token → PayloadFault
  | .null | .bool | .openBrace | .openBracket => .mismatched
  | .number inRange => if inRange then .mismatched else .malformed
  | .text value => if value.isSome then .mismatched else .malformed
  | _ => .malformed

/-- Reads a text. -/
def readText : List Token → Except PayloadFault (String × List Token)
  | .text (some s) :: ts => .ok (s, ts)
  | t :: _ => .error (wrongValue t)
  | [] => .error .malformed

/-- Reads a text or null. -/
def readOptional : List Token → Except PayloadFault (Option String × List Token)
  | .null :: ts => .ok (none, ts)
  | ts => do
    let (s, ts) ← readText ts
    .ok (some s, ts)

/-- The members read so far. -/
structure Members where
  /-- The site. -/
  site : Option String := none
  /-- The address. -/
  url : Option String := none
  /-- The referrer, which may be null. -/
  referrer : Option (Option String) := none

/-- The payload of the members, of which only the referrer may be missing. -/
def Members.payload (m : Members) : Except PayloadFault Payload :=
  match m.site, m.url with
  | some site, some url => .ok ⟨site, url, m.referrer.getD none⟩
  | _, _ => .error .mismatched

/-- Passes over a colon. -/
def readColon : List Token → Except PayloadFault (List Token)
  | .colon :: ts => .ok ts
  | _ => .error .malformed

/-- Reads the value of a member. A name that was read before is refused at once. -/
def readMember (m : Members) (name : String) (ts : List Token) :
    Except PayloadFault (Members × List Token) :=
  match name with
  | "d" =>
    if m.site.isSome then .error .mismatched
    else do
      let (s, ts) ← readText (← readColon ts)
      .ok ({ m with site := some s }, ts)
  | "u" =>
    if m.url.isSome then .error .mismatched
    else do
      let (s, ts) ← readText (← readColon ts)
      .ok ({ m with url := some s }, ts)
  | "r" =>
    if m.referrer.isSome then .error .mismatched
    else do
      let (s, ts) ← readOptional (← readColon ts)
      .ok ({ m with referrer := some s }, ts)
  | _ => do
    match skip .value [] (← readColon ts) with
    | some ts => .ok (m, ts)
    | none => .error .malformed

/-- Reads members from a name on. Each has words of its own, so `most` words hold no more than
`most` members. -/
def readMembers : (most : Nat) → Members → List Token → Except PayloadFault (Payload × List Token)
  | 0, _, _ => .error .malformed
  | most + 1, m, .text (some name) :: ts => do
    let (m, ts) ← readMember m name ts
    match ts with
    | .closeBrace :: ts => .ok (← m.payload, ts)
    | .comma :: ts => readMembers most m ts
    | _ => .error .malformed
  | _, _, _ => .error .malformed

/-- Reads an object behind its brace. -/
def readObject (ts : List Token) : Except PayloadFault (Payload × List Token) :=
  match ts with
  | .closeBrace :: _ => .error .mismatched
  | ts => readMembers ts.length {} ts

/-- Passes over the comma before an item of an array. An array that ends too soon has another
shape. -/
def readComma : List Token → Except PayloadFault (List Token)
  | .comma :: .closeBracket :: _ => .error .malformed
  | .comma :: ts => .ok ts
  | .closeBracket :: _ => .error .mismatched
  | _ => .error .malformed

/-- Reads an array behind its bracket. -/
def readArray (ts : List Token) : Except PayloadFault (Payload × List Token) := do
  match ts with
  | .closeBracket :: _ => .error .mismatched
  | ts =>
    let (site, ts) ← readText ts
    let (url, ts) ← readText (← readComma ts)
    let (referrer, ts) ← readOptional (← readComma ts)
    match ts with
    | .closeBracket :: ts => .ok (⟨site, url, referrer⟩, ts)
    | _ => .error .malformed

/-- Reads a payload, after which nothing may follow. -/
def parse (s : String) : Except PayloadFault Payload := do
  let (payload, rest) ← match Token.scan s with
    | .openBrace :: ts => readObject ts
    | .openBracket :: ts => readArray ts
    | t :: _ => .error (wrongValue t)
    | [] => .error .malformed
  if rest.isEmpty then .ok payload else .error .malformed

end Payload

end Footfall
