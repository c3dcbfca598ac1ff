/-!
# Media types

Whether a content type names JSON.

## Main Definitions

* `MediaType.isJson` — whether a text is a media type for JSON, with any parameters

## Design Notes

A media type is JSON if its subtype, or the part of the subtype before or after its last plus
sign, is `json`. Parameters must be well formed but do not count.
-/

namespace Footfall.MediaType

/-- Characters of types, subtypes and parameters. -/
def isTokenChar (c : Char) : Bool :=
  c.isAlphanum || "!#$%&'+-.^_`|~".toList.contains c

/-- Where a reader of parameters stands. -/
inductive Place where
  /-- Before a name. -/
  | beforeName
  /-- In a name. -/
  | name
  /-- Before a value. -/
  | beforeValue
  /-- In a value. -/
  | value
  /-- Behind the opening quote of a value. -/
  | beforeQuoted
  /-- In a quoted value. -/
  | quoted
  /-- Behind the closing quote of a value. -/
  | afterQuoted
  deriving DecidableEq, Repr

namespace Place

/-- Reads a character of the parameters. -/
def next (p : Place) (c : Char) : Option Place :=
  match p with
  | beforeName => if c = ' ' then some beforeName else if isTokenChar c then some name else none
  | name => if isTokenChar c then some name else if c = '=' then some beforeValue else none
  | beforeValue => if c = '"' then some beforeQuoted else if isTokenChar c then some value else none
  | value => if isTokenChar c then some value else if c = ';' then some beforeName else none
  | beforeQuoted => if 31 < c.toNat ∧ c.toNat ≠ 127 then some quoted else none
  | quoted =>
    if c = '"' then some afterQuoted
    else if 31 < c.toNat ∧ c.toNat ≠ 127 then some quoted else none
  | afterQuoted =>
    if c = ' ' then some afterQuoted else if c = ';' then some beforeName else none

/-- Whether the parameters may end here. -/
def mayEnd (p : Place) : Bool :=
  p = beforeName || p = beforeValue || p = value || p = afterQuoted

/-- Whether parameters are well formed. -/
def accepts (p : Place) : List Char → Bool
  | [] => p.mayEnd
  | c :: cs =>
    match p.next c with
    | some q => q.accepts cs
    | none => false

end Place

/-- Cuts a subtype at its last plus sign, if that is not its first character. -/
def cutSuffix (subtype : List Char) : List Char × Option (List Char) :=
  let suffix := (subtype.reverse.takeWhile (· != '+')).reverse
  let base := subtype.take (subtype.length - suffix.length - 1)
  if suffix.length = subtype.length ∨ base.isEmpty then (subtype, none) else (base, some suffix)

/-- Whether a text is a media type for JSON. -/
def isJson (s : String) : Bool :=
  let cs := s.toList.map Char.toLower
  let type := cs.takeWhile isTokenChar
  match cs.drop type.length with
  | '/' :: rest =>
    let subtype := rest.takeWhile isTokenChar
    let (base, suffix) := cutSuffix subtype
    let wellFormed := match rest.drop subtype.length with
      | [] => true
      | ';' :: params => !subtype.isEmpty && Place.beforeName.accepts params
      | _ => false
    wellFormed && type == "application".toList &&
      (base == "json".toList || suffix == some "json".toList)
  | _ => false

end Footfall.MediaType
