import Footfall.Geo.Section

/-!
# Data of a known shape

What a program expects at a position of a section, and what it finds there.

## Main Definitions

* `Shape` — what is expected
* `Datum` — what is found
* `Section.read?` — the datum of a shape at a position

## Design Notes

A record may lack any of its fields, and members that are no fields are passed over whatever they
hold. A field that occurs twice or holds something else than expected spoils all of the datum.
-/

namespace Footfall.Geo

/-- What is expected at a position. -/
inductive Shape where
  | text
  /-- A natural number below `bound`. -/
  | whole (bound : Nat)
  /-- A number, of which only the kind is of interest. -/
  | real
  | flag
  | list (item : Shape)
  /-- Texts under any names. -/
  | table
  | record (fields : List (String × Shape))

/-- What is found. -/
inductive Datum where
  | text (s : String)
  | whole (n : Nat)
  | real
  | flag (b : Bool)
  | list (items : List Datum)
  | record (fields : List (String × Datum))
  deriving Inhabited

namespace Datum

/-- The text of a datum. -/
def text? : Datum → Option String
  | text s => some s
  | _ => none

/-- The number of a datum. -/
def whole? : Datum → Option Nat
  | whole n => some n
  | _ => none

/-- The first item of a datum. -/
def head? : Datum → Option Datum
  | list items => items.head?
  | _ => none

/-- The field of a name. -/
def field? (d : Datum) (name : String) : Option Datum :=
  match d with
  | record fields => (fields.find? (·.1 == name)).map (·.2)
  | _ => none

/-- Whether a record has a field of each name. -/
def hasFields (d : Datum) (names : List String) : Bool :=
  names.all fun name => (d.field? name).isSome

end Datum

/-- The fields of a record among its members. -/
def readFields (read : Shape → Nat → Option Datum) (members : List (String × Nat)) :
    List (String × Shape) → Option (List (String × Datum))
  | [] => some []
  | (name, shape) :: fields =>
    match members.filter (·.1 == name) with
    | [] => readFields read members fields
    | [(_, position)] => do
      let datum ← read shape position
      some ((name, datum) :: (← readFields read members fields))
    | _ => none

namespace Section

/-- The datum of a shape at a position, if data lie at most `depth` deep in it. -/
def readWithin? (s : Section) : (depth : Nat) → Shape → (position : Nat) → Option Datum
  | 0, _, _ => none
  | depth + 1, shape, position => do
    let v ← s.value? position
    match shape, v.kind with
    | .text, .text | .text, .bytes => (s.text? v.content v.size).map .text
    | .whole bound, _ => do
      let n ← s.integer? v
      if 0 ≤ n ∧ n < bound then some (.whole n.toNat) else none
    | .real, _ => if s.isReal v then some .real else none
    | .flag, .bool => if v.size ≤ 1 then some (.flag (v.size == 1)) else none
    | .list item, .array => do
      let positions ← s.positions? v.size v.content
      some (.list (← positions.mapM (s.readWithin? depth item)))
    | .table, .map => do
      let members ← s.members? v.size v.content
      some (.record (← members.mapM fun m => do some (m.1, .text (← s.textAt? m.2))))
    | .record fields, .map => do
      let members ← s.members? v.size v.content
      some (.record (← readFields (s.readWithin? depth) members fields))
    | _, _ => none

/-- The datum of a shape at a position. -/
def read? (s : Section) (shape : Shape) (position : Nat) : Option Datum :=
  s.readWithin? maxDepth shape position

end Section

end Footfall.Geo
