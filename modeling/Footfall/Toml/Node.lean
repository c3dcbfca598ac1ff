/-!
# TOML tables

The values of a TOML document, and how its lines fill the tables.

## Main Definitions

* `Toml.Node` — a value or a table
* `Node.text?`, `Node.texts?`, `Node.bool?`, `Node.below?` — what a value of one kind holds
* `Toml.Origin` — how a table came about
* `Toml.assign?` — what a line with a key and a value does
* `Toml.openTable?`, `Toml.openElement?` — what a header does

## Design Notes

A table may be opened by one header only, and a key may be given once only. A table that is only
passed through by a longer header may still get a header of its own. Tables that come from dotted
keys may grow by dotted keys and by longer headers, but not by a header of their own.
-/

namespace Footfall.Toml

/-- How a table came about. -/
inductive Origin where
  /-- It has a header of its own. -/
  | header
  /-- A longer header passes through it. -/
  | passed
  /-- A dotted key passes through it. -/
  | dotted
  /-- It is written in braces. -/
  | braces
  deriving DecidableEq, Repr

/-- A value or a table. -/
inductive Node where
  | text (s : String)
  | integer (n : Int)
  | float
  | bool (b : Bool)
  /-- A date, a time or both. -/
  | moment
  | array (items : List Node)
  | table (origin : Origin) (members : List (String × Node))
  /-- Tables under repeated headers. -/
  | elements (tables : List (List (String × Node)))
  deriving Inhabited

/-! ## Values of one kind -/

/-- The text of a string. -/
def Node.text? : Node → Option String
  | .text s => some s
  | _ => none

/-- The texts of an array of strings. -/
def Node.texts? : Node → Option (List String)
  | .array items => items.mapM Node.text?
  | _ => none

/-- The value of a boolean. -/
def Node.bool? : Node → Option Bool
  | .bool b => some b
  | _ => none

/-- The value of an integer that is not negative and below `bound`. -/
def Node.below? (bound : Nat) : Node → Option Nat
  | .integer n => if 0 ≤ n ∧ n < bound then some n.toNat else none
  | _ => none

/-! ## Tables -/

/-- The members of a table in the order in which they came. -/
abbrev Members := List (String × Node)

/-- The member of a name. -/
def find? (ms : Members) (name : String) : Option Node :=
  (ms.find? (·.1 == name)).map (·.2)

/-- Writes a member over the one of its name, or after all others. -/
def put (ms : Members) (name : String) (node : Node) : Members :=
  if ms.any (·.1 == name) then ms.map fun m => if m.1 == name then (name, node) else m
  else ms ++ [(name, node)]

/-- Whether a dotted key may pass through a table. -/
def Origin.takesDotted : Origin → Bool
  | passed | dotted => true
  | header | braces => false

/-- Whether a header may pass through a table. -/
def Origin.takesHeader : Origin → Bool
  | header | passed | dotted => true
  | braces => false

/-- Changes the table at the end of a path. Tables that are missing on the way get the origin
`missing`; `takes` says through which tables the path may pass. Of repeated tables it takes the
last. -/
def update? (missing : Origin) (takes : Origin → Bool)
    (change : Origin → Members → Option Members) :
    (path : List String) → Origin → Members → Option Members
  | [], origin, ms => change origin ms
  | name :: path, _, ms =>
    match find? ms name with
    | none =>
      (update? missing takes change path missing []).map fun sub => put ms name (.table missing sub)
    | some (.table origin sub) =>
      if takes origin then
        (update? missing takes change path origin sub).map fun sub =>
          put ms name (.table origin sub)
      else none
    | some (.elements tables) =>
      match tables.getLast? with
      | none => none
      | some last =>
        (update? missing takes change path .header last).map fun sub =>
          put ms name (.elements (tables.dropLast ++ [sub]))
    | some _ => none

/-- Gives a key its value in the table that a dotted path leads to. Keys of one table are all
reached by a path or all without. -/
def assign? (path : List String) (name : String) (value : Node) (origin : Origin) (ms : Members) :
    Option Members :=
  update? .dotted Origin.takesDotted (fun origin ms =>
    if (origin == .dotted) == path.isEmpty then none
    else if (find? ms name).isSome then none
    else some (put ms name value)) path origin ms

/-- Opens the table of a header. -/
def openTable? (path : List String) (name : String) (root : Members) : Option Members :=
  update? .passed Origin.takesHeader (fun _ ms =>
    match find? ms name with
    | none => some (put ms name (.table .header []))
    | some (.table .passed sub) => some (put ms name (.table .header sub))
    | some _ => none) path .header root

/-- Opens one more of the tables of a repeated header. -/
def openElement? (path : List String) (name : String) (root : Members) : Option Members :=
  update? .passed Origin.takesHeader (fun _ ms =>
    match find? ms name with
    | none => some (put ms name (.elements [[]]))
    | some (.elements tables) => some (put ms name (.elements (tables ++ [[]])))
    | some _ => none) path .header root

/-- Gives a key its value in the table that a header opened. -/
def assignUnder? (header path : List String) (name : String) (value : Node) (root : Members) :
    Option Members :=
  update? .passed Origin.takesHeader (assign? path name value) header .header root

end Footfall.Toml
