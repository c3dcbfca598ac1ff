import Footfall.Store.Basic

/-!
# Resolving natural keys

From the value of a dimension to the id of its reference row, which is created on first sight.

## Main Definitions

* `NaturalKey` — a dimension, a value and, for regions and cities, the id of the parent row
* `Store.lookup`, `Store.insertIfAbsent` — the two statements that a resolution is made of
* `Resolving` — a resolution under way, one statement at a time
* `Store.resolve` — a resolution without interruption
* `Store.hold`, `Store.release` — an insertion in a transaction that stays open

## Design Notes

An insertion takes the next id of its table whether or not the key turns out to be taken. Whoever
loses the race for a key reads the winner's row, so a lost race is no error. A row in an open
transaction is seen by nobody and blocks nobody; its commit fails if the key was taken meanwhile.
-/

namespace Footfall

/-- The natural key of a reference row. -/
structure NaturalKey where
  /-- Dimension of the row. -/
  dimension : Dimension
  /-- Id of the row that scopes the value. -/
  parent : Option Int
  /-- Natural value. -/
  value : String
  deriving DecidableEq, Repr

namespace NaturalKey

/-- Refuses an empty value, a missing parent and a parent that the dimension does not have. -/
def validate (k : NaturalKey) : Except InputFault Unit :=
  if k.value.isEmpty then .error (.emptyKey k.dimension)
  else
    match k.dimension.parentColumn?, k.parent with
    | some column, none => .error (.missingParent k.dimension column)
    | none, some _ => .error (.needlessParent k.dimension)
    | _, _ => .ok ()

/-- The parent under which the row is kept, none for a flat dimension. -/
def scope (k : NaturalKey) : Option Int :=
  if k.dimension.parent?.isSome then k.parent else none

/-- Whether a row has this key. -/
def names (k : NaturalKey) (row : DimensionRow) : Bool :=
  row.parent == k.scope && row.value == k.value

end NaturalKey

/-- What became of an insertion. -/
inductive InsertOutcome where
  /-- The row is new. -/
  | created
  /-- Another row has the key. -/
  | conflict
  deriving DecidableEq, Repr

/-- The name of an outcome. -/
def InsertOutcome.name : InsertOutcome → String
  | created => "created"
  | conflict => "conflict"

namespace Store

/-! ## Statements -/

/-- The id of the row that has a key. -/
def lookup (s : Store) (k : NaturalKey) : Except StoreFault (Option Int) := do
  let rows ← s.dimensionRows k.dimension
  if k.parent.isSome != k.dimension.parent?.isSome then .error .parameterCount
  else .ok ((rows.find? k.names).map (·.id))

/-- The value of the row that has an id. -/
def valueOf (s : Store) (d : Dimension) (id : Int) : Except StoreFault (Option String) := do
  let rows ← s.dimensionRows d
  .ok ((rows.find? (·.id == id)).map (·.value))

/-- Takes the next id for a row with this key. The row is none if the key is taken, and also if
its parent is missing: then no id is taken, for the statement names a key that the table lacks. -/
def newRow (s : Store) (k : NaturalKey) : Except StoreFault (Store × Option DimensionRow) := do
  let rows ← s.dimensionRows k.dimension
  if k.dimension.parent?.isSome && k.parent.isNone then .ok (s, none)
  else
    let n := (s.dimensionIds.get k.dimension).getD 0 + 1
    let s := { s with dimensionIds := s.dimensionIds.set k.dimension (some n) }
    .ok (s, if rows.any k.names then none else some ⟨n, k.scope, k.value⟩)

/-- Appends a row to a reference table. -/
def addRow (s : Store) (d : Dimension) (row : DimensionRow) : Except StoreFault Store := do
  let rows ← s.dimensionRows d
  .ok { s with dimensions := s.dimensions.set d (.table (rows ++ [row])) }

/-- Creates the row of a key unless there is one. -/
def insertIfAbsent (s : Store) (k : NaturalKey) : Except StoreFault (Store × InsertOutcome) := do
  match ← s.newRow k with
  | (s, none) => .ok (s, .conflict)
  | (s, some row) => .ok (← s.addRow k.dimension row, .created)

end Store

/-! ## Resolution -/

/-- A resolution under way, with the number of rounds that follow this one. -/
inductive Resolving where
  /-- About to look the key up. -/
  | looking (rounds : Nat)
  /-- About to create the row. -/
  | inserting (rounds : Nat)
  /-- About to look the key up again. -/
  | rereading (rounds : Nat)
  /-- Over. -/
  | done (result : Except StoreFault Int)

namespace Resolving

/-- A resolution has this many rounds. -/
def rounds : Nat := 8

/-- The start of a resolution. -/
def start : Resolving := looking (rounds - 1)

/-- The next statement. -/
def step (k : NaturalKey) (s : Store) : Resolving → Store × Resolving
  | looking n =>
    match s.lookup k with
    | .error e => (s, done (.error e))
    | .ok (some id) => (s, done (.ok id))
    | .ok none => (s, inserting n)
  | inserting n =>
    match s.insertIfAbsent k with
    | .error e => (s, done (.error e))
    | .ok (s', _) => (s', rereading n)
  | rereading n =>
    match s.lookup k with
    | .error e => (s, done (.error e))
    | .ok (some id) => (s, done (.ok id))
    | .ok none =>
      match n with
      | 0 => (s, done (.error .noRows))
      | n + 1 => (s, looking n)
  | done result => (s, done result)

/-- As many statements, one after another. -/
def steps (k : NaturalKey) : Nat → Store → Resolving → Store × Resolving
  | 0, s, r => (s, r)
  | n + 1, s, r =>
    let (s', r') := r.step k s
    steps k n s' r'

/-- The result of a resolution; one that is not over has found no row. -/
def result : Resolving → Except StoreFault Int
  | done result => result
  | _ => .error .noRows

end Resolving

namespace Store

/-- The id of a key, whose row is created on first sight. The store keeps what a failed resolution
left behind. -/
def resolve (s : Store) (k : NaturalKey) : Store × Except StatsError Int :=
  match k.validate with
  | .error fault => (s, .error (.invalidInput fault))
  | .ok () =>
    let (s', r) := Resolving.start.steps k (3 * Resolving.rounds) s
    (s', r.result.mapError (.resolution k.dimension))

/-! ## An open transaction -/

/-- Begins a transaction that creates the row of a key unless there is one, and leaves it open. A
transaction that was open before is rolled back. -/
def hold (s : Store) (k : NaturalKey) : Store × Except StoreFault InsertOutcome :=
  match s.newRow k with
  | .error e => ({ s with held := some ⟨k.dimension, none⟩ }, .error e)
  | .ok (s', row) =>
    ({ s' with held := some ⟨k.dimension, row⟩ },
      .ok (if row.isSome then .created else .conflict))

/-- Writes the row of a transaction unless its key was taken meanwhile. -/
def commit (s : Store) (h : Held) : Except StoreFault Store := do
  match h.row with
  | none => .ok s
  | some row =>
    let rows ← s.dimensionRows h.dimension
    if rows.any fun r => r.parent == row.parent && r.value == row.value then .error .commitConflict
    else s.addRow h.dimension row

/-- Ends the open transaction. Nothing remains of it if it is rolled back or its commit fails. -/
def release (s : Store) (keep : Bool) : Store × Except StoreFault Unit :=
  match s.held with
  | none => (s, .error .noTransaction)
  | some h =>
    let s := { s with held := none }
    if keep then
      match s.commit h with
      | .ok s' => (s', .ok ())
      | .error e => (s, .error e)
    else (s, .ok ())

end Store

end Footfall
