import Footfall.Store.Basic

/-!
# Selecting rows

A query selects rows by tests, some of which compare a row with an instant. The instant is handed
over as text, which the store may refuse.

## Main Definitions

* `Condition` — a test of rows, or the fault of a text in it
* `Instant.condition` — the condition that compares rows with an instant
* `selectRows` — the rows that pass all conditions of a query

## Design Notes

The store plans a query with its texts at hand. Of a text that it takes it makes a plain moment, and
rows are compared with all of these first, and with the site. A text that it refuses stays in the
plan as it is and is refused again when a row gets as far as to be compared with it. So such a query
fails exactly if some row passes everything else, and on an empty table it does not fail at all.
-/

namespace Footfall

/-- A condition of a query: a test of rows, or the fault of a text in it that the store refuses. -/
abbrev Condition (α : Type) := Except StoreFault (α → Bool)

namespace Condition

variable {α : Type}

/-- Whether a row gets past a condition. A faulty one keeps no row back. -/
def admits (c : Condition α) (r : α) : Bool :=
  match c with
  | .ok test => test r
  | .error _ => true

/-- The fault of a condition. -/
def fault? (c : Condition α) : Option StoreFault :=
  match c with
  | .ok _ => none
  | .error fault => some fault

end Condition

/-- Compares rows with an instant, which is handed over as text. -/
def Instant.condition {α : Type} (t : Instant) (test : Timestamp → α → Bool) : Condition α :=
  t.stored.map test

/-- The rows that get past all conditions. -/
def admittedRows {α : Type} (conditions : List (Condition α)) (rows : List α) : List α :=
  rows.filter fun r => conditions.all (·.admits r)

/-- The rows that pass all conditions. A fault shows at the first row that gets so far. -/
def selectRows {α : Type} (conditions : List (Condition α)) (rows : List α) :
    Except StoreFault (List α) :=
  let admitted := admittedRows conditions rows
  match conditions.findSome? (·.fault?) with
  | some fault => if admitted.isEmpty then .ok [] else .error fault
  | none => .ok admitted

end Footfall
