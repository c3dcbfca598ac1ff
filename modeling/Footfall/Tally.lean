import Footfall.Store.Basic

/-!
# Counting visits

Pageviews, distinct visitors and bounces of a list of facts.

## Main Definitions

* `distinct` — a list without repetitions
* `viewsOf` — how many of the facts are views of one visitor
* `Totals` — pageviews, distinct visitors and visitors with a single view
* `Totals.ofFacts`, `countFacts` — the totals of a list of facts
* `bounceRate` — the share of visitors with a single view

## Main Statements

* `mem_distinct`, `nodup_distinct` — `distinct` keeps each member, once
-/

namespace Footfall

/-! ## Distinct members -/

section Distinct

variable {α : Type} [DecidableEq α]

/-- The members of a list, each once. -/
def distinct : List α → List α
  | [] => []
  | a :: as => if a ∈ as then distinct as else a :: distinct as

@[simp] theorem mem_distinct {a : α} {as : List α} : a ∈ distinct as ↔ a ∈ as := by
  induction as with
  | nil => rfl
  | cons b as ih =>
    unfold distinct
    split
    · next h =>
      rw [ih, List.mem_cons]
      exact ⟨.inr, fun hb => hb.elim (fun e => e ▸ h) id⟩
    · rw [List.mem_cons, List.mem_cons, ih]

theorem nodup_distinct (as : List α) : (distinct as).Nodup := by
  induction as with
  | nil => exact .nil
  | cons b as ih =>
    unfold distinct
    split
    · exact ih
    · next h => exact List.nodup_cons.2 ⟨fun hb => h (mem_distinct.1 hb), ih⟩

end Distinct

/-! ## Totals -/

/-- How many of the facts are views of `visitor`. -/
def viewsOf (facts : List Fact) (visitor : Nat) : Nat :=
  facts.countP fun f => f.visitor == visitor

/-- The visitors of some facts. -/
def visitorsOf (facts : List Fact) : List Nat :=
  distinct (facts.map (·.visitor))

/-- The measures of a set of pageviews. -/
structure Totals where
  /-- Pageviews. -/
  pageviews : Nat := 0
  /-- Distinct visitors. -/
  visitors : Nat := 0
  /-- Visitors with a single view. -/
  bounces : Nat := 0
  deriving DecidableEq, Repr

namespace Totals

/-- The totals of a list of facts. -/
def ofFacts (facts : List Fact) : Totals where
  pageviews := facts.length
  visitors := (visitorsOf facts).length
  bounces := (visitorsOf facts).countP fun v => viewsOf facts v == 1

/-- Adds measure by measure. -/
def add (a b : Totals) : Totals :=
  ⟨a.pageviews + b.pageviews, a.visitors + b.visitors, a.bounces + b.bounces⟩

end Totals

/-- The floating-point number nearest to a natural number below 2^64. -/
def toFloat (n : Nat) : Float :=
  n.toUInt64.toFloat

/-- The share of visitors with a single view, zero without visitors. -/
def bounceRate (bounces visitors : Nat) : Float :=
  if visitors = 0 then 0.0 else toFloat bounces / toFloat visitors

/-! ## Selections and sums -/

/-- Whether a fact belongs to a site. -/
def Fact.ofSite (site : String) (f : Fact) : Bool :=
  f.site == site

/-- Whether a moment lies from `start` to `stop`, both included. -/
def Timestamp.within (t start stop : Timestamp) : Bool :=
  start ≤ t && t ≤ stop

/-- Whether a moment lies from `start` to before `stop`. -/
def Timestamp.fromUpTo (t start stop : Timestamp) : Bool :=
  start ≤ t && t < stop

/-- The sum of some numbers. -/
def total (ns : List Int) : Int :=
  ns.foldr (· + ·) 0

/-- A total as it is read from the store, which must be a whole number from 0 to 2^63 - 1. -/
def readTotal (n : Int) : Except StoreFault Nat :=
  if 0 ≤ n ∧ n < 9223372036854775808 then .ok n.toNat else .error (.outOfRange n)

/-- The totals of a list of facts as they are read from the store. No measure exceeds the
pageviews, which are at most 2^63 - 1. -/
def countFacts (facts : List Fact) : Except StoreFault Totals :=
  if facts.length < 9223372036854775808 then .ok (.ofFacts facts)
  else .error (.outOfRange facts.length)

end Footfall
