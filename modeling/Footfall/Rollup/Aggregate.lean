import Footfall.Tally

/-!
# Aggregating facts

The rows that a rollup has for a list of facts: one for each bucket, site and combination of
reference ids that occurs.

## Main Definitions

* `Fact.key` — the key of the rollup row to which a fact contributes
* `Rollup.measures` — the measures of one row
* `Rollup.aggregate` — all rows

## Design Notes

A reference that a fact lacks counts as id zero. A bounce is a view whose visitor has no other
view on the site in the bucket, whatever the ids of that other view.
-/

namespace Footfall

/-- The key of the rollup row to which a fact contributes. -/
def Fact.key (g : Granularity) (f : Fact) : RollupKey :=
  ⟨f.time.truncate g, f.site, f.ids.map (·.getD 0)⟩

/-- Whether two facts are views of one visitor on one site in one bucket. -/
def Fact.sameVisit (g : Granularity) (a b : Fact) : Bool :=
  b.visitor == a.visitor && b.site == a.site && b.time.truncate g == a.time.truncate g

/-- Whether a fact is the only view of its visitor on its site in its bucket. -/
def Fact.isBounce (g : Granularity) (facts : List Fact) (f : Fact) : Bool :=
  facts.countP (f.sameVisit g) == 1

namespace Rollup

/-- The facts that contribute to a row. -/
def group (g : Granularity) (facts : List Fact) (k : RollupKey) : List Fact :=
  facts.filter fun f => f.key g == k

/-- The measures of a row. -/
def measures (g : Granularity) (facts : List Fact) (k : RollupKey) : Measures where
  count := (group g facts k).length
  visitors := (visitorsOf (group g facts k)).length
  bounces := (group g facts k).countP (·.isBounce g facts)

/-- The keys of all rows. -/
def keys (g : Granularity) (facts : List Fact) : List RollupKey :=
  distinct (facts.map (·.key g))

/-- The rows of a list of facts. -/
def aggregate (g : Granularity) (facts : List Fact) : List (RollupKey × Measures) :=
  (keys g facts).map fun k => (k, measures g facts k)

theorem mem_keys {g : Granularity} {facts : List Fact} {k : RollupKey} :
    k ∈ keys g facts ↔ ∃ f ∈ facts, f.key g = k := by
  simp [keys]

end Rollup

end Footfall
