import Footfall.Stats.Series

/-!
# Breakdowns

Pageviews of a site by page and by device class, and their number.

## Main Definitions

* `PageCount`, `Store.topPages` — the most viewed pages
* `DeviceShare`, `Store.deviceUsage` — the share of each device class
* `Store.countPageviews` — the number of pageviews

## Design Notes

A fact whose reference is missing or leads nowhere is counted under a label of its own. Ties are
broken by the label.

A query for no rows at all is answered from its plan. The store wants its tables and does not look
at a fact, so it does not come to refuse a bound either.
-/

namespace Footfall

/-- No breakdown or listing has more rows. -/
def maxRows : Nat := 1000

/-- The label of facts without a reference row. -/
def unknownLabel : String := "(unknown)"

/-- Pageviews and distinct visitors of one page. -/
structure PageCount where
  /-- Path of the page. -/
  path : String
  /-- Pageviews. -/
  count : Nat
  /-- Distinct visitors. -/
  visitors : Nat
  deriving DecidableEq

/-- Pageviews of one device class. -/
structure DeviceShare where
  /-- The device class. -/
  deviceType : String
  /-- Pageviews. -/
  count : Nat
  /-- Share of all pageviews, in percent. -/
  percentage : Float

/-- The value of a reference row. -/
def nameOf (rows : List DimensionRow) (id : Option Int) : Option String :=
  id.bind fun id => (rows.find? (·.id == id)).map (·.value)

/-- The value of a reference row, or the label of facts without one. -/
def labelOf (rows : List DimensionRow) (id : Option Int) : String :=
  (nameOf rows id).getD unknownLabel

/-- The facts of each label that occurs. -/
def byLabel (label : Fact → String) (facts : List Fact) : List (String × List Fact) :=
  (distinct (facts.map label)).map fun l => (l, facts.filter (label · == l))

/-- The order of a ranking: more facts first, then by label. -/
def ranksBefore (a b : String × List Fact) : Bool :=
  b.2.length < a.2.length || (b.2.length == a.2.length && decide (a.1 ≤ b.1))

/-- The labels that occur with their facts, those of most facts first. -/
def ranking (label : Fact → String) (facts : List Fact) : List (String × List Fact) :=
  (byLabel label facts).mergeSort ranksBefore

namespace Store

/-- Counts the pageviews of a site in a range. -/
def countPageviews (s : Store) (site : String) (start stop : Instant) :
    Except StatsError Nat := do
  (checkRange start stop).mapError .invalidInput
  let facts ← (s.siteFacts site ⟨start, stop⟩).mapError .query
  .ok facts.length

/-- Reads the ranking of the values of a dimension. -/
def readRanking (s : Store) (d : Dimension) (site : String) (range : Span) :
    Except StoreFault (List (String × List Fact)) := do
  let rows ← s.dimensionRows d
  let facts ← s.siteFacts site range
  .ok (ranking (fun f => labelOf rows (f.ids.get d)) facts)

/-- Reads the first rows of the ranking of the pages. -/
def readTopPages (s : Store) (site : String) (range : Span) (limit : Nat) :
    Except StoreFault (List (String × List Fact)) := do
  if limit = 0 then
    let _ ← s.dimensionRows .path
    let _ ← s.factRows
    .ok []
  else
    let ranked ← s.readRanking .path site range
    .ok (ranked.take limit)

/-- The most viewed pages of a site in a range. -/
def topPages (s : Store) (site : String) (start stop : Instant) (limit : Nat) :
    Except StatsError (List PageCount) := do
  (checkRange start stop).mapError .invalidInput
  let ranked ← (s.readTopPages site ⟨start, stop⟩ (min limit maxRows)).mapError .query
  .ok (ranked.map fun (path, facts) => ⟨path, facts.length, (visitorsOf facts).length⟩)

/-- The share of each device class in the pageviews of a site in a range. -/
def deviceUsage (s : Store) (site : String) (start stop : Instant) :
    Except StatsError (List DeviceShare) := do
  let total ← s.countPageviews site start stop
  if total = 0 then .ok []
  else
    let ranked ← (s.readRanking .deviceType site ⟨start, stop⟩).mapError .query
    .ok (ranked.map fun (device, facts) =>
      ⟨device, facts.length, toFloat facts.length / toFloat total * 100.0⟩)

end Store

end Footfall
