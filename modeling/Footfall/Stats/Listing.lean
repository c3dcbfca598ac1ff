import Footfall.Stats.Breakdown

/-!
# Listings

Single pageviews with the names behind their references, newest first.

## Main Definitions

* `Pageview` — a fact with its names
* `Store.listPageviews` — a page of the listing of a site

## Design Notes

Pageviews of one moment are listed by descending id, so the order is total and pages never
overlap. As for the most viewed pages, an empty page is asked for without a look at the facts.
-/

namespace Footfall

/-- A fact with the names behind its references. -/
structure Pageview where
  /-- Id of the fact. -/
  id : Int
  /-- When the page was viewed, to the microsecond. -/
  time : Instant
  /-- Fingerprint of the visitor. -/
  visitor : Nat
  /-- The value of each dimension, none for a missing reference. -/
  names : PerDimension (Option String)
  deriving DecidableEq

/-- The store skips at most this many rows. -/
def maxOffset : Nat := 9223372036854775807

/-- Newest first, then by descending id. -/
def Fact.listedBefore (a b : Fact) : Bool :=
  b.time < a.time || (b.time == a.time && b.id ≤ a.id)

namespace Store

/-- The rows of all reference tables. -/
def allDimensionRows (s : Store) : Except StoreFault (PerDimension (List DimensionRow)) := do
  .ok {
    country := ← s.dimensionRows .country
    region := ← s.dimensionRows .region
    city := ← s.dimensionRows .city
    browser := ← s.dimensionRows .browser
    operatingSystem := ← s.dimensionRows .operatingSystem
    deviceType := ← s.dimensionRows .deviceType
    language := ← s.dimensionRows .language
    referrer := ← s.dimensionRows .referrer
    path := ← s.dimensionRows .path }

/-- The facts that are sorted for a page. For a page without rows, these are none. -/
def listedFacts (s : Store) (site : String) (range : Span) (limit : Nat) :
    Except StoreFault (List Fact) :=
  if limit = 0 then s.factRows.map fun _ => [] else s.siteFacts site range

/-- Reads a page of the listing. -/
def readListing (s : Store) (site : String) (range : Span) (limit offset : Nat) :
    Except StoreFault (List Pageview) := do
  let rows ← s.allDimensionRows
  let facts ← s.listedFacts site range limit
  let page := ((facts.mergeSort Fact.listedBefore).drop offset).take limit
  page.mapM fun f => do
    let time ← f.time.readExact
    .ok ⟨f.id, time, f.visitor, .ofFn fun d => nameOf (rows.get d) (f.ids.get d)⟩

/-- At most `limit` pageviews of a site in a range, after the first `offset` of them. -/
def listPageviews (s : Store) (site : String) (start stop : Instant) (limit offset : Nat) :
    Except StatsError (List Pageview) := do
  (checkRange start stop).mapError .invalidInput
  if maxOffset < offset then .error (.invalidInput (.offsetOutOfRange offset))
  else (s.readListing site ⟨start, stop⟩ (min limit maxRows) offset).mapError .query

end Store

end Footfall
