import Footfall.Rollup.Staleness
import Footfall.Stats.Range

/-!
# Series

The measures of a site bucket by bucket.

## Main Definitions

* `Bucket` — the totals of one bucket
* `Point` — one element of a series, with a rate in place of the bounces
* `Store.liveBuckets` — buckets counted from facts
* `Store.historicBuckets` — day buckets summed from the daily rollup
* `Store.series` — the series of a range

## Design Notes

Days before today come from the rollup and later ones from facts, so no day is counted from both.
Hours and months are always counted from facts.
-/

namespace Footfall

/-- The totals of one bucket. -/
structure Bucket where
  /-- Start of the bucket. -/
  start : Instant
  /-- What was counted. -/
  totals : Totals
  deriving DecidableEq

/-- One element of a series. -/
structure Point where
  /-- Start of the bucket. -/
  time : Instant
  /-- Pageviews. -/
  pageviews : Nat
  /-- Visitors. -/
  visitors : Nat
  /-- Share of visitors with a single view. -/
  bounceRate : Float

/-- The point at which nothing was counted. -/
def Point.zero (t : Instant) : Point :=
  ⟨t, 0, 0, 0.0⟩

/-- The element of a series for a bucket. -/
def Bucket.point (b : Bucket) : Point :=
  ⟨b.start, b.totals.pageviews, b.totals.visitors,
    Footfall.bounceRate b.totals.bounces b.totals.visitors⟩

namespace Store

/-- The facts of a site in a range, both ends included. -/
def siteFacts (s : Store) (site : String) (range : Span) : Except StoreFault (List Fact) := do
  let facts ← s.factRows
  selectRows [.ok (·.ofSite site), range.start.condition (· ≤ ·.time),
    range.stop.condition fun stop f => f.time ≤ stop] facts

/-- The rows of the daily rollup for a site in a range, both ends included. -/
def siteRows (s : Store) (site : String) (range : Span) :
    Except StoreFault (List (RollupKey × Measures)) := do
  let rollup ← s.dailyRows
  selectRows [.ok (·.1.site == site),
    (Granularity.day.truncate range.start).condition (· ≤ ·.1.bucket),
    range.stop.condition fun stop r => r.1.bucket ≤ stop] rollup.rows

/-- The sums of some rows of a rollup. -/
def sumRows (rows : List (RollupKey × Measures)) : Except StoreFault Totals := do
  let pageviews ← readTotal (total (rows.map (·.2.count)))
  let visitors ← readTotal (total (rows.map (·.2.visitors)))
  let bounces ← readTotal (total (rows.map (·.2.bounces)))
  .ok ⟨pageviews, visitors, bounces⟩

/-- The starts of the buckets in which facts lie, in order. -/
def bucketsOf (g : Granularity) (facts : List Fact) : List Timestamp :=
  (distinct (facts.map (·.time.truncate g))).mergeSort (· ≤ ·)

/-- Counts the facts of a site bucket by bucket. -/
def liveBuckets (s : Store) (site : String) (range : Span) (g : Granularity) :
    Except StoreFault (List Bucket) := do
  let facts ← s.siteFacts site range
  (bucketsOf g facts).mapM fun t => do
    .ok ⟨← t.readBucket, ← countFacts (facts.filter (·.time.truncate g == t))⟩

/-- Sums the rows of one bucket, which is named by its text. -/
def historicBucket (rows : List (RollupKey × Measures)) (text : String) :
    Except StoreFault Bucket := do
  let totals ← sumRows (rows.filter (·.1.bucket.bucketText == text))
  match Instant.ofStoredText? text with
  | some start => .ok ⟨start, totals⟩
  | none => .error (.notTimestamp text)

/-- Sums the daily rollup of a site day by day, in the order of the texts of the days. -/
def historicBuckets (s : Store) (site : String) (range : Span) :
    Except StoreFault (List Bucket) := do
  let rows ← s.siteRows site range
  let texts := (distinct (rows.map (·.1.bucket.bucketText))).mergeSort (· ≤ ·)
  texts.mapM (historicBucket rows)

/-- The day buckets of a range that is split at midnight. -/
def dayBuckets (s : Store) (site : String) (parts : Split) : Except StoreFault (List Bucket) := do
  let historic ← match parts.historic with
    | some range => s.historicBuckets site range
    | none => .ok []
  let live ← match parts.live with
    | some range => s.liveBuckets site range .day
    | none => .ok []
  .ok (historic ++ live)

/-- The buckets of a site from `start` to `stop` that hold anything. -/
def buckets (s : Store) (site : String) (start stop : Instant) (g : Granularity)
    (now : Instant) : Except StatsError (List Bucket) := do
  (checkRange start stop).mapError .invalidInput
  (checkBuckets g start stop).mapError .invalidInput
  match g with
  | .day =>
    match split? start stop now with
    | none => .error .beyondCalendar
    | some parts => (s.dayBuckets site parts).mapError .query
  | g => (s.liveBuckets site ⟨start, stop⟩ g).mapError .query

/-- The series of a site from `start` to `stop`, without the buckets that hold nothing. -/
def series (s : Store) (site : String) (start stop : Instant) (g : Granularity) (now : Instant) :
    Except StatsError (List Point) := do
  let buckets ← s.buckets site start stop g now
  .ok (buckets.map Bucket.point)

end Store

end Footfall
