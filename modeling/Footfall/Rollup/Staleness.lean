import Footfall.Rollup.CompactDay
import Footfall.Store.Select

/-!
# Stale days

Watermarks tell which past days have facts that no rollup covers yet.

## Main Definitions

* `Watermark` — the last compaction of a day
* `Store.watermark` — reads it
* `Store.staleDays` — past days whose facts are not covered
* `CrossCheck`, `Store.crossCheck` — facts against rollup for one site and day

## Design Notes

Facts are only ever added, so a day is covered exactly if it has as many facts as its watermark
says. Pageviews and bounces add up over rollup rows, and visitors do not, so only the first two
are cross-checked.
-/

namespace Footfall

/-- The last compaction of a day. -/
structure Watermark where
  /-- The day. -/
  day : Day
  /-- When it was compacted, to the second. -/
  compactedAt : Instant
  /-- Facts of the day at that time. -/
  factCount : Nat
  /-- Daily rows written. -/
  dailyRows : Nat
  /-- Hourly rows written. -/
  hourlyRows : Nat

/-- Facts against rollup for one site and day. -/
structure CrossCheck where
  /-- The site. -/
  site : String
  /-- The day. -/
  day : Day
  /-- Pageviews by the facts. -/
  factPageviews : Nat
  /-- Pageviews by the daily rollup. -/
  rollupPageviews : Nat
  /-- Bounces by the facts. -/
  factBounces : Nat
  /-- Bounces by the daily rollup. -/
  rollupBounces : Nat
  deriving DecidableEq

/-- Whether facts and rollup agree. -/
def CrossCheck.consistent (c : CrossCheck) : Bool :=
  c.factPageviews == c.rollupPageviews && c.factBounces == c.rollupBounces

/-- The instant of a bucket as it is read from the store. -/
def Timestamp.readBucket (t : Timestamp) : Except StoreFault Instant :=
  match Instant.ofStoredText? t.bucketText with
  | some i => .ok i
  | none => .error (.notTimestamp t.bucketText)

/-- The instant of a moment as it is read from the store with its six places. -/
def Timestamp.readExact (t : Timestamp) : Except StoreFault Instant :=
  match Instant.ofStoredText? t.text with
  | some i => .ok i
  | none => .error (.notTimestamp t.text)

namespace Store

/-- Reads the watermark of a day. -/
def readWatermark (s : Store) (day : Day) : Except StoreFault (Option Watermark) := do
  let marks ← s.watermarkRows
  let rows ← selectRows [(Instant.midnight day).condition fun first r => r.1 == first] marks.rows
  match rows with
  | [] => .ok none
  | (_, row) :: _ =>
    .ok (some ⟨day, ← row.compactedAt.readBucket, ← readTotal row.factCount,
      ← readTotal row.dailyRows, ← readTotal row.hourlyRows⟩)

/-- The last compaction of a day, if there was one. -/
def watermark (s : Store) (day : Day) : Except StatsError (Option Watermark) :=
  (s.readWatermark day).mapError .query

/-- The starts of the days on which facts lie, in order. -/
def daysOf (facts : List Fact) : List Timestamp :=
  (distinct (facts.map (·.time.truncate .day))).mergeSort (· ≤ ·)

/-- Whether a day has another number of facts than its watermark says. -/
def isStale (facts : List Fact) (marks : Table Timestamp WatermarkRow) (start : Timestamp) :
    Bool :=
  match marks.get? start with
  | none => true
  | some mark => mark.factCount != facts.countP fun f => f.time.truncate .day == start

/-- Reads the stale days from `start` to before `stop`. -/
def readStaleDays (s : Store) (start stop : Instant) : Except StoreFault (List Day) := do
  let facts ← s.factRows
  let marks ← s.watermarkRows
  let facts ← selectRows [start.condition (· ≤ ·.time), stop.condition fun stop f => f.time < stop]
    facts
  let starts := (daysOf facts).filter (isStale facts marks)
  starts.mapM fun t => do .ok (← t.readBucket).day

/-- The days before the day of `now`, at most `lookback` days back, whose facts are not covered by
their watermark. The oldest comes first. -/
def staleDays (s : Store) (now : Instant) (lookback : Nat) : Except StatsError (List Day) :=
  (s.readStaleDays (.midnight (now.day.back lookback)) (.midnight now.day)).mapError .query

/-- Reads facts and rollup of a site from `start` to before `stop`, where `start` is the midnight
of `day`. -/
def readCrossCheck (s : Store) (site : String) (day : Day) (start stop : Instant) :
    Except StoreFault CrossCheck := do
  let facts ← s.factRows
  let facts ← selectRows [.ok (·.ofSite site), start.condition (· ≤ ·.time),
    stop.condition fun stop f => f.time < stop] facts
  let totals ← countFacts facts
  let rollup ← s.dailyRows
  let rows ← selectRows [.ok (·.1.site == site),
    start.condition fun start r => r.1.bucket == start] rollup.rows
  let pageviews ← readTotal (total (rows.map (·.2.count)))
  let bounces ← readTotal (total (rows.map (·.2.bounces)))
  .ok ⟨site, day, totals.pageviews, pageviews, totals.bounces, bounces⟩

/-- Compares facts with the daily rollup for one site and day. -/
def crossCheck (s : Store) (site : String) (day : Day) : Except StatsError CrossCheck :=
  (s.readCrossCheck site day (.midnight day)
    (.midnight (day.next?.getD day))).mapError .query

end Store

end Footfall
