import Footfall.Calendar.Instant

/-!
# Granularities

The three widths of a time bucket, the start of the bucket that holds an instant, and the start of
the next one.

## Main Definitions

* `Granularity` — hour, day or month
* `Granularity.truncate` — the start of the bucket that holds an instant
* `Granularity.step` — the start of the bucket after one
* `Granularity.bucketCount` — how many buckets two instants span

## Design Notes

At the end of the calendar there is no next bucket. `step` then answers the instant it was given,
which every walk over buckets takes as its end.
-/

namespace Footfall

/-- The width of a time bucket. -/
inductive Granularity where
  | hour
  | day
  | month
  deriving DecidableEq, Repr

namespace Granularity

/-- The name of a granularity. -/
def name : Granularity → String
  | hour => "hour"
  | day => "day"
  | month => "month"

/-- The granularity of a name, which is case sensitive. -/
def ofName? : String → Option Granularity
  | "hour" => some hour
  | "day" => some day
  | "month" => some month
  | _ => none

/-- The start of the bucket that holds `t`. -/
def truncate (g : Granularity) (t : Instant) : Instant :=
  match g with
  | hour => t.hourStart
  | day => .midnight t.day
  | month => .midnight t.day.monthStart

/-- The start of the bucket after the one that starts at `t`; at the end of the calendar, `t`. -/
def step (g : Granularity) (t : Instant) : Instant :=
  match g with
  | hour => (t.add? Instant.hour).getD t
  | day => (t.add? Instant.dayLength).getD t
  | month => (t.addMonths? 1).getD t

/-- Months since January of the year 0. -/
def monthIndex (d : Day) : Int :=
  d.civil.year * 12 + (d.civil.month - 1 : Nat)

/-- The number of buckets from the one that holds `start` to the one that holds `stop`, both
counted. It is zero or negative if `stop` lies in an earlier bucket. -/
def bucketCount (g : Granularity) (start stop : Instant) : Int :=
  let first := g.truncate start
  let last := g.truncate stop
  match g with
  | hour => (last.seconds - first.seconds) / 3600 + 1
  | day => last.day.number - first.day.number + 1
  | month => monthIndex last.day - monthIndex first.day + 1

/-- A series has at most this many buckets. -/
def maxBuckets : Nat := 10000

end Granularity

end Footfall
