import Footfall.Rollup.Aggregate

/-!
# Compacting a day

The facts of a day that is over become daily and hourly rows and a watermark, all or nothing.

## Main Definitions

* `Report` — what a compaction wrote
* `Store.factsBetween` — the facts of a span of time
* `Store.compactDay` — compacts a day

## Design Notes

Rows are written over those of an earlier compaction. Rows whose key has no fact now are left
alone, but facts are never removed, so a key that once had a fact has one for ever.

The watermark holds the midnight of the day and the time of the compaction, so a day with a text
that the store refuses is given up whether it has facts or not. Its texts are read first here.
-/

namespace Footfall

/-- What a compaction wrote. -/
structure Report where
  /-- The day. -/
  day : Day
  /-- Facts of the day. -/
  factCount : Nat
  /-- Daily rows written. -/
  dailyRows : Nat
  /-- Hourly rows written. -/
  hourlyRows : Nat
  deriving DecidableEq

namespace Store

/-- The facts from `start` to before `stop`. -/
def factsBetween (s : Store) (start stop : Timestamp) : Except StoreFault (List Fact) := do
  let facts ← s.factRows
  .ok (facts.filter fun f => f.time.fromUpTo start stop)

/-- Writes the rows and the watermark of the day from `start` to before `stop`. -/
def writeDay (s : Store) (day : Day) (start stop now : Instant) :
    Except StoreFault (Store × Report) := do
  let first ← start.stored
  let facts ← s.factsBetween first (← stop.stored)
  let daily := Rollup.aggregate .day facts
  let dailyTable ← s.dailyRows
  let hourly := Rollup.aggregate .hour facts
  let hourlyTable ← s.hourlyRows
  let marks ← s.watermarkRows
  let mark : WatermarkRow := ⟨← now.stored, facts.length, daily.length, hourly.length⟩
  let s := { s with
    daily := .table (dailyTable.putAll daily)
    hourly := .table (hourlyTable.putAll hourly)
    watermarks := .table (marks.put first mark) }
  .ok (s, ⟨day, facts.length, daily.length, hourly.length⟩)

/-- Compacts a day that ended before the day of `now`. -/
def compactDay (s : Store) (day : Day) (now : Instant) : Except StatsError (Store × Report) :=
  if now.day ≤ day then .error (.invalidInput (.unfinishedDay day now.day))
  else
    match day.next? with
    | none => .error (.invalidInput (.noFollowingDay day))
    | some next =>
      (s.writeDay day (.midnight day) (.midnight next) now).mapError (.compaction day)

end Store

end Footfall
