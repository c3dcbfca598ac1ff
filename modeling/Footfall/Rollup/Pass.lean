import Footfall.Rollup.Staleness

/-!
# Compaction passes

When the next pass is due, and what a pass does.

## Main Definitions

* `nextRunAfter?` — when the next daily pass is due
* `Pass` — the days that a pass compacted and those it gave up
* `Store.runPass` — compacts yesterday, then every stale day
* `Store.runRepair` — compacts every stale day

## Design Notes

A day that fails changes nothing and stops no later day. A pass whose scan for stale days fails
still compacts yesterday.
-/

namespace Footfall

/-- The longest delay after midnight, in nanoseconds; a longer one counts as none. -/
def maxDelay : Nat := 9223372036854775807000000

/-- The first instant after `now` that lies `delay` nanoseconds after a midnight, or none if the
calendar does not have it. -/
def nextRunAfter? (now : Instant) (delay : Nat) : Option Instant := do
  let delay := if delay ≤ maxDelay then delay else 0
  let today ← (Instant.midnight now.day).add? delay
  if now < today then some today
  else
    match now.day.next? with
    | some next => (Instant.midnight next).add? delay
    | none => some today

/-- What became of the days of a pass. -/
structure Pass where
  /-- Reports of the days that were compacted. -/
  compacted : List Report := []
  /-- The days that failed. -/
  failed : List (Day × StatsError) := []

namespace Store

/-- Compacts one day of a pass. -/
def compactNext (now : Instant) (state : Store × Pass) (day : Day) : Store × Pass :=
  match state.1.compactDay day now with
  | .ok (s, report) => (s, { state.2 with compacted := state.2.compacted ++ [report] })
  | .error e => (state.1, { state.2 with failed := state.2.failed ++ [(day, e)] })

/-- Compacts days one after another. -/
def compactEach (s : Store) (days : List Day) (now : Instant) : Store × Pass :=
  days.foldl (compactNext now) (s, {})

/-- The days of a pass: yesterday, then the other stale days. -/
def passDays (s : Store) (now : Instant) (lookback : Nat) : List Day :=
  let yesterday := now.day.pred?.toList
  match s.staleDays now lookback with
  | .ok stale => yesterday ++ stale.filter (! yesterday.contains ·)
  | .error _ => yesterday

/-- Compacts yesterday, then every other stale day. -/
def runPass (s : Store) (now : Instant) (lookback : Nat) : Store × Pass :=
  s.compactEach (s.passDays now lookback) now

/-- Compacts every stale day. -/
def runRepair (s : Store) (now : Instant) (lookback : Nat) : Store × Pass :=
  match s.staleDays now lookback with
  | .ok stale => s.compactEach stale now
  | .error _ => (s, {})

end Store

end Footfall
