import Footfall.Error

/-!
# Ranges of time

An inclusive range, and its parts before and from the midnight of today.

## Main Definitions

* `checkRange` — refuses a range that ends before it starts
* `checkBuckets` — refuses a range of too many buckets
* `Span`, `Split` — an inclusive range, and the two parts of one
* `split?` — cuts a range at the midnight of today

## Design Notes

The first part ends one microsecond before midnight, which is as near as a stored moment comes. On
the first day of the calendar there is no such instant, hence no split.
-/

namespace Footfall

/-- Refuses a range that ends before it starts. -/
def checkRange (start stop : Instant) : Except InputFault Unit :=
  if stop < start then .error (.reversedRange start stop) else .ok ()

/-- Refuses a range of more buckets than a series may have. -/
def checkBuckets (g : Granularity) (start stop : Instant) : Except InputFault Unit :=
  let count := g.bucketCount start stop
  if Granularity.maxBuckets < count then .error (.tooManyBuckets count g) else .ok ()

/-- An inclusive range of time. -/
structure Span where
  /-- The first instant. -/
  start : Instant
  /-- The last instant. -/
  stop : Instant
  deriving DecidableEq

/-- The parts of a range before and from the midnight of today. -/
structure Split where
  /-- The part before midnight, if there is one. -/
  historic : Option Span
  /-- The part from midnight on, if there is one. -/
  live : Option Span
  deriving DecidableEq

/-- Cuts a range at the midnight before `now`. -/
def split? (start stop now : Instant) : Option Split := do
  let midnight := Instant.midnight now.day
  let lastHistoric ← midnight.add? (-Instant.microsecond)
  some {
    historic := if start < midnight then some ⟨start, stop.min lastHistoric⟩ else none
    live := if midnight ≤ stop then some ⟨start.max midnight, stop⟩ else none }

end Footfall
