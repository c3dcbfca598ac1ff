import Footfall.Stats.Series

/-!
# Filling gaps

A series with a point for every bucket of a range.

## Main Definitions

* `walk` — the boundaries from one instant to another
* `densify` — a point for every boundary
* `Granularity.densify` — a point for every bucket of a range
* `densifyBy?` — boundaries at a fixed distance

## Design Notes

A walk ends where a step fails to lead forward, so every step function gives a finite walk.
-/

namespace Footfall

/-- The boundaries from `cursor` to `stop`, as long as each step leads forward. -/
def walk (step : Instant → Instant) (stop cursor : Instant) : List Instant :=
  if cursor ≤ stop then
    if cursor < step cursor then cursor :: walk step stop (step cursor) else [cursor]
  else []
termination_by (stop.key - cursor.key + 1).toNat
decreasing_by
  rename_i hle hlt
  rw [Instant.le_iff] at hle
  rw [Instant.lt_iff] at hlt
  omega

/-- The last of the points at an instant, or the zero point. -/
def pointAt (points : List Point) (t : Instant) : Point :=
  (points.reverse.find? (·.time == t)).getD (.zero t)

/-- A point for every boundary of a walk. Points between boundaries are dropped. -/
def densify (points : List Point) (start stop : Instant) (step : Instant → Instant) :
    List Point :=
  (walk step stop start).map (pointAt points)

/-- A point for every bucket from the one that holds `start` to the one that holds `stop`. -/
def Granularity.densify (g : Granularity) (points : List Point) (start stop : Instant) :
    List Point :=
  Footfall.densify points (g.truncate start) (g.truncate stop) g.step

/-- A point for every boundary, each `width` nanoseconds after the one before. There is no such
series if a boundary has no successor in the calendar. -/
def densifyBy? (points : List Point) (start stop : Instant) (width : Int) :
    Option (List Point) :=
  let boundaries := walk (fun t => (t.add? width).getD t) stop start
  if boundaries.all fun t => (t.add? width).isSome then some (boundaries.map (pointAt points))
  else none

end Footfall
