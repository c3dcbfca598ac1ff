import Mathlib
import Footfall.Proofs.Stats.Gaps
import Footfall.Proofs.Stats.LiveSeries

/-!
# The cap on buckets

A series is refused by a number that is computed before the series is, from the two
ends of its range alone.  The number is the length of the filled series, whatever the
ends are: instants of the whole calendar, leap seconds among them, the end before the
start or in the bucket after which there is no other.

The number is computed in whole numbers of 64 bits.  The calendar has fewer seconds
than these can count, so no step of the computation leaves them.

## Main Definitions

* `signed64?` — a number, if it is one of 64 bits
* `Granularity.bucketCount64?` — the number of buckets, computed in 64 bits

## Main Statements

* `Granularity.length_densify` — a filled series has as many points as its range has buckets
* `Granularity.bucketCount64?_eq` — no step of the computation leaves 64 bits
* `Granularity.cap_measures_series` — the cap is one on the length of the filled series
-/

namespace Footfall

/-! ## Whole numbers of 64 bits -/

/-- A number, if it fits into 64 bits of which one is the sign. -/
def signed64? (n : ℤ) : Option ℤ :=
  if -9223372036854775808 ≤ n ∧ n < 9223372036854775808 then some n else none

theorem signed64?_of_bounds {n : ℤ} (lower : -9223372036854775808 ≤ n)
    (upper : n < 9223372036854775808) : signed64? n = some n :=
  if_pos ⟨lower, upper⟩

/-! ## Years of the calendar -/

/-- The calendar ends with the years -262143 and 262142. -/
theorem Day.year_bounds (d : Day) : -262143 ≤ d.civil.year ∧ d.civil.year ≤ 262142 := by
  have hfirst : Day.first.civil.year = -262143 := by decide
  have hlast : Day.last.civil.year = 262142 := by decide
  rw [← hfirst, ← hlast]
  exact ⟨Day.year_mono d.first_le, Day.year_mono d.le_last⟩

theorem Granularity.monthIndex_bounds (d : Day) :
    -3145716 ≤ monthIndex d ∧ monthIndex d ≤ 3145715 := by
  obtain ⟨hfirst, hlast⟩ := d.year_bounds
  have hmonth : d.civil.month ≤ 12 := (Civil.valid_ofDayNumber d.number).2.1
  simp only [monthIndex]
  omega

namespace Granularity

/-! ## The computation -/

/-- The seconds from one instant to another, as long as these and the milliseconds of the time
between them fit. -/
def secondsBetween64? (first last : Instant) : Option ℤ := do
  let seconds ← signed64? (last.seconds - first.seconds)
  let _ ← signed64? (seconds * 1000)
  some seconds

/-- How many times a width of seconds fits between two instants. -/
def wholeSpans64? (width : ℤ) (first last : Instant) : Option ℤ := do
  let seconds ← secondsBetween64? first last
  signed64? (seconds.tdiv width)

/-- The months since January of the year 0. -/
def monthIndex64? (d : Day) : Option ℤ := do
  let months ← signed64? (d.civil.year * 12)
  signed64? (months + (d.civil.month - 1 : ℕ))

/-- The number of buckets from the one that holds `start` to the one that holds `stop`, or none if
a step of its computation does not fit into 64 bits. -/
def bucketCount64? (g : Granularity) (start stop : Instant) : Option ℤ := do
  let first := g.truncate start
  let last := g.truncate stop
  let span ←
    match g with
    | hour => wholeSpans64? 3600 first last
    | day => wholeSpans64? 86400 first last
    | month => do
      let lastMonth ← monthIndex64? last.day
      let firstMonth ← monthIndex64? first.day
      signed64? (lastMonth - firstMonth)
  signed64? (span + 1)

theorem secondsBetween64?_eq (first last : Instant) :
    secondsBetween64? first last = some (last.seconds - first.seconds) := by
  have hfirst := first.first_le
  have hfirst' := first.le_last
  have hlast := last.first_le
  have hlast' := last.le_last
  rw [secondsBetween64?, signed64?_of_bounds (by omega) (by omega), Option.bind_eq_bind,
    Option.bind_some, signed64?_of_bounds (by omega) (by omega)]
  rfl

/-- Between the starts of buckets of one width lie whole widths. -/
theorem wholeSpans64?_eq {g : Granularity} {width : ℤ} (pos : width ≠ 0)
    (starts : ∀ n, g.startOf n = n * width) (start stop : Instant) :
    wholeSpans64? width (g.truncate start) (g.truncate stop) =
      some (g.numberOf stop.seconds - g.numberOf start.seconds) := by
  have hspan : ((g.truncate stop).seconds - (g.truncate start).seconds).tdiv width =
      g.numberOf stop.seconds - g.numberOf start.seconds := by
    rw [(starts_truncate g stop).1, (starts_truncate g start).1, starts, starts,
      ← Int.sub_mul, Int.mul_tdiv_cancel _ pos]
  have hle := Int.natAbs_tdiv_le_natAbs
    ((g.truncate stop).seconds - (g.truncate start).seconds) width
  have hfirst := (g.truncate start).first_le
  have hfirst' := (g.truncate start).le_last
  have hlast := (g.truncate stop).first_le
  have hlast' := (g.truncate stop).le_last
  rw [wholeSpans64?, secondsBetween64?_eq, Option.bind_eq_bind, Option.bind_some,
    signed64?_of_bounds (by omega) (by omega), hspan]

theorem monthIndex64?_eq (d : Day) : monthIndex64? d = some (monthIndex d) := by
  obtain ⟨hfirst, hlast⟩ := d.year_bounds
  obtain ⟨hfirst', hlast'⟩ := monthIndex_bounds d
  simp only [monthIndex] at hfirst' hlast'
  rw [monthIndex64?, signed64?_of_bounds (by omega) (by omega), Option.bind_eq_bind,
    Option.bind_some, signed64?_of_bounds (by omega) (by omega), monthIndex]

/-- **No step of the computation leaves 64 bits**, and its outcome is the number of buckets. -/
theorem bucketCount64?_eq (g : Granularity) (start stop : Instant) :
    g.bucketCount64? start stop = some (g.bucketCount start stop) := by
  have hstart := start.first_le
  have hstart' := start.le_last
  have hstop := stop.first_le
  have hstop' := stop.le_last
  cases g with
  | hour =>
      have hspans := wholeSpans64?_eq (g := hour) (by decide) (fun _ => rfl) start stop
      simp only [bucketCount64?, hspans, Option.bind_eq_bind, Option.bind_some, bucketCount_eq,
        numberOf]
      exact signed64?_of_bounds (by omega) (by omega)
  | day =>
      have hspans := wholeSpans64?_eq (g := day) (by decide) (fun _ => rfl) start stop
      simp only [bucketCount64?, hspans, Option.bind_eq_bind, Option.bind_some, bucketCount_eq,
        numberOf]
      exact signed64?_of_bounds (by omega) (by omega)
  | month =>
      obtain ⟨hfirst, hfirst'⟩ := monthIndex_bounds (month.truncate start).day
      obtain ⟨hlast, hlast'⟩ := monthIndex_bounds (month.truncate stop).day
      simp only [bucketCount64?, monthIndex64?_eq, Option.bind_eq_bind, Option.bind_some]
      rw [signed64?_of_bounds (by omega) (by omega), Option.bind_some,
        signed64?_of_bounds (by omega) (by omega), bucketCount]

/-! ## The cap -/

variable {g : Granularity} {points : List Point} {start stop : Instant}

/-- **A filled series has as many points as its range has buckets.** -/
theorem length_densify (g : Granularity) (points : List Point) (start stop : Instant) :
    ((g.densify points start stop).length : ℤ) = max 0 (g.bucketCount start stop) := by
  rw [← length_boundaries_eq_max, densify, Footfall.densify, List.length_map]
  rfl

/-- Its last point, if there is one, is that of the bucket that holds the end. -/
theorem time_of_mem_getLast?_densify {p : Point}
    (h : p ∈ (g.densify points start stop).getLast?) : p.time = g.truncate stop := by
  have htimes : (g.densify points start stop).map (·.time) = g.boundaries start stop :=
    map_time_densify points (g.truncate start) (g.truncate stop) g.step
  have hlast : p.time ∈ (g.boundaries start stop).getLast? := by
    rw [← htimes, List.getLast?_map, h]
    rfl
  exact eq_of_mem_getLast?_boundaries hlast

/-- **The cap is one on the length of the filled series**, whatever the points, the start and the
end. The number that is compared with it is computed without leaving 64 bits. -/
theorem cap_measures_series (g : Granularity) (points : List Point) (start stop : Instant) :
    ((g.densify points start stop).length : ℤ) = max 0 (g.bucketCount start stop) ∧
      (∀ p ∈ (g.densify points start stop).getLast?, p.time = g.truncate stop) ∧
      (checkBuckets g start stop = .ok () ↔
        (g.densify points start stop).length ≤ maxBuckets) ∧
      g.bucketCount64? start stop = some (g.bucketCount start stop) := by
  have hlength := length_densify g points start stop
  refine ⟨hlength, fun p hp => time_of_mem_getLast?_densify hp, ?_, bucketCount64?_eq g start stop⟩
  rw [Store.checkBuckets_eq_ok_iff, maxBuckets]
  omega

end Granularity

end Footfall
