import Mathlib
import Footfall.Proofs.Calendar.Bucket

/-!
# Instants on one line

Outside of leap seconds an instant is a count of nanoseconds since 1970, and a span of
time is added to the count.  A leap second has no place of its own on this line: its
instants share their counts with the second after it, which they come before.  So it
is the last nanosecond before a leap second that tells which counts have passed by one
of its instants.

## Main Definitions

* `Instant.clock` — nanoseconds since 1970-01-01T00:00:00Z
* `Instant.beforeLeap` — the last instant outside of leap seconds that is not later
* `Instant.nanosSince` — the time between two instants, as clocks show it

## Main Statements

* `Instant.add?_eq_some_iff`, `Instant.isSome_add?_iff` — what a span leads to, if to anything
* `Instant.le_iff_clock`, `Instant.lt_iff_clock` — the order of instants by their counts
-/

namespace Footfall

namespace Instant

variable {t u : Instant} {span : ℤ}

/-- Nanoseconds since 1970-01-01T00:00:00Z. -/
def clock (t : Instant) : ℤ :=
  t.seconds * second + t.nanos

/-- The last instant outside of leap seconds that is not later. -/
def beforeLeap (t : Instant) : Instant :=
  if t.isLeap then
    { t with
      nanos := 999999999
      nanos_lt := by decide
      leap_at_59 := fun h => absurd h (by decide) }
  else t

theorem beforeLeap_of_regular (regular : t.isLeap = false) : t.beforeLeap = t := by
  rw [beforeLeap, regular, if_neg Bool.false_ne_true]

theorem isLeap_beforeLeap (t : Instant) : t.beforeLeap.isLeap = false := by
  rw [beforeLeap]
  split
  · rfl
  · next hregular => exact Bool.eq_false_iff.mpr hregular

/-- The time from `u` to `t` in nanoseconds: the days between them and the difference of their
times of day. Of two times of day, a leap second at the earlier one has passed by the later. -/
def nanosSince (t u : Instant) : ℤ :=
  let days := t.day.number - u.day.number
  let shown : ℤ := t.secondOfDay - u.secondOfDay
  let counted : ℤ :=
    if u.secondOfDay < t.secondOfDay ∧ u.isLeap then 1
    else if t.secondOfDay < u.secondOfDay ∧ t.isLeap then -1
    else 0
  (days * 86400 + shown + counted) * second + (t.nanos - u.nanos)

/-- Outside of leap seconds it is the difference of the counts. -/
theorem nanosSince_of_regular (ht : t.isLeap = false) (hu : u.isLeap = false) :
    t.nanosSince u = t.clock - u.clock := by
  simp only [nanosSince, ht, hu, Bool.false_eq_true, and_false, if_false, clock, day, secondOfDay,
    second]
  omega

/-- The calendar has the counts of whole days. -/
theorem clock_bounds (regular : t.isLeap = false) :
    -8334601228800 * second ≤ t.clock ∧ t.clock < 8210266876800 * second := by
  have hnanos := nanos_lt_of_regular regular
  have hfirst := t.first_le
  have hlast := t.le_last
  simp only [clock, second]
  omega

/-- **A span leads to the instant of the count that it is added to**, and not into a leap
second. -/
theorem add?_eq_some_iff (regular : t.isLeap = false) :
    t.add? span = some u ↔ u.isLeap = false ∧ u.clock = t.clock + span := by
  rw [add?, regular, if_neg Bool.false_ne_true, ofSpan?, ofParts?_eq_some_iff]
  simp only [isLeap, clock, second, decide_eq_false_iff_not]
  omega

/-- It leads anywhere if the calendar has that count. -/
theorem isSome_add?_iff (regular : t.isLeap = false) :
    (t.add? span).isSome ↔
      -8334601228800 * second ≤ t.clock + span ∧ t.clock + span < 8210266876800 * second := by
  rw [Option.isSome_iff_exists]
  constructor
  · rintro ⟨u, hu⟩
    obtain ⟨hregular, hclock⟩ := (add?_eq_some_iff regular).mp hu
    rw [← hclock]
    exact clock_bounds hregular
  · simp only [second]
    intro hbounds
    refine ⟨⟨(t.clock + span) / second, ((t.clock + span) % second).toNat, ?_, ?_, ?_, ?_⟩,
      (add?_eq_some_iff regular).mpr ⟨?_, ?_⟩⟩
    · simp only [second]
      omega
    · simp only [second]
      omega
    · simp only [second]
      omega
    · simp only [second]
      omega
    · simp only [isLeap, second, decide_eq_false_iff_not]
      omega
    · simp only [clock, second]
      omega

/-- Outside of leap seconds, an instant has come once its count has. -/
theorem le_iff_clock (regular : t.isLeap = false) : t ≤ u ↔ t.clock ≤ u.beforeLeap.clock := by
  have hnanos := nanos_lt_of_regular regular
  have hlt := u.nanos_lt
  rw [beforeLeap]
  split
  · next hleap =>
    simp only [isLeap, decide_eq_true_eq] at hleap
    simp only [le_iff, key, clock, second]
    omega
  · next hregular =>
    have hunanos := nanos_lt_of_regular (Bool.eq_false_iff.mpr hregular)
    simp only [le_iff, key, clock, second]
    omega

theorem lt_iff_clock (regular : t.isLeap = false) : u < t ↔ u.beforeLeap.clock < t.clock := by
  have h := le_iff_clock (u := u) regular
  rw [le_iff] at h
  rw [lt_iff]
  omega

@[simp] theorem isLeap_midnight (d : Day) : (midnight d).isLeap = false := rfl

theorem clock_midnight (d : Day) : (midnight d).clock = d.number * dayLength := by
  simp only [clock, midnight_seconds, midnight_nanos, dayLength, second]
  omega

end Instant

end Footfall
