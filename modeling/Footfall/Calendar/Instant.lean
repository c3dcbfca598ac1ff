import Footfall.Calendar.Day

/-!
# Instants

A moment of UTC to the nanosecond. A leap second is written as the second before it with a
nanosecond part of a whole second or more.

## Main Definitions

* `Instant` — seconds since 1970-01-01T00:00:00Z and a nanosecond part
* `Instant.key` — the place of an instant in the order of all instants
* `Instant.day`, `Instant.midnight` — the day of an instant and the first instant of a day
* `Instant.add?`, `Instant.addMonths?` — later and earlier instants, if the calendar has them

## Design Notes

Only the last second of a minute can be a leap second, and the type says so. Time spans are whole
numbers of nanoseconds. A span that leads out of a leap second counts from the second before it,
so a leap second takes no time of its own.
-/

namespace Footfall

/-- A moment of UTC within the calendar. -/
structure Instant where
  /-- Whole seconds since 1970-01-01T00:00:00Z, leap seconds not counted. -/
  seconds : Int
  /-- Nanoseconds into the second; 1000000000 and more in a leap second. -/
  nanos : Nat
  /-- The calendar starts at -262143-01-01T00:00:00Z. -/
  first_le : -8334601228800 ≤ seconds
  /-- The calendar ends with +262142-12-31T23:59:59Z. -/
  le_last : seconds ≤ 8210266876799
  /-- A second and its leap second have two thousand million nanoseconds. -/
  nanos_lt : nanos < 2000000000
  /-- A leap second follows second 59. -/
  leap_at_59 : 1000000000 ≤ nanos → seconds % 60 = 59
  deriving DecidableEq

namespace Instant

/-- A second in nanoseconds. -/
abbrev second : Int := 1000000000

/-- An hour in nanoseconds. -/
abbrev hour : Int := 3600 * second

/-- A day in nanoseconds. -/
abbrev dayLength : Int := 86400 * second

/-- A microsecond in nanoseconds. -/
abbrev microsecond : Int := 1000

/-- The place of an instant in the order of all instants. -/
def key (t : Instant) : Int :=
  t.seconds * 2000000000 + t.nanos

instance : LE Instant := ⟨fun a b => a.key ≤ b.key⟩
instance : LT Instant := ⟨fun a b => a.key < b.key⟩
instance (a b : Instant) : Decidable (a ≤ b) := inferInstanceAs (Decidable (a.key ≤ b.key))
instance (a b : Instant) : Decidable (a < b) := inferInstanceAs (Decidable (a.key < b.key))

theorem le_iff {a b : Instant} : a ≤ b ↔ a.key ≤ b.key := Iff.rfl
theorem lt_iff {a b : Instant} : a < b ↔ a.key < b.key := Iff.rfl

/-- Instants with one place in the order are one instant. -/
theorem eq_of_key {a b : Instant} (h : a.key = b.key) : a = b := by
  have ha := a.nanos_lt
  have hb := b.nanos_lt
  unfold key at h
  have hs : a.seconds = b.seconds := by omega
  have hn : a.nanos = b.nanos := by omega
  cases a; cases b; simp_all

theorem le_antisymm {a b : Instant} (h : a ≤ b) (h' : b ≤ a) : a = b :=
  eq_of_key (Int.le_antisymm h h')

/-- The earlier of two instants. -/
def min (a b : Instant) : Instant := if a ≤ b then a else b

/-- The later of two instants. -/
def max (a b : Instant) : Instant := if a ≤ b then b else a

/-- Whether the instant lies in a leap second. -/
def isLeap (t : Instant) : Bool :=
  1000000000 ≤ t.nanos

/-- The instant of a count of seconds and a nanosecond part, if the calendar has it. -/
def ofParts? (seconds : Int) (nanos : Nat) : Option Instant :=
  if h : -8334601228800 ≤ seconds ∧ seconds ≤ 8210266876799 ∧ nanos < 2000000000 ∧
      (1000000000 ≤ nanos → seconds % 60 = 59) then
    some ⟨seconds, nanos, h.1, h.2.1, h.2.2.1, h.2.2.2⟩
  else none

theorem ofParts?_eq_some_iff {seconds : Int} {nanos : Nat} {t : Instant} :
    ofParts? seconds nanos = some t ↔ t.seconds = seconds ∧ t.nanos = nanos := by
  unfold ofParts?
  constructor
  · intro h
    split at h
    · cases h; exact ⟨rfl, rfl⟩
    · cases h
  · rintro ⟨rfl, rfl⟩
    rw [dif_pos ⟨t.first_le, t.le_last, t.nanos_lt, t.leap_at_59⟩]

/-- The UTC day of an instant. -/
def day (t : Instant) : Day :=
  ⟨t.seconds / 86400, by have := t.first_le; omega, by have := t.le_last; omega⟩

/-- Whole seconds since midnight. -/
def secondOfDay (t : Instant) : Nat :=
  (t.seconds % 86400).toNat

/-- The first instant of a day. -/
def midnight (d : Day) : Instant :=
  ⟨d.number * 86400, 0, by have := d.first_le; omega, by have := d.le_last; omega, by omega,
    by omega⟩

/-- The start of the hour that holds an instant. -/
def hourStart (t : Instant) : Instant :=
  ⟨t.seconds - t.seconds % 3600, 0, by have := t.first_le; omega, by have := t.le_last; omega,
    by omega, by omega⟩

/-- The instant `span` nanoseconds after second `seconds` and its part `nanos`, neither of them
in a leap second. -/
def ofSpan? (seconds : Int) (nanos span : Int) : Option Instant :=
  let total := nanos + span
  ofParts? (seconds + total / second) (total % second).toNat

/-- The instant `span` nanoseconds later. -/
def add? (t : Instant) (span : Int) : Option Instant :=
  let whole := span.tdiv second
  let rest := span.tmod second
  if t.isLeap then
    if 0 < whole ∨ (0 < rest ∧ 2000000000 ≤ t.nanos + rest) then
      ofSpan? t.seconds (t.nanos - second) span
    else if whole < 0 then ofSpan? (t.seconds + 1) (t.nanos - second) span
    else ofParts? t.seconds (t.nanos + rest).toNat
  else ofSpan? t.seconds t.nanos span

/-- The same time of day `n` months later, on the last day of the month if it is shorter. -/
def addMonths? (t : Instant) (n : Nat) : Option Instant :=
  (t.day.addMonths? n).bind fun d => ofParts? (d.number * 86400 + t.secondOfDay) t.nanos

@[simp] theorem midnight_nanos (d : Day) : (midnight d).nanos = 0 := rfl

@[simp] theorem midnight_seconds (d : Day) : (midnight d).seconds = d.number * 86400 := rfl

/-- A day's midnight lies on the day. -/
@[simp] theorem day_midnight (d : Day) : (midnight d).day = d := by
  apply Day.eq_of_number
  simp only [day, midnight_seconds]
  omega

/-- No instant comes before the midnight of its day. -/
theorem midnight_day_le (t : Instant) : midnight t.day ≤ t := by
  rw [le_iff]
  simp only [key, midnight_seconds, midnight_nanos, day]
  omega

end Instant

end Footfall
