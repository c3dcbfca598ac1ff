import Footfall.Calendar.Civil

/-!
# Calendar days

The days that the calendar can name, from -262143-01-01 to +262142-12-31.

## Main Definitions

* `Day` — a day number within the calendar
* `Day.civil`, `Day.ofCivil?` — its date and the day of a date
* `Day.add?`, `Day.next?`, `Day.pred?`, `Day.addMonths?` — neighbours, if the calendar has them

## Design Notes

The bounds are part of the type, so a `Day` never needs a check again. An operation that can leave
the calendar answers an `Option`.
-/

namespace Footfall

/-- A UTC day of the calendar, counted from 1970-01-01. -/
structure Day where
  /-- Days since 1970-01-01. -/
  number : Int
  /-- No day comes before -262143-01-01. -/
  first_le : -96465292 ≤ number
  /-- No day comes after +262142-12-31. -/
  le_last : number ≤ 95026236
  deriving DecidableEq

namespace Day

instance : LE Day := ⟨fun a b => a.number ≤ b.number⟩
instance : LT Day := ⟨fun a b => a.number < b.number⟩
instance (a b : Day) : Decidable (a ≤ b) := inferInstanceAs (Decidable (a.number ≤ b.number))
instance (a b : Day) : Decidable (a < b) := inferInstanceAs (Decidable (a.number < b.number))

theorem le_iff {a b : Day} : a ≤ b ↔ a.number ≤ b.number := Iff.rfl
theorem lt_iff {a b : Day} : a < b ↔ a.number < b.number := Iff.rfl

/-- Days with one number are one day. -/
theorem eq_of_number {a b : Day} (h : a.number = b.number) : a = b := by
  cases a; cases b; simp_all

/-- The first day of the calendar, -262143-01-01. -/
def first : Day := ⟨-96465292, by omega, by omega⟩

/-- The last day of the calendar, +262142-12-31. -/
def last : Day := ⟨95026236, by omega, by omega⟩

/-- The day of a number, if the calendar has it. -/
def ofNumber? (n : Int) : Option Day :=
  if h : -96465292 ≤ n ∧ n ≤ 95026236 then some ⟨n, h.1, h.2⟩ else none

/-- The date of a day. -/
def civil (d : Day) : Civil :=
  Civil.ofDayNumber d.number

/-- The day of a date, if the calendar has it. -/
def ofCivil? (c : Civil) : Option Day :=
  if c.Valid then ofNumber? c.dayNumber else none

/-- The day `n` days later. -/
def add? (d : Day) (n : Int) : Option Day :=
  ofNumber? (d.number + n)

/-- The day after. -/
def next? (d : Day) : Option Day :=
  d.add? 1

/-- The day before. -/
def pred? (d : Day) : Option Day :=
  d.add? (-1)

/-- The day `n` days earlier, or the first day of the calendar if that comes later. -/
def back (d : Day) (n : Nat) : Day :=
  (d.add? (-(n : Int))).getD first

/-- The same day of the month `n` months later, or that month's last day if it is shorter. -/
def addMonths? (d : Day) (n : Nat) : Option Day :=
  let c := d.civil
  let months := c.year * 12 + (c.month - 1 : Nat) + n
  let year := months / 12
  let month := (months % 12).toNat + 1
  ofCivil? ⟨year, month, min c.day (daysInMonth year month)⟩

/-- The first day of the month that holds `d`. -/
def monthStart (d : Day) : Day :=
  (ofNumber? (d.number - (d.civil.day - 1 : Nat))).getD d

/-- Days that the calendar has are those between its ends. -/
theorem ofNumber?_eq_some_iff {n : Int} {d : Day} : ofNumber? n = some d ↔ d.number = n := by
  unfold ofNumber?
  constructor
  · intro h
    split at h
    · cases h; rfl
    · cases h
  · rintro rfl
    rw [dif_pos ⟨d.first_le, d.le_last⟩]

/-- The calendar has the first day of each of its months. -/
theorem number_monthStart (d : Day) :
    d.monthStart.number = d.number - (d.civil.day - 1 : Nat) := by
  have hb := d.first_le
  have hl := d.le_last
  have hv := Civil.valid_ofDayNumber d.number
  have hn := Civil.dayNumber_ofDayNumber d.number
  have ⟨h₁, _⟩ := Civil.dayNumber_bounds hv
  have hy : yearStart (-262143) = -96465292 := by decide
  have hyear : -262143 ≤ (Civil.ofDayNumber d.number).year := by
    rcases Int.lt_or_le (Civil.ofDayNumber d.number).year (-262143) with h | h
    · have ⟨_, h₂⟩ := Civil.dayNumber_bounds hv
      have : yearStart ((Civil.ofDayNumber d.number).year + 1) ≤ yearStart (-262143) := by
        by_cases e : (Civil.ofDayNumber d.number).year + 1 = -262143
        · exact Int.le_of_eq (congrArg yearStart e)
        · have := yearStart_lt
            (show (Civil.ofDayNumber d.number).year + 1 < -262143 by omega)
          omega
      omega
    · exact h
  have hstart : -96465292 ≤ yearStart (Civil.ofDayNumber d.number).year := by
    by_cases e : (Civil.ofDayNumber d.number).year = -262143
    · exact Int.le_of_eq (by rw [e, hy])
    · have := yearStart_lt
        (show -262143 < (Civil.ofDayNumber d.number).year by omega)
      omega
  have hday : yearStart (Civil.ofDayNumber d.number).year ≤
      d.number - ((Civil.ofDayNumber d.number).day - 1 : Nat) := by
    have h₃ : 1 ≤ (Civil.ofDayNumber d.number).day := hv.2.2.1
    have : (Civil.ofDayNumber d.number).dayNumber =
        yearStart (Civil.ofDayNumber d.number).year +
          daysBeforeMonth (isLeapYear (Civil.ofDayNumber d.number).year)
            (Civil.ofDayNumber d.number).month + (Civil.ofDayNumber d.number).day - 1 := rfl
    omega
  unfold monthStart civil ofNumber?
  rw [dif_pos ⟨by omega, by omega⟩]
  rfl

end Day

end Footfall
