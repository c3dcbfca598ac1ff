import Mathlib
import Footfall.Calendar.Granularity

/-!
# Months in order

Months are counted from January of the year 0, as days are counted from 1970-01-01.  A
month ends where the next one starts, so the months part the days among them, and no
question about a month needs its length.

## Main Definitions

* `firstOfMonth` — the day number of the first of a month
* `monthOfDay` — the month that holds a day number

## Main Statements

* `firstOfMonth_le_iff` — a month has started by a day if that of the day is no earlier
* `Day.number_monthStart_eq`, `Day.addMonths?_one` — the starts of a month and of the next
-/

namespace Footfall

/-- The day number of the first of a month. -/
def firstOfMonth (m : ℤ) : ℤ :=
  (⟨m / 12, (m % 12).toNat + 1, 1⟩ : Civil).dayNumber

/-- The month that holds a day number. -/
def monthOfDay (n : ℤ) : ℤ :=
  (Civil.ofDayNumber n).year * 12 + ((Civil.ofDayNumber n).month - 1 : ℕ)

/-- A month has 28 days or more. -/
theorem daysBeforeMonth_succ_ge (leap : Bool) {month : ℕ} (h₁ : 1 ≤ month) (h₂ : month ≤ 12) :
    daysBeforeMonth leap month + 28 ≤ daysBeforeMonth leap (month + 1) := by
  interval_cases month <;> cases leap <;> decide

/-- The first of a month is a date of the calendar. -/
theorem Civil.valid_first (year : ℤ) (month : ℕ) (h₁ : 1 ≤ month) (h₂ : month ≤ 12) :
    (⟨year, month, 1⟩ : Civil).Valid := by
  have hlength := daysBeforeMonth_succ_ge (isLeapYear year) h₁ h₂
  refine ⟨h₁, h₂, le_rfl, ?_⟩
  show 1 ≤ daysInMonth year month
  unfold daysInMonth
  omega

/-- The month after a month of some year, be it one of the next year. -/
theorem firstOfMonth_succ (year : ℤ) {month : ℕ} (h₁ : 1 ≤ month) (h₂ : month ≤ 12) :
    firstOfMonth (year * 12 + (month - 1 : ℕ) + 1) =
      yearStart year + daysBeforeMonth (isLeapYear year) (month + 1) := by
  unfold firstOfMonth Civil.dayNumber
  by_cases hdecember : month = 12
  · subst hdecember
    have hdiv : (year * 12 + ((12 - 1 : ℕ) : ℤ) + 1) / 12 = year + 1 := by omega
    have hmod : ((year * 12 + ((12 - 1 : ℕ) : ℤ) + 1) % 12).toNat = 0 := by omega
    simp only [hdiv, hmod, Nat.zero_add, Nat.reduceAdd, daysBeforeMonth_one,
      daysBeforeMonth_thirteen, yearStart_succ]
    split <;> push_cast <;> omega
  · have hdiv : (year * 12 + ((month - 1 : ℕ) : ℤ) + 1) / 12 = year := by omega
    have hmod : ((year * 12 + ((month - 1 : ℕ) : ℤ) + 1) % 12).toNat = month := by omega
    simp only [hdiv, hmod]
    push_cast
    omega

theorem firstOfMonth_eq (year : ℤ) {month : ℕ} (h₁ : 1 ≤ month) (h₂ : month ≤ 12) :
    firstOfMonth (year * 12 + (month - 1 : ℕ)) =
      yearStart year + daysBeforeMonth (isLeapYear year) month := by
  have hdiv : (year * 12 + ((month - 1 : ℕ) : ℤ)) / 12 = year := by omega
  have hmod : ((year * 12 + ((month - 1 : ℕ) : ℤ)) % 12).toNat + 1 = month := by omega
  simp only [firstOfMonth, Civil.dayNumber, hdiv, hmod]
  push_cast
  omega

/-- Months start in order, each 28 days or more after the one before. -/
theorem firstOfMonth_add_le_succ (m : ℤ) : firstOfMonth m + 28 ≤ firstOfMonth (m + 1) := by
  have h₁ : 1 ≤ (m % 12).toNat + 1 := by omega
  have h₂ : (m % 12).toNat + 1 ≤ 12 := by omega
  have hm : m = m / 12 * 12 + (((m % 12).toNat + 1 - 1 : ℕ) : ℤ) := by omega
  have hlength := daysBeforeMonth_succ_ge (isLeapYear (m / 12)) h₁ h₂
  have hsucc := firstOfMonth_succ (m / 12) h₁ h₂
  have hfirst := firstOfMonth_eq (m / 12) h₁ h₂
  rw [← hm] at hsucc hfirst
  omega

theorem strictMono_firstOfMonth : StrictMono firstOfMonth := by
  refine strictMono_int_of_lt_succ fun m => ?_
  have h := firstOfMonth_add_le_succ m
  omega

/-- The month of a day starts with the first of its date. -/
theorem firstOfMonth_monthOfDay (n : ℤ) :
    firstOfMonth (monthOfDay n) = n - ((Civil.ofDayNumber n).day - 1 : ℕ) := by
  obtain ⟨h₁, h₂, hday, -⟩ := Civil.valid_ofDayNumber n
  have hn := Civil.dayNumber_ofDayNumber n
  have hfirst := firstOfMonth_eq (Civil.ofDayNumber n).year h₁ h₂
  unfold Civil.dayNumber at hn
  unfold monthOfDay
  omega

/-- It ends after the day. -/
theorem lt_firstOfMonth_succ (n : ℤ) : n < firstOfMonth (monthOfDay n + 1) := by
  obtain ⟨h₁, h₂, hpos, hday⟩ := Civil.valid_ofDayNumber n
  have hn := Civil.dayNumber_ofDayNumber n
  have hnext := firstOfMonth_succ (Civil.ofDayNumber n).year h₁ h₂
  unfold Civil.dayNumber at hn
  unfold daysInMonth at hday
  unfold monthOfDay
  omega

/-- **A month has started by a day** if the month of the day is no earlier one. -/
theorem firstOfMonth_le_iff {m n : ℤ} : firstOfMonth m ≤ n ↔ m ≤ monthOfDay n := by
  constructor
  · intro h
    have hlt := strictMono_firstOfMonth.lt_iff_lt.mp (h.trans_lt (lt_firstOfMonth_succ n))
    omega
  · intro h
    have hle := strictMono_firstOfMonth.monotone h
    rw [firstOfMonth_monthOfDay] at hle
    omega

theorem sub_le_firstOfMonth_sub {m n : ℤ} (h : m ≤ n) :
    n - m ≤ firstOfMonth n - firstOfMonth m := by
  induction n, h using Int.leInduction with
  | base => omega
  | succ n _ ih =>
      have hstep := firstOfMonth_add_le_succ n
      omega

/-- Between two days lie no more months than days. -/
theorem monthOfDay_sub_le {a b : ℤ} (h : a ≤ b) : monthOfDay b - monthOfDay a ≤ b - a := by
  have hstart := lt_firstOfMonth_succ a
  have hstop : firstOfMonth (monthOfDay b) ≤ b := firstOfMonth_le_iff.mpr le_rfl
  rcases Int.lt_or_le (monthOfDay a) (monthOfDay b) with hlt | hle
  · have hmonths := sub_le_firstOfMonth_sub (Int.add_one_le_of_lt hlt)
    omega
  · omega

/-! ## Days of the calendar -/

namespace Day

/-- The month of a day starts with its first. -/
theorem number_monthStart_eq (d : Day) :
    d.monthStart.number = firstOfMonth (monthOfDay d.number) := by
  rw [number_monthStart, firstOfMonth_monthOfDay]
  rfl

/-- One month after the first of a month is the first of the next, if the calendar has it. -/
theorem addMonths?_one {d : Day} {m : ℤ} (h : d.number = firstOfMonth m) :
    d.addMonths? 1 = ofNumber? (firstOfMonth (m + 1)) := by
  have hm : monthOfDay d.number = m := by
    have hstarted : firstOfMonth m ≤ d.number := h.ge
    have hlt := strictMono_firstOfMonth (show m < m + 1 by omega)
    rw [firstOfMonth_le_iff] at hstarted
    rw [← h, ← not_le, firstOfMonth_le_iff] at hlt
    omega
  have hday : d.civil.day = 1 := by
    have hfirst := firstOfMonth_monthOfDay d.number
    have hpos : 1 ≤ d.civil.day := (Civil.valid_ofDayNumber d.number).2.2.1
    rw [hm] at hfirst
    change _ = d.number - ((d.civil.day - 1 : ℕ) : ℤ) at hfirst
    omega
  have hindex : d.civil.year * 12 + (d.civil.month - 1 : ℕ) + (1 : ℕ) = m + 1 := by
    rw [← hm]
    rfl
  have hvalid := Civil.valid_first ((m + 1) / 12) (((m + 1) % 12).toNat + 1) (by omega) (by omega)
  have hmin : min 1 (daysInMonth ((m + 1) / 12) (((m + 1) % 12).toNat + 1)) = 1 :=
    min_eq_left hvalid.2.2.2
  simp only [addMonths?, hindex, hday, hmin, ofCivil?]
  rw [if_pos hvalid, firstOfMonth]

end Day

end Footfall
