/-!
# Civil dates

Days are counted from 1970-01-01, which is day `0`, in both directions without end. This module
gives each of them its year, month and day of the proleptic Gregorian calendar, and back.

## Main Definitions

* `yearStart` — the day number of the first of January of a year
* `yearOf` — the year that holds a day number
* `Civil` — a year, a month and a day of the month
* `Civil.ofDayNumber`, `Civil.dayNumber` — the two directions, inverse to each other on valid dates

## Design Notes

The year of a day is found by its mean length of 146097/400 days, which misses by at most one, and
then corrected against `yearStart`. So the one fact needed of it, `yearStart_yearOf`, is linear
arithmetic.
-/

namespace Footfall

/-- Every fourth year is a leap year, but of the centuries only every fourth. -/
def isLeapYear (year : Int) : Bool :=
  year % 4 == 0 && (year % 100 != 0 || year % 400 == 0)

/-- The day number of the first of January of a year. -/
def yearStart (year : Int) : Int :=
  365 * (year - 1970) + (year - 1) / 4 - (year - 1) / 100 + (year - 1) / 400 - 477

/-- The year that holds a day number. -/
def yearOf (n : Int) : Int :=
  let guess := 1970 + n * 400 / 146097
  if n < yearStart guess then guess - 1
  else if yearStart (guess + 1) ≤ n then guess + 1
  else guess

/-- The days of a year that come before the first of a month. -/
def daysBeforeMonth (leap : Bool) (month : Nat) : Nat :=
  let extra := if leap then 1 else 0
  match month with
  | 0 | 1 => 0
  | 2 => 31
  | 3 => 59 + extra
  | 4 => 90 + extra
  | 5 => 120 + extra
  | 6 => 151 + extra
  | 7 => 181 + extra
  | 8 => 212 + extra
  | 9 => 243 + extra
  | 10 => 273 + extra
  | 11 => 304 + extra
  | 12 => 334 + extra
  | _ => 365 + extra

/-- The month that holds a day of the year, counted from zero. -/
def monthOf (leap : Bool) (dayOfYear : Nat) : Nat :=
  if dayOfYear < daysBeforeMonth leap 2 then 1
  else if dayOfYear < daysBeforeMonth leap 3 then 2
  else if dayOfYear < daysBeforeMonth leap 4 then 3
  else if dayOfYear < daysBeforeMonth leap 5 then 4
  else if dayOfYear < daysBeforeMonth leap 6 then 5
  else if dayOfYear < daysBeforeMonth leap 7 then 6
  else if dayOfYear < daysBeforeMonth leap 8 then 7
  else if dayOfYear < daysBeforeMonth leap 9 then 8
  else if dayOfYear < daysBeforeMonth leap 10 then 9
  else if dayOfYear < daysBeforeMonth leap 11 then 10
  else if dayOfYear < daysBeforeMonth leap 12 then 11
  else 12

/-- The number of days of a month. -/
def daysInMonth (year : Int) (month : Nat) : Nat :=
  daysBeforeMonth (isLeapYear year) (month + 1) - daysBeforeMonth (isLeapYear year) month

/-- A date: a year, a month from 1 and a day of the month from 1. -/
structure Civil where
  /-- Astronomical year: the year before 1 is 0. -/
  year : Int
  /-- Month, January being 1. -/
  month : Nat
  /-- Day of the month, from 1. -/
  day : Nat
  deriving DecidableEq, Repr

namespace Civil

/-- Whether the calendar has this date. -/
def Valid (c : Civil) : Prop :=
  1 ≤ c.month ∧ c.month ≤ 12 ∧ 1 ≤ c.day ∧ c.day ≤ daysInMonth c.year c.month

instance (c : Civil) : Decidable c.Valid := by
  unfold Valid; infer_instance

/-- The day number of a date. -/
def dayNumber (c : Civil) : Int :=
  yearStart c.year + daysBeforeMonth (isLeapYear c.year) c.month + c.day - 1

/-- The date of a day number. -/
def ofDayNumber (n : Int) : Civil :=
  let year := yearOf n
  let leap := isLeapYear year
  let dayOfYear := (n - yearStart year).toNat
  let month := monthOf leap dayOfYear
  ⟨year, month, dayOfYear - daysBeforeMonth leap month + 1⟩

end Civil

/-! ## Years -/

/-- A year has 365 days, or 366 if it is a leap year. -/
theorem yearStart_succ (year : Int) :
    yearStart (year + 1) = yearStart year + 365 + (if isLeapYear year then 1 else 0) := by
  unfold yearStart isLeapYear
  by_cases h4 : year % 4 = 0 <;> by_cases h100 : year % 100 = 0 <;>
    by_cases h400 : year % 400 = 0 <;> simp [h4, h100, h400] <;> omega

/-- Years start in order. -/
theorem yearStart_lt {a b : Int} (h : a < b) : yearStart a + 365 ≤ yearStart b := by
  unfold yearStart; omega

/-- The year of a day starts no later than the day and ends after it. -/
theorem yearStart_yearOf (n : Int) :
    yearStart (yearOf n) ≤ n ∧ n < yearStart (yearOf n + 1) := by
  have hq : 146097 * (n * 400 / 146097) ≤ n * 400 ∧
      n * 400 < 146097 * (n * 400 / 146097) + 146097 := by omega
  generalize n * 400 / 146097 = q at hq
  have key : yearStart (1970 + q - 1) ≤ n ∧ n < yearStart (1970 + q + 2) := by
    unfold yearStart; omega
  unfold yearOf
  have hg : n * 400 / 146097 = q := by omega
  simp only [hg]
  split
  · exact ⟨key.1, by simpa using ‹n < yearStart (1970 + q)›⟩
  · split
    · exact ⟨‹yearStart (1970 + q + 1) ≤ n›, by simpa [Int.add_assoc] using key.2⟩
    · omega

/-- A day's year is the only one that holds it. -/
theorem yearOf_eq_of {n year : Int} (h₁ : yearStart year ≤ n) (h₂ : n < yearStart (year + 1)) :
    yearOf n = year := by
  have ⟨g₁, g₂⟩ := yearStart_yearOf n
  rcases Int.lt_trichotomy (yearOf n) year with h | h | h
  · have := yearStart_lt (show yearOf n + 1 < year + 1 by omega)
    have : yearStart (yearOf n + 1) ≤ yearStart year := by
      by_cases e : yearOf n + 1 = year
      · exact Int.le_of_eq (congrArg yearStart e)
      · have := yearStart_lt (show yearOf n + 1 < year by omega); omega
    omega
  · exact h
  · have : yearStart (year + 1) ≤ yearStart (yearOf n) := by
      by_cases e : year + 1 = yearOf n
      · exact Int.le_of_eq (congrArg yearStart e)
      · have := yearStart_lt (show year + 1 < yearOf n by omega); omega
    omega

/-! ## Months -/

/-- The first month starts the year. -/
theorem daysBeforeMonth_one (leap : Bool) : daysBeforeMonth leap 1 = 0 := rfl

/-- The twelve months fill the year. -/
theorem daysBeforeMonth_thirteen (leap : Bool) :
    daysBeforeMonth leap 13 = 365 + (if leap then 1 else 0) := rfl

/-- The month of a day of the year is one of twelve and holds the day. -/
theorem monthOf_bounds (leap : Bool) {d : Nat} (h : d < daysBeforeMonth leap 13) :
    1 ≤ monthOf leap d ∧ monthOf leap d ≤ 12 ∧
      daysBeforeMonth leap (monthOf leap d) ≤ d ∧
      d < daysBeforeMonth leap (monthOf leap d + 1) := by
  have h0 := daysBeforeMonth_one leap
  unfold monthOf
  repeat' split
  all_goals simp only [Nat.reduceAdd]
  all_goals omega

/-- Months start in order. -/
theorem daysBeforeMonth_le (leap : Bool) {a b : Nat} (h : a ≤ b) :
    daysBeforeMonth leap a ≤ daysBeforeMonth leap b := by
  have step : ∀ m, daysBeforeMonth leap m ≤ daysBeforeMonth leap (m + 1)
    | 0 | 1 | 2 | 3 | 4 | 5 | 6 | 7 | 8 | 9 | 10 | 11 | 12 => by cases leap <;> decide
    | _ + 13 => Nat.le_refl _
  induction h with
  | refl => exact Nat.le_refl _
  | step _ ih => exact Nat.le_trans ih (step _)

/-- A month is the only one that holds its days. -/
theorem monthOf_eq_of {leap : Bool} {d month : Nat} (h₁ : month ≤ 12)
    (h₂ : daysBeforeMonth leap month ≤ d) (h₃ : d < daysBeforeMonth leap (month + 1)) :
    monthOf leap d = month := by
  have ⟨_, _, b₁, b₂⟩ := monthOf_bounds leap
    (Nat.lt_of_lt_of_le h₃ (daysBeforeMonth_le leap (show month + 1 ≤ 13 by omega)))
  rcases Nat.lt_trichotomy (monthOf leap d) month with h | h | h
  · have := daysBeforeMonth_le leap (show monthOf leap d + 1 ≤ month from h)
    omega
  · exact h
  · have := daysBeforeMonth_le leap (show month + 1 ≤ monthOf leap d from h)
    omega

/-! ## The two directions -/

namespace Civil

/-- The date of a day number is one the calendar has. -/
theorem valid_ofDayNumber (n : Int) : (ofDayNumber n).Valid := by
  have ⟨h₁, h₂⟩ := yearStart_yearOf n
  rw [yearStart_succ] at h₂
  have hd : (n - yearStart (yearOf n)).toNat < daysBeforeMonth (isLeapYear (yearOf n)) 13 := by
    rw [daysBeforeMonth_thirteen]; split at h₂ <;> simp_all <;> omega
  have ⟨m₁, m₂, m₃, m₄⟩ := monthOf_bounds _ hd
  refine ⟨m₁, m₂, ?_, ?_⟩ <;> simp only [ofDayNumber, daysInMonth] <;> omega

/-- Reading a day number as a date loses nothing. -/
theorem dayNumber_ofDayNumber (n : Int) : (ofDayNumber n).dayNumber = n := by
  have ⟨h₁, h₂⟩ := yearStart_yearOf n
  rw [yearStart_succ] at h₂
  have hd : (n - yearStart (yearOf n)).toNat < daysBeforeMonth (isLeapYear (yearOf n)) 13 := by
    rw [daysBeforeMonth_thirteen]; split at h₂ <;> simp_all <;> omega
  have ⟨_, _, m₃, _⟩ := monthOf_bounds _ hd
  simp only [dayNumber, ofDayNumber]
  omega

/-- A valid date lies in its own year. -/
theorem dayNumber_bounds {c : Civil} (h : c.Valid) :
    yearStart c.year ≤ c.dayNumber ∧ c.dayNumber < yearStart (c.year + 1) := by
  obtain ⟨h₁, h₂, h₃, h₄⟩ := h
  have hm := daysBeforeMonth_le (isLeapYear c.year) (show c.month + 1 ≤ 13 by omega)
  rw [daysBeforeMonth_thirteen] at hm
  rw [yearStart_succ]
  unfold dayNumber
  unfold daysInMonth at h₄
  split at hm <;> simp_all <;> omega

/-- A valid date is the date of its day number. -/
theorem ofDayNumber_dayNumber {c : Civil} (h : c.Valid) : ofDayNumber c.dayNumber = c := by
  have ⟨b₁, b₂⟩ := dayNumber_bounds h
  obtain ⟨h₁, h₂, h₃, h₄⟩ := h
  have hy := yearOf_eq_of b₁ b₂
  have hd : (c.dayNumber - yearStart c.year).toNat =
      daysBeforeMonth (isLeapYear c.year) c.month + c.day - 1 := by
    unfold dayNumber; omega
  have hm : monthOf (isLeapYear c.year)
      (daysBeforeMonth (isLeapYear c.year) c.month + c.day - 1) = c.month := by
    apply monthOf_eq_of h₂
    · omega
    · unfold daysInMonth at h₄; omega
  unfold ofDayNumber
  simp only [hy, hd, hm]
  cases c
  simp only [Civil.mk.injEq, true_and]
  simp only at h₃
  omega

end Civil

end Footfall
