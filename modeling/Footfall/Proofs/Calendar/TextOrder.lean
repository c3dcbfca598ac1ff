import Mathlib
import Footfall.Proofs.Calendar.Bucket

/-!
# The order of bucket texts

Days from the rollup are put in order by their texts, not by their moments.  In
years of four digits both orders are one: every field of such a text has a fixed
width, and the fields stand from the largest unit of time to the smallest.

## Main Statements

* `fixedDigits_append_lt` — runs of one width are in the order of their numbers
* `Civil.lt_cases` — where an earlier date is smaller than a later one
* `Timestamp.bucketText_lt_iff` — texts are in the order of the seconds they name
-/

namespace Footfall

/-! ## Runs of digits in order -/

theorem digitChar_lt {a b : ℕ} (h : a % 10 < b % 10) : digitChar a < digitChar b := by
  have ha : a % 10 < 10 := Nat.mod_lt _ (by decide)
  have hb : b % 10 < 10 := Nat.mod_lt _ (by decide)
  unfold digitChar
  generalize a % 10 = x at h ha
  generalize b % 10 = y at h hb
  interval_cases y <;> interval_cases x <;> decide

/-- Of two runs of one width the smaller number comes first, whatever follows. -/
theorem fixedDigits_append_lt {width m n : ℕ} (h : m < n) (hn : n < 10 ^ width)
    (xs ys : List Char) : fixedDigits width m ++ xs < fixedDigits width n ++ ys := by
  induction width generalizing m n xs ys with
  | zero =>
      rw [pow_zero] at hn
      omega
  | succ width ih =>
      rw [fixedDigits, fixedDigits, List.append_assoc, List.append_assoc]
      rw [pow_succ] at hn
      -- either an earlier digit decides, or all but the last are the same
      rcases Nat.lt_or_ge (m / 10) (n / 10) with hlt | hge
      · exact ih hlt (by omega) _ _
      · have heq : m / 10 = n / 10 := by omega
        rw [heq]
        apply List.append_left_lt
        rw [List.singleton_append, List.singleton_append, List.cons_lt_cons_iff]
        exact .inl (digitChar_lt (by omega))

/-- Where the numbers of a field are the same, what follows decides. -/
theorem fixedDigits_append_lt_of_eq {width m n : ℕ} (h : m = n) {xs ys : List Char}
    (hlt : xs < ys) : fixedDigits width m ++ xs < fixedDigits width n ++ ys := by
  rw [h]
  exact List.append_left_lt hlt

theorem cons_lt_cons_self {c : Char} {xs ys : List Char} (h : xs < ys) : c :: xs < c :: ys :=
  List.cons_lt_cons_iff.mpr (.inr ⟨rfl, h⟩)

/-! ## Dates and clocks in order -/

/-- **An earlier date has a smaller year, or in one year a smaller month, or in
one month a smaller day.** -/
theorem Civil.lt_cases {a b : ℤ} (h : a < b) :
    (ofDayNumber a).year < (ofDayNumber b).year ∨
      (ofDayNumber a).year = (ofDayNumber b).year ∧
        ((ofDayNumber a).month < (ofDayNumber b).month ∨
          (ofDayNumber a).month = (ofDayNumber b).month ∧
            (ofDayNumber a).day < (ofDayNumber b).day) := by
  have hyear : (ofDayNumber a).year ≤ (ofDayNumber b).year := yearOf_mono h.le
  obtain ⟨-, -, -, ha⟩ := valid_ofDayNumber a
  obtain ⟨-, -, -, hb⟩ := valid_ofDayNumber b
  obtain ⟨-, -, hday, -⟩ := valid_ofDayNumber a
  have hanumber := dayNumber_ofDayNumber a
  have hbnumber := dayNumber_ofDayNumber b
  generalize ofDayNumber a = x at *
  generalize ofDayNumber b = y at *
  rcases hyear.lt_or_eq with hlt | heq
  · exact .inl hlt
  · refine .inr ⟨heq, ?_⟩
    unfold dayNumber at hanumber hbnumber
    unfold daysInMonth at ha hb
    rw [heq] at ha hanumber
    rcases Nat.lt_trichotomy x.month y.month with hlt | hmonth | hgt
    · exact .inl hlt
    · rw [hmonth] at hanumber
      exact .inr ⟨hmonth, by omega⟩
    · -- a later month starts after all days of an earlier one
      have hfirst := daysBeforeMonth_le (isLeapYear y.year) (Nat.le_add_right y.month 1)
      have hnext := daysBeforeMonth_le (isLeapYear y.year) (show y.month + 1 ≤ x.month from hgt)
      omega

theorem clockText_lt {s t : ℕ} (h : s < t) (ht : t < 86400) : clockText s < clockText t := by
  unfold clockText
  simp only [List.append_assoc, List.cons_append]
  have hundred : (10 : ℕ) ^ 2 = 100 := by norm_num
  -- hours, then minutes, then seconds
  rcases Nat.lt_or_ge (s / 3600) (t / 3600) with hlt | hge
  · exact fixedDigits_append_lt hlt (by omega) _ _
  · refine fixedDigits_append_lt_of_eq (by omega) (cons_lt_cons_self ?_)
    rcases Nat.lt_or_ge (s / 60 % 60) (t / 60 % 60) with hlt | hge
    · exact fixedDigits_append_lt hlt (by omega) _ _
    · refine fixedDigits_append_lt_of_eq (by omega) (cons_lt_cons_self ?_)
      rw [← List.append_nil (fixedDigits 2 (s % 60)), ← List.append_nil (fixedDigits 2 (t % 60))]
      exact fixedDigits_append_lt (by omega) (by omega) _ _

namespace Timestamp

/-! ## Moments in order -/

variable {t u : Timestamp}

theorem secondOfDay_lt (t : Timestamp) : t.secondOfDay < 86400 := by
  unfold secondOfDay
  omega

theorem secondChars_lt (ht : t.FourDigit) (hu : u.FourDigit)
    (h : t.micros / 1000000 < u.micros / 1000000) : t.secondChars < u.secondChars := by
  have htday : t.dayNumber = t.micros / 1000000 / 86400 := by
    simp only [dayNumber, dayMicros]
    omega
  have huday : u.dayNumber = u.micros / 1000000 / 86400 := by
    simp only [dayNumber, dayMicros]
    omega
  rw [secondChars_eq ht, secondChars_eq hu]
  obtain ⟨htyear, -⟩ := ht
  obtain ⟨-, huyear⟩ := hu
  obtain ⟨umonth, uday⟩ := (Civil.valid_ofDayNumber u.dayNumber).lt_hundred
  simp only [List.append_assoc, List.cons_append]
  rcases lt_or_ge t.dayNumber u.dayNumber with hlt | hge
  · -- the date decides, at its year, its month or its day
    rcases Civil.lt_cases hlt with hyear | ⟨hyear, hmonth | ⟨hmonth, hday⟩⟩
    · exact fixedDigits_append_lt (by omega) (by omega) _ _
    · rw [hyear]
      apply List.append_left_lt
      apply cons_lt_cons_self
      exact fixedDigits_append_lt hmonth (by omega) _ _
    · rw [hyear, hmonth]
      apply List.append_left_lt
      apply cons_lt_cons_self
      apply List.append_left_lt
      apply cons_lt_cons_self
      exact fixedDigits_append_lt hday (by omega) _ _
  · -- the clock decides
    have hday : t.dayNumber = u.dayNumber := by omega
    have hclock : t.secondOfDay < u.secondOfDay := by
      unfold secondOfDay
      omega
    rw [hday]
    apply List.append_left_lt
    apply cons_lt_cons_self
    apply List.append_left_lt
    apply cons_lt_cons_self
    apply List.append_left_lt
    apply cons_lt_cons_self
    exact clockText_lt hclock u.secondOfDay_lt

/-- The text of a bucket tells no more than the second of its start. -/
theorem secondChars_congr (h : t.micros / 1000000 = u.micros / 1000000) :
    t.secondChars = u.secondChars := by
  have hday : t.dayNumber = u.dayNumber := by
    simp only [dayNumber, dayMicros]
    omega
  unfold secondChars
  rw [hday, h]

/-- **Bucket texts are in the order of the seconds that they name.** -/
theorem bucketText_lt_iff (ht : t.FourDigit) (hu : u.FourDigit) :
    t.bucketText < u.bucketText ↔ t.micros / 1000000 < u.micros / 1000000 := by
  rw [String.lt_iff_toList_lt, bucketText, bucketText, String.toList_ofList,
    String.toList_ofList]
  constructor
  · intro h
    rcases Int.lt_trichotomy (t.micros / 1000000) (u.micros / 1000000) with hlt | heq | hgt
    · exact hlt
    · rw [secondChars_congr heq] at h
      exact absurd h (List.lt_irrefl _)
    · exact absurd (secondChars_lt hu ht hgt) (List.lt_asymm h)
  · exact secondChars_lt ht hu

/-- The texts of midnights are in the order of the days. -/
theorem bucketText_midnight_lt_iff {d e : Day} (hd : (midnight d).FourDigit)
    (he : (midnight e).FourDigit) :
    (midnight d).bucketText < (midnight e).bucketText ↔ d < e := by
  rw [bucketText_lt_iff hd he, Day.lt_iff]
  simp only [midnight, dayMicros]
  omega

end Timestamp

end Footfall
