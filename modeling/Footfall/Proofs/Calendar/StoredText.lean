import Mathlib
import Footfall.Calendar.Timestamp

/-!
# The texts between the calendar and the store

Instants are handed to the store as text and buckets come back as text.  Both
texts are fixed-width digits between fixed separators, so reading is undone by
writing digit run by digit run.

## Main Statements

* `Instant.stored?_eq` — an instant has a stored form exactly if it is
  no leap second and its year is at most 9999, and then the form is the instant
  cut to microseconds
* `Timestamp.ofStoredText?_bucketText` — the text of a bucket of a year up to 9999
  names the second at which the bucket starts
* `Timestamp.ofStoredText?_text` — the text with its six places names the
  moment itself
-/

namespace Footfall

/-! ## Runs of digits -/

theorem isDigit_digitChar (d : ℕ) : (digitChar d).isDigit = true := by
  have h : d % 10 < 10 := Nat.mod_lt _ (by decide)
  unfold digitChar
  generalize d % 10 = r at h
  interval_cases r <;> decide

theorem toNat_digitChar (d : ℕ) : (digitChar d).toNat - 48 = d % 10 := by
  have h : d % 10 < 10 := Nat.mod_lt _ (by decide)
  unfold digitChar
  generalize d % 10 = r at h
  interval_cases r <;> decide

theorem isDigit_of_mem_fixedDigits {width n : ℕ} {c : Char}
    (h : c ∈ fixedDigits width n) : c.isDigit = true := by
  induction width generalizing n with
  | zero => simp [fixedDigits] at h
  | succ width ih =>
      rcases List.mem_append.mp h with h | h
      · exact ih h
      · rw [List.mem_singleton.mp h]
        exact isDigit_digitChar n

theorem digitsValue_append_singleton (ds : List Char) (c : Char) :
    digitsValue (ds ++ [c]) = 10 * digitsValue ds + (c.toNat - 48) := by
  simp [digitsValue]

/-- A run of `width` digits keeps the number up to its last `width` places. -/
theorem digitsValue_fixedDigits (width n : ℕ) :
    digitsValue (fixedDigits width n) = n % 10 ^ width := by
  induction width generalizing n with
  | zero => simp [fixedDigits, digitsValue, Nat.mod_one]
  | succ width ih =>
      rw [fixedDigits, digitsValue_append_singleton, ih, toNat_digitChar,
        pow_succ', Nat.mod_mul]
      omega

theorem digitsValue_toDigits (n : ℕ) : digitsValue (Nat.toDigits 10 n) = n := by
  have h := Nat.ofDigitChars_ten_toDigits (n := n)
  rwa [Nat.ofDigitChars_eq_foldl] at h

theorem isDigit_of_mem_paddedDigits {width n : ℕ} {c : Char}
    (h : c ∈ paddedDigits width n) : c.isDigit = true := by
  unfold paddedDigits at h
  split at h
  · exact isDigit_of_mem_fixedDigits h
  · exact Nat.isDigit_of_mem_toDigits (by decide) (by decide) h

theorem digitsValue_paddedDigits (width n : ℕ) :
    digitsValue (paddedDigits width n) = n := by
  unfold paddedDigits
  split
  · next h => rw [digitsValue_fixedDigits, Nat.mod_eq_of_lt (by simpa using h)]
  · exact digitsValue_toDigits n

theorem paddedDigits_ne_nil {width : ℕ} (hw : 0 < width) (n : ℕ) :
    paddedDigits width n ≠ [] := by
  unfold paddedDigits
  split
  · rw [ne_eq, ← List.length_eq_zero_iff, fixedDigits_length]
    omega
  · exact Nat.toDigits_ne_nil

/-! ## Reading runs of digits -/

/-- A text that goes on with something other than a digit, or not at all. -/
def EndsRun (rest : List Char) : Prop :=
  ∀ c ∈ rest.head?, c.isDigit = false

theorem endsRun_cons {c : Char} {rest : List Char} (h : c.isDigit = false) :
    EndsRun (c :: rest) := by
  simpa [EndsRun] using h

/-- Reading stops where the run of digits ends. -/
theorem takeWhile_take_append {ds rest : List Char} {most : ℕ}
    (digits : ∀ c ∈ ds, c.isDigit = true) (ends : EndsRun rest)
    (fits : ds.length ≤ most) :
    ((ds ++ rest).take most).takeWhile Char.isDigit = ds := by
  rw [List.take_append, List.take_of_length_le fits,
    List.takeWhile_append_of_pos digits]
  cases rest with
  | nil => simp
  | cons c rest =>
      have hc : c.isDigit = false := ends c rfl
      cases most - ds.length with
      | zero => simp
      | succ k => simp [hc]

theorem readUpTo_append {ds rest : List Char} {most : ℕ} (nonempty : ds ≠ [])
    (digits : ∀ c ∈ ds, c.isDigit = true) (ends : EndsRun rest)
    (fits : ds.length ≤ most) :
    readUpTo most (ds ++ rest) = some (digitsValue ds, rest) := by
  simp [readUpTo, takeWhile_take_append digits ends fits, nonempty]

theorem readAll_append {ds rest : List Char} (nonempty : ds ≠ [])
    (digits : ∀ c ∈ ds, c.isDigit = true) (ends : EndsRun rest) :
    readAll (ds ++ rest) = some (digitsValue ds, rest) :=
  readUpTo_append nonempty digits ends (by simp)

theorem fixedDigits_ne_nil {width : ℕ} (hw : 0 < width) (n : ℕ) :
    fixedDigits width n ≠ [] := by
  rw [ne_eq, ← List.length_eq_zero_iff, fixedDigits_length]
  omega

theorem readUpTo_fixedDigits {width most n : ℕ} {rest : List Char} (hw : 0 < width)
    (fits : width ≤ most) (ends : EndsRun rest) :
    readUpTo most (fixedDigits width n ++ rest) = some (n % 10 ^ width, rest) := by
  rw [readUpTo_append (fixedDigits_ne_nil hw n)
    (fun _ h => isDigit_of_mem_fixedDigits h) ends (by simpa using fits),
    digitsValue_fixedDigits]

theorem readExactly_fixedDigits (width n : ℕ) (rest : List Char) :
    readExactly width (fixedDigits width n ++ rest) = some (n % 10 ^ width, rest) := by
  have hlen : (fixedDigits width n).length = width := fixedDigits_length width n
  have htake : (fixedDigits width n ++ rest).take width = fixedDigits width n := by
    rw [List.take_append_of_le_length hlen.ge, List.take_of_length_le hlen.le]
  have hdrop : (fixedDigits width n ++ rest).drop width = rest := by
    rw [List.drop_append_of_le_length hlen.ge, List.drop_of_length_le hlen.le,
      List.nil_append]
  have hwhile : (fixedDigits width n).takeWhile Char.isDigit = fixedDigits width n :=
    List.takeWhile_eq_self_iff.mpr fun _ h => isDigit_of_mem_fixedDigits h
  simp [readExactly, htake, hdrop, hwhile, digitsValue_fixedDigits]

/-- Six places after a point are a number of microseconds. -/
theorem readFraction_six (n : ℕ) :
    readFraction ('.' :: fixedDigits 6 n) = some (n % 1000000 * 1000, []) := by
  have hwhile : (fixedDigits 6 n).takeWhile Char.isDigit = fixedDigits 6 n :=
    List.takeWhile_eq_self_iff.mpr fun _ h => isDigit_of_mem_fixedDigits h
  have htake : (fixedDigits 6 n).take 9 = fixedDigits 6 n :=
    List.take_of_length_le (by simp)
  simp [readFraction, hwhile, htake, fixedDigits_ne_nil, digitsValue_fixedDigits,
    List.drop_of_length_le]

/-! ## Reading dates and clocks -/

theorem daysInMonth_le (year : ℤ) {month : ℕ} (h : month ≤ 12) :
    daysInMonth year month ≤ 31 := by
  unfold daysInMonth
  generalize isLeapYear year = leap
  interval_cases month <;> cases leap <;> decide

/-- A date of the calendar has two-digit months and days. -/
theorem Civil.Valid.lt_hundred {c : Civil} (h : c.Valid) : c.month < 100 ∧ c.day < 100 := by
  obtain ⟨-, month_le, -, day_le⟩ := h
  have := daysInMonth_le c.year month_le
  omega

theorem readDate_append {year : List Char → Option (ℤ × List Char)}
    {ys rest : List Char} {c : Civil} (valid : c.Valid)
    (readsYear : ∀ rest, EndsRun rest → year (ys ++ rest) = some (c.year, rest))
    (ends : EndsRun rest) :
    readDate year (ys ++ '-' :: fixedDigits 2 c.month ++ '-' :: fixedDigits 2 c.day ++ rest) =
      some (c, rest) := by
  obtain ⟨month_lt, day_lt⟩ := valid.lt_hundred
  have dash : ∀ cs, EndsRun ('-' :: cs) := fun cs => endsRun_cons (by decide)
  simp only [List.append_assoc, List.cons_append, readDate]
  rw [readsYear _ (dash _)]
  simp only [Option.bind_eq_bind, Option.bind_some, readChar_cons_self]
  rw [readUpTo_fixedDigits (by decide) le_rfl (dash _)]
  simp only [Option.bind_some, readChar_cons_self]
  rw [readUpTo_fixedDigits (by decide) le_rfl ends]
  simp [Nat.mod_eq_of_lt month_lt, Nat.mod_eq_of_lt day_lt]

/-- Hours, minutes and seconds of a second of the day. -/
def clockText (s : ℕ) : List Char :=
  fixedDigits 2 (s / 3600) ++ ':' :: fixedDigits 2 (s / 60 % 60) ++ ':' :: fixedDigits 2 (s % 60)

theorem readClock_clockText {s : ℕ} (hs : s < 86400) (rest : List Char) :
    readClock (clockText s ++ rest) = some (s, rest) := by
  simp only [clockText, List.append_assoc, List.cons_append, readClock]
  rw [readExactly_fixedDigits]
  simp only [Option.bind_eq_bind, Option.bind_some, readChar_cons_self]
  rw [readExactly_fixedDigits]
  simp only [Option.bind_some, readChar_cons_self]
  rw [readExactly_fixedDigits]
  have hour : s / 3600 % 10 ^ 2 = s / 3600 := Nat.mod_eq_of_lt (by omega)
  have minute : s / 60 % 60 % 10 ^ 2 = s / 60 % 60 := Nat.mod_eq_of_lt (by omega)
  have second : s % 60 % 10 ^ 2 = s % 60 := Nat.mod_eq_of_lt (by omega)
  simp only [Option.bind_some, hour, minute, second]
  -- all three parts are in range, and add up to the second they came from
  rw [if_pos (by omega)]
  congr 2
  omega

/-- A clock that shows second 60 is refused. -/
theorem readClock_sixty (hour minute : ℕ) (rest : List Char) :
    readClock (fixedDigits 2 hour ++ ':' :: fixedDigits 2 minute ++ ':' :: fixedDigits 2 60 ++
      rest) = none := by
  simp only [List.append_assoc, List.cons_append, readClock]
  rw [readExactly_fixedDigits]
  simp only [Option.bind_eq_bind, Option.bind_some, readChar_cons_self]
  rw [readExactly_fixedDigits]
  simp only [Option.bind_some, readChar_cons_self]
  rw [readExactly_fixedDigits]
  simp

/-! ## Years -/

theorem readStoreYear_append {ds rest : List Char} (nonempty : ds ≠ [])
    (digits : ∀ c ∈ ds, c.isDigit = true) (ends : EndsRun rest) :
    readStoreYear (ds ++ rest) = some ((digitsValue ds : ℤ), rest) := by
  obtain ⟨c, ds, rfl⟩ := List.exists_cons_of_ne_nil nonempty
  -- a digit in front, so the year is not read as a negative one
  have hc : c ≠ '-' := by
    rintro rfl
    exact absurd (digits '-' List.mem_cons_self) (by decide)
  have hall := readAll_append nonempty digits ends
  rw [List.cons_append] at hall ⊢
  rw [readStoreYear, hall]
  · rfl
  · exact fun cs h => hc (List.cons.inj h).1

theorem readYear_append {ds rest : List Char} (nonempty : ds ≠ [])
    (digits : ∀ c ∈ ds, c.isDigit = true) (ends : EndsRun rest) (fits : ds.length ≤ 4) :
    readYear (ds ++ rest) = some ((digitsValue ds : ℤ), rest) := by
  obtain ⟨c, ds, rfl⟩ := List.exists_cons_of_ne_nil nonempty
  have hc : c ≠ '-' ∧ c ≠ '+' := by
    constructor <;> rintro rfl <;>
      exact absurd (digits _ List.mem_cons_self) (by decide)
  have hall := readUpTo_append nonempty digits ends fits
  rw [List.cons_append] at hall ⊢
  rw [readYear, hall]
  · rfl
  · exact fun cs h => hc.1 (List.cons.inj h).1
  · exact fun cs h => hc.2 (List.cons.inj h).1

/-- The store reads every year up to 9999 as it was written. -/
theorem readStoreYear_yearDigits {year : ℤ} (h : year ≤ 9999) {rest : List Char}
    (ends : EndsRun rest) :
    readStoreYear (yearDigits year ++ rest) = some (year, rest) := by
  unfold yearDigits
  split
  · next hyear =>
    rw [readStoreYear_append (fixedDigits_ne_nil (by decide) _)
      (fun _ h => isDigit_of_mem_fixedDigits h) ends, digitsValue_fixedDigits]
    congr 2
    omega
  · next hyear =>
    have negative : year < 0 := by omega
    rw [if_pos negative, List.cons_append, readStoreYear,
      readAll_append (paddedDigits_ne_nil (by decide) _)
        (fun _ h => isDigit_of_mem_paddedDigits h) ends, digitsValue_paddedDigits]
    simp only [Option.map_some]
    congr 2
    omega

/-- The store reads no year after 9999, for its text starts with a plus sign. -/
theorem readStoreYear_yearDigits_eq_none {year : ℤ} (h : 9999 < year) (rest : List Char) :
    readStoreYear (yearDigits year ++ rest) = none := by
  have hsign : yearDigits year = '+' :: paddedDigits 4 year.natAbs := by
    rw [yearDigits, if_neg (by omega), if_neg (by omega)]
  rw [hsign, List.cons_append, readStoreYear]
  · simp [readAll, readUpTo]
  · exact fun cs h => absurd (List.cons.inj h).1 (by decide)

/-! ## Instants that have a stored form -/

namespace Instant

/-- The instant cut to whole microseconds. -/
def toTimestamp (t : Instant) : Timestamp :=
  ⟨t.seconds * 1000000 + (t.nanos / 1000 : ℕ)⟩

/-- What the store can keep: no leap second, and no year after 9999. -/
def Storable (t : Instant) : Prop :=
  t.isLeap = false ∧ t.day.civil.year ≤ 9999

instance (t : Instant) : Decidable t.Storable :=
  inferInstanceAs (Decidable (_ ∧ _))

/-- Outside of leap seconds the nanoseconds are those of a second. -/
theorem nanos_lt_of_regular {t : Instant} (h : t.isLeap = false) : t.nanos < 1000000000 := by
  simpa [isLeap] using h

theorem Storable.nanos_lt {t : Instant} (h : t.Storable) : t.nanos < 1000000000 :=
  nanos_lt_of_regular h.1

theorem clockChars_eq {t : Instant} (h : t.isLeap = false) :
    t.clockChars = clockText t.secondOfDay := by
  simp [clockChars, clockText, h]

theorem secondOfDay_lt (t : Instant) : t.secondOfDay < 86400 := by
  unfold secondOfDay
  omega

theorem storedText_toList (t : Instant) :
    t.storedText.toList =
      yearDigits t.day.civil.year ++ '-' :: fixedDigits 2 t.day.civil.month ++
        '-' :: fixedDigits 2 t.day.civil.day ++
        (' ' :: t.clockChars ++ '.' :: fixedDigits 6 (t.nanos % 1000000000 / 1000)) := by
  simp [storedText, Civil.chars]

/-- The date in front of an instant's text is read back. -/
theorem readDate_storedText {t : Instant} (h : t.day.civil.year ≤ 9999) :
    readDate readStoreYear t.storedText.toList =
      some (t.day.civil,
        ' ' :: t.clockChars ++ '.' :: fixedDigits 6 (t.nanos % 1000000000 / 1000)) := by
  rw [storedText_toList]
  exact readDate_append (Civil.valid_ofDayNumber t.day.number)
    (fun _ ends => readStoreYear_yearDigits h ends) (endsRun_cons (by decide))

theorem stored?_of_storable {t : Instant} (h : t.Storable) :
    t.stored? = some t.toTimestamp := by
  obtain ⟨regular, year_le⟩ := h
  have hn := nanos_lt_of_regular regular
  have hvalid : t.day.civil.Valid := Civil.valid_ofDayNumber t.day.number
  have hnumber : t.day.civil.dayNumber = t.seconds / 86400 :=
    Civil.dayNumber_ofDayNumber t.day.number
  unfold stored? Timestamp.ofText?
  rw [readDate_storedText year_le, clockChars_eq regular]
  simp only [Option.bind_eq_bind, Option.bind_some, List.cons_append, readChar_cons_self]
  rw [readClock_clockText t.secondOfDay_lt]
  simp only [Option.bind_some]
  rw [readFraction_six]
  simp only [Option.bind_some, List.isEmpty_nil, true_and, if_pos hvalid, toTimestamp,
    hnumber, secondOfDay]
  congr 2
  omega

theorem stored?_of_isLeap {t : Instant} (h : t.isLeap = true) : t.stored? = none := by
  unfold stored? Timestamp.ofText?
  -- the clock is refused only where the date before it can be read
  by_cases year_le : t.day.civil.year ≤ 9999
  · rw [readDate_storedText year_le]
    simp only [Option.bind_eq_bind, Option.bind_some, List.cons_append, readChar_cons_self]
    simp only [clockChars, h, if_true]
    rw [readClock_sixty]
    rfl
  · rw [storedText_toList, readDate]
    simp only [List.append_assoc]
    rw [readStoreYear_yearDigits_eq_none (by omega)]
    rfl

theorem stored?_of_late {t : Instant} (h : 9999 < t.day.civil.year) : t.stored? = none := by
  unfold stored? Timestamp.ofText?
  rw [storedText_toList, readDate]
  simp only [List.append_assoc]
  rw [readStoreYear_yearDigits_eq_none h]
  rfl

/-- **An instant is stored cut to microseconds, or not at all.** -/
theorem stored?_eq (t : Instant) :
    t.stored? = if t.Storable then some t.toTimestamp else none := by
  split
  · next h => exact stored?_of_storable h
  · next h =>
    rcases not_and_or.mp h with h | h
    · exact stored?_of_isLeap (by simpa using h)
    · exact stored?_of_late (by omega)

end Instant

/-! ## Reading the answers of the store -/

namespace Timestamp

/-- The clock of a moment, in seconds since midnight. -/
def secondOfDay (t : Timestamp) : ℕ :=
  (t.micros / 1000000 % 86400).toNat

/-- Whether the year of a moment is written with four digits. -/
def FourDigit (t : Timestamp) : Prop :=
  0 ≤ (Civil.ofDayNumber t.dayNumber).year ∧ (Civil.ofDayNumber t.dayNumber).year ≤ 9999

instance (t : Timestamp) : Decidable t.FourDigit :=
  inferInstanceAs (Decidable (_ ∧ _))

theorem secondChars_eq_yearChars (t : Timestamp) :
    t.secondChars =
      yearChars (Civil.ofDayNumber t.dayNumber).year ++
        '-' :: fixedDigits 2 (Civil.ofDayNumber t.dayNumber).month ++
        '-' :: fixedDigits 2 (Civil.ofDayNumber t.dayNumber).day ++
        (' ' :: clockText t.secondOfDay) := by
  simp [secondChars, clockText, secondOfDay]

theorem secondChars_eq {t : Timestamp} (h : t.FourDigit) :
    t.secondChars =
      fixedDigits 4 (Civil.ofDayNumber t.dayNumber).year.toNat ++
        '-' :: fixedDigits 2 (Civil.ofDayNumber t.dayNumber).month ++
        '-' :: fixedDigits 2 (Civil.ofDayNumber t.dayNumber).day ++
        (' ' :: clockText t.secondOfDay) := by
  rw [secondChars_eq_yearChars, yearChars, if_pos (show _ ∧ _ from h)]

/-- Every year up to 9999 is read as the store answered it. -/
theorem readYear_yearChars {year : ℤ} (h : year ≤ 9999) {rest : List Char}
    (ends : EndsRun rest) : readYear (yearChars year ++ rest) = some (year, rest) := by
  unfold yearChars
  split
  · next hyear =>
    rw [readYear_append (fixedDigits_ne_nil (by decide) _)
      (fun _ hc => isDigit_of_mem_fixedDigits hc) ends (by simp), digitsValue_fixedDigits]
    congr 2
    omega
  · next hyear =>
    have negative : year < 0 := by omega
    rw [if_pos negative, List.cons_append, readYear, readAll_append Nat.toDigits_ne_nil
      (fun _ hc => Nat.isDigit_of_mem_toDigits (by decide) (by decide) hc) ends,
      digitsValue_toDigits]
    simp only [Option.map_some]
    congr 2
    omega

/-- A moment of a four-digit year lies within the calendar. -/
theorem FourDigit.seconds_bounds {t : Timestamp} (h : t.FourDigit) :
    -8334601228800 ≤ t.micros / 1000000 ∧ t.micros / 1000000 ≤ 8210266876799 := by
  obtain ⟨h₁, h₂⟩ := Civil.dayNumber_bounds (Civil.valid_ofDayNumber t.dayNumber)
  rw [Civil.dayNumber_ofDayNumber] at h₁ h₂
  obtain ⟨year_nonneg, year_le⟩ := h
  -- what remains is about the year alone, and the calendar reaches past both of its bounds
  generalize (Civil.ofDayNumber t.dayNumber).year = year at *
  have hday : t.dayNumber = t.micros / 86400000000 := rfl
  unfold yearStart at h₁ h₂
  omega

/-- The instant of a moment of a four-digit year. -/
def toInstant (t : Timestamp) (h : t.FourDigit) : Instant where
  seconds := t.micros / 1000000
  nanos := (t.micros % 1000000).toNat * 1000
  first_le := h.seconds_bounds.1
  le_last := h.seconds_bounds.2
  nanos_lt := by omega
  leap_at_59 := by omega

/-- A text of the store with date, clock and, maybe, a fraction is read part by part. -/
theorem ofStoredText?_append {t : Timestamp} (h : (Civil.ofDayNumber t.dayNumber).year ≤ 9999)
    {fraction : List Char} {nanos : ℕ} (hfraction : readFraction fraction = some (nanos, [])) :
    Instant.ofStoredText? (String.ofList (t.secondChars ++ fraction)) =
      Instant.ofParts? (t.micros / 1000000) nanos := by
  have hvalid := Civil.valid_ofDayNumber t.dayNumber
  have hclock : t.secondOfDay < 86400 := by
    unfold secondOfDay
    omega
  have hsecond : (t.secondOfDay : ℤ) = t.micros / 1000000 % 86400 := by
    unfold secondOfDay
    omega
  have hday : t.dayNumber = t.micros / 86400000000 := rfl
  unfold Instant.ofStoredText?
  rw [String.toList_ofList, secondChars_eq_yearChars, List.append_assoc, List.cons_append,
    readDate_append hvalid (fun _ ends => readYear_yearChars h ends) (endsRun_cons (by decide))]
  simp only [Option.bind_eq_bind, Option.bind_some, readChar_cons_self]
  rw [readClock_clockText hclock]
  simp only [Option.bind_some, hfraction, List.isEmpty_nil, true_and, if_pos hvalid,
    Civil.dayNumber_ofDayNumber]
  congr 1
  omega

/-- **The text of a bucket names the second at which the bucket starts.** -/
theorem ofStoredText?_bucketText {t : Timestamp}
    (h : (Civil.ofDayNumber t.dayNumber).year ≤ 9999) :
    Instant.ofStoredText? t.bucketText = Instant.ofParts? (t.micros / 1000000) 0 := by
  have hfraction : readFraction [] = some (0, []) := rfl
  have hread := ofStoredText?_append h hfraction
  rwa [List.append_nil] at hread

/-- **The text of a moment with its six places names the moment.** -/
theorem ofStoredText?_text {t : Timestamp} (h : t.FourDigit) :
    Instant.ofStoredText? t.text = some (t.toInstant h) := by
  rw [text, ofStoredText?_append h.2 (readFraction_six _), Instant.ofParts?_eq_some_iff]
  simp only [toInstant, true_and]
  omega

end Timestamp

end Footfall
