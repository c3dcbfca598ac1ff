import Mathlib
import Footfall.Proofs.Calendar.StoredText
import Footfall.Rollup.Staleness

/-!
# Days as the store sees them

A stored moment lies on a day of the calendar if the day's midnight is the start
of its day bucket.  The lemmas here move between the four spellings of that fact
that the store uses: the half-open span of a compaction, the truncation of a
group key, the bound of a query and the text of a bucket.

## Main Definitions

* `Timestamp.OnDay` — a moment lies on a day
* `Day.Storable` — the store can keep the midnight of a day
* `Instant.endOfDay` — the last microsecond of a day
-/

namespace Footfall

/-! ## Years in order -/

theorem yearOf_mono {a b : ℤ} (h : a ≤ b) : yearOf a ≤ yearOf b := by
  by_contra hlt
  obtain ⟨ha, -⟩ := yearStart_yearOf a
  obtain ⟨-, hb⟩ := yearStart_yearOf b
  have hyears : yearStart (yearOf b + 1) ≤ yearStart (yearOf a) := by
    rcases eq_or_lt_of_le (show yearOf b + 1 ≤ yearOf a by omega) with heq | hlt
    · rw [heq]
    · have := yearStart_lt hlt
      omega
  omega

theorem Day.year_mono {d e : Day} (h : d ≤ e) : d.civil.year ≤ e.civil.year :=
  yearOf_mono (Day.le_iff.mp h)

theorem Day.not_lt {d e : Day} : ¬ d < e ↔ e ≤ d :=
  Int.not_lt

theorem Day.not_le {d e : Day} : ¬ d ≤ e ↔ e < d :=
  Int.not_le

instance : Std.Irrefl (fun d e : Day => d < e) :=
  ⟨fun d => Int.lt_irrefl d.number⟩

instance : Std.Antisymm (fun d e : Day => d < e) :=
  ⟨fun _ _ h h' => absurd (Int.lt_trans h h') (Int.lt_irrefl _)⟩

theorem Day.number_of_next? {d next : Day} (h : d.next? = some next) :
    next.number = d.number + 1 :=
  Day.ofNumber?_eq_some_iff.mp h

theorem Day.number_of_pred? {d pred : Day} (h : d.pred? = some pred) :
    pred.number = d.number - 1 :=
  Day.ofNumber?_eq_some_iff.mp h

/-- No day comes before the first, so a look back may stop there. -/
theorem Day.back_le_iff {d e : Day} {n : ℕ} : d.back n ≤ e ↔ d.number - n ≤ e.number := by
  have hfirst := e.first_le
  have hlast := d.le_last
  rw [Day.le_iff, back, add?, ofNumber?]
  -- either the look back stays in the calendar, or it stops at the first day
  split
  · rfl
  · simp only [Option.getD_none, first]
    omega

/-- The store can keep the midnight of the day. -/
def Day.Storable (d : Day) : Prop :=
  d.civil.year ≤ 9999

instance (d : Day) : Decidable d.Storable :=
  inferInstanceAs (Decidable (_ ≤ _))

theorem Day.Storable.of_le {d e : Day} (h : e.Storable) (le : d ≤ e) : d.Storable :=
  (Day.year_mono le).trans h

/-! ## Midnights -/

namespace Instant

@[simp] theorem toTimestamp_midnight (d : Day) : (midnight d).toTimestamp = .midnight d := by
  simp only [toTimestamp, midnight_seconds, midnight_nanos, Timestamp.midnight,
    Timestamp.mk.injEq, Timestamp.dayMicros]
  omega

theorem storable_midnight_iff {d : Day} : (midnight d).Storable ↔ d.Storable := by
  simp [Instant.Storable, Day.Storable, isLeap]

theorem stored_of_storable {t : Instant} (h : t.Storable) : t.stored = .ok t.toTimestamp := by
  have hstored := stored?_of_storable h
  unfold Instant.stored
  rw [hstored]

theorem stored_of_not_storable {t : Instant} (h : ¬ t.Storable) :
    t.stored = .error (.notTimestamp t.storedText) := by
  have hstored : t.stored? = none := by rw [stored?_eq, if_neg h]
  unfold Instant.stored
  rw [hstored]

theorem stored_eq_ok_iff {t : Instant} {u : Timestamp} :
    t.stored = .ok u ↔ t.Storable ∧ u = t.toTimestamp := by
  by_cases h : t.Storable
  · rw [stored_of_storable h, Except.ok.injEq, eq_comm]
    exact (and_iff_right h).symm
  · simp only [stored_of_not_storable h, reduceCtorEq, h, false_and]

theorem stored_midnight {d : Day} (h : d.Storable) :
    (midnight d).stored = .ok (.midnight d) := by
  rw [stored_of_storable (storable_midnight_iff.mpr h), toTimestamp_midnight]

/-- A stored instant lies on the day of the instant. -/
theorem dayNumber_toTimestamp {t : Instant} (h : t.Storable) :
    t.toTimestamp.dayNumber = t.day.number := by
  have hn := h.nanos_lt
  simp only [toTimestamp, Timestamp.dayNumber, Timestamp.dayMicros, day]
  omega

/-- An instant of the years 0 to 9999 is stored as a moment of those years. -/
theorem fourDigit_toTimestamp {t : Instant} (h : t.Storable)
    (year_nonneg : 0 ≤ t.day.civil.year) : t.toTimestamp.FourDigit := by
  rw [Timestamp.FourDigit, dayNumber_toTimestamp h]
  exact ⟨year_nonneg, h.2⟩

/-- Instants outside of leap seconds are stored in their order. -/
theorem toTimestamp_le {t u : Instant} (regular : t.isLeap = false) (h : t ≤ u) :
    t.toTimestamp ≤ u.toTimestamp := by
  have hn := nanos_lt_of_regular regular
  simp only [le_iff, key] at h
  simp only [Timestamp.le_iff, toTimestamp]
  have hu := u.nanos_lt
  omega

/-- The last microsecond of a day. -/
def endOfDay (d : Day) : Instant where
  seconds := d.number * 86400 + 86399
  nanos := 999999000
  first_le := by have := d.first_le; omega
  le_last := by have := d.le_last; omega
  nanos_lt := by omega
  leap_at_59 := by omega

@[simp] theorem day_endOfDay (d : Day) : (endOfDay d).day = d := by
  apply Day.eq_of_number
  simp only [day, endOfDay]
  omega

theorem storable_endOfDay_iff {d : Day} : (endOfDay d).Storable ↔ d.Storable := by
  simp only [Instant.Storable, Day.Storable, day_endOfDay, and_iff_right_iff_imp]
  exact fun _ => rfl

end Instant

/-! ## Reading -/

@[simp] theorem ok_bind {α β ε : Type} (a : α) (f : α → Except ε β) :
    (Except.ok a >>= f) = f a := rfl

@[simp] theorem error_bind {α β ε : Type} (e : ε) (f : α → Except ε β) :
    (Except.error e >>= f) = .error e := rfl

theorem bind_eq_ok_iff {α β ε : Type} {x : Except ε α} {f : α → Except ε β} {b : β} :
    x >>= f = .ok b ↔ ∃ a, x = .ok a ∧ f a = .ok b := by
  cases x with
  | error e => simp only [error_bind, reduceCtorEq, false_and, exists_false]
  | ok a => simp only [ok_bind, Except.ok.injEq, exists_eq_left']

theorem mapError_eq_ok_iff {α ε ε' : Type} {x : Except ε α} {f : ε → ε'} {a : α} :
    x.mapError f = .ok a ↔ x = .ok a := by
  cases x <;> simp [Except.mapError]

/-- What all members are read to, one by one. -/
theorem mapM_eq_ok_iff {α β ε : Type} {f : α → Except ε β} {as : List α} {bs : List β} :
    as.mapM f = .ok bs ↔ as.map f = bs.map .ok := by
  induction as generalizing bs with
  | nil => cases bs <;> simp [pure, Except.pure]
  | cons a as ih =>
      rw [List.mapM_cons, bind_eq_ok_iff]
      simp only [bind_eq_ok_iff, ih, pure, Except.pure, Except.ok.injEq]
      constructor
      · rintro ⟨b, hb, rest, hrest, rfl⟩
        rw [List.map_cons, List.map_cons, hb, hrest]
      · intro h
        cases bs with
        | nil => cases h
        | cons b bs =>
            obtain ⟨hb, hbs⟩ := List.cons.inj h
            exact ⟨b, hb, bs, hbs, rfl⟩

/-- If every member can be read, all of them can, each to what it is read to. -/
theorem exists_mapM_ok {α β ε : Type} {f : α → Except ε β} {as : List α}
    (h : ∀ a ∈ as, ∃ b, f a = .ok b) :
    ∃ bs, as.mapM f = .ok bs ∧ ∀ b, b ∈ bs ↔ ∃ a ∈ as, f a = .ok b := by
  induction as with
  | nil => exact ⟨[], rfl, by simp⟩
  | cons a as ih =>
      obtain ⟨b, hb⟩ := h a List.mem_cons_self
      obtain ⟨bs, hbs, hmem⟩ := ih fun c hc => h c (List.mem_cons_of_mem a hc)
      refine ⟨b :: bs, ?_, fun c => ?_⟩
      · rw [List.mapM_cons, hb, hbs]
        rfl
      · rw [List.mem_cons, hmem, List.exists_mem_cons_iff, hb, Except.ok.injEq, eq_comm]

/-! ## Moments on a day -/

namespace Timestamp

theorem eq_iff {t u : Timestamp} : t = u ↔ t.micros = u.micros := by
  cases t
  cases u
  rw [mk.injEq]

/-- The moment lies on the day. -/
def OnDay (d : Day) (t : Timestamp) : Prop :=
  t.dayNumber = d.number

instance (d : Day) (t : Timestamp) : Decidable (t.OnDay d) :=
  inferInstanceAs (Decidable (_ = _))

theorem OnDay.unique {d e : Day} {t : Timestamp} (hd : t.OnDay d) (he : t.OnDay e) : d = e :=
  Day.eq_of_number (hd.symm.trans he)

@[simp] theorem dayNumber_midnight (d : Day) : (midnight d).dayNumber = d.number := by
  simp only [midnight, dayNumber, dayMicros]
  omega

theorem onDay_midnight (d : Day) : (midnight d).OnDay d :=
  dayNumber_midnight d

/-- The moments of a day come before every later midnight. -/
theorem OnDay.lt_midnight {d e : Day} {t : Timestamp} (h : t.OnDay d) (lt : d < e) :
    t < midnight e := by
  rw [Day.lt_iff] at lt
  simp only [OnDay, dayNumber, dayMicros] at h
  simp only [lt_iff, midnight, dayMicros]
  omega

theorem midnight_injective {d e : Day} (h : midnight d = midnight e) : d = e :=
  Day.eq_of_number (by rw [← dayNumber_midnight d, h, dayNumber_midnight])

@[simp] theorem dayNumber_truncate_day (t : Timestamp) :
    (t.truncate .day).dayNumber = t.dayNumber := by
  simp only [truncate, dayNumber, dayMicros]
  omega

@[simp] theorem dayNumber_truncate_hour (t : Timestamp) :
    (t.truncate .hour).dayNumber = t.dayNumber := by
  simp only [truncate, dayNumber, dayMicros, hourMicros]
  omega

theorem truncate_day_eq_midnight_iff {d : Day} {t : Timestamp} :
    t.truncate .day = midnight d ↔ t.OnDay d := by
  constructor
  · intro h
    rw [OnDay, ← dayNumber_truncate_day, h, dayNumber_midnight]
  · intro h
    simp only [truncate, midnight, show t.dayNumber = d.number from h]

/-- The span of a compaction holds the moments of its day. -/
theorem fromUpTo_midnight_iff {d next : Day} (h : d.next? = some next) {t : Timestamp} :
    t.fromUpTo (midnight d) (midnight next) = true ↔ t.OnDay d := by
  have hnext := Day.number_of_next? h
  simp only [fromUpTo, Bool.and_eq_true, decide_eq_true_eq, le_iff, lt_iff, midnight, hnext,
    OnDay, dayNumber, dayMicros]
  omega

/-- A span between two midnights holds the moments of the days between them. -/
theorem fromUpTo_midnights_iff {d e : Day} {t : Timestamp} :
    t.fromUpTo (midnight d) (midnight e) = true ↔
      d.number ≤ t.dayNumber ∧ t.dayNumber < e.number := by
  simp only [fromUpTo, Bool.and_eq_true, decide_eq_true_eq, le_iff, lt_iff, midnight,
    dayNumber, dayMicros]
  omega

/-- The inclusive span of a whole day holds the moments of the day. -/
theorem within_day_iff {d : Day} {t : Timestamp} :
    t.within (midnight d) (Instant.endOfDay d).toTimestamp = true ↔ t.OnDay d := by
  simp only [within, Bool.and_eq_true, decide_eq_true_eq, le_iff, midnight, OnDay, dayNumber,
    dayMicros, Instant.toTimestamp, Instant.endOfDay]
  omega

/-- Between two moments of the years 0 to 9999 are moments of those years. -/
theorem fourDigit_of_within {start stop t : Timestamp} (hstart : start.FourDigit)
    (hstop : stop.FourDigit) (h : t.within start stop = true) : t.FourDigit := by
  simp only [within, Bool.and_eq_true, decide_eq_true_eq, le_iff] at h
  have hfirst : start.dayNumber ≤ t.dayNumber := Int.ediv_le_ediv (by decide) h.1
  have hlast : t.dayNumber ≤ stop.dayNumber := Int.ediv_le_ediv (by decide) h.2
  exact ⟨hstart.1.trans (yearOf_mono hfirst), (yearOf_mono hlast).trans hstop.2⟩

theorem fourDigit_iff_of_dayNumber {t u : Timestamp} (h : t.dayNumber = u.dayNumber) :
    t.FourDigit ↔ u.FourDigit := by
  simp [FourDigit, h]

/-- A moment of a four-digit year lies on a day of the calendar. -/
theorem FourDigit.exists_onDay {t : Timestamp} (h : t.FourDigit) :
    ∃ d : Day, t.OnDay d ∧ d.Storable := by
  have hday : (t.toInstant h).day.number = t.dayNumber := by
    simp only [toInstant, Instant.day, dayNumber, dayMicros]
    omega
  refine ⟨(t.toInstant h).day, hday.symm, ?_⟩
  rw [Day.Storable, Day.civil, hday]
  exact h.2

/-! ## Buckets read back -/

/-- The text of a midnight that the store can keep names the midnight. -/
theorem ofStoredText?_midnight_of_storable {d : Day} (h : d.Storable) :
    Instant.ofStoredText? (midnight d).bucketText = some (Instant.midnight d) := by
  have hyear : (Civil.ofDayNumber (midnight d).dayNumber).year ≤ 9999 := by
    rw [dayNumber_midnight]
    exact h
  rw [ofStoredText?_bucketText hyear, Instant.ofParts?_eq_some_iff]
  simp only [Instant.midnight_seconds, Instant.midnight_nanos, midnight, dayMicros, and_true]
  omega

theorem FourDigit.storable {d : Day} (h : (midnight d).FourDigit) : d.Storable := by
  rw [FourDigit, dayNumber_midnight] at h
  exact h.2

/-- The text of a midnight names the midnight. -/
theorem ofStoredText?_midnight {d : Day} (h : (midnight d).FourDigit) :
    Instant.ofStoredText? (midnight d).bucketText = some (Instant.midnight d) :=
  ofStoredText?_midnight_of_storable h.storable

theorem readBucket_midnight_of_storable {d : Day} (h : d.Storable) :
    (midnight d).readBucket = .ok (Instant.midnight d) := by
  have hread := ofStoredText?_midnight_of_storable h
  unfold readBucket
  rw [hread]

theorem readBucket_midnight {d : Day} (h : (midnight d).FourDigit) :
    (midnight d).readBucket = .ok (Instant.midnight d) :=
  readBucket_midnight_of_storable h.storable

/-- A bucket that can be read is read on its day. -/
theorem number_day_of_readBucket {t : Timestamp} {i : Instant}
    (year_le : (Civil.ofDayNumber t.dayNumber).year ≤ 9999) (h : t.readBucket = .ok i) :
    i.day.number = t.dayNumber := by
  unfold readBucket at h
  rw [ofStoredText?_bucketText year_le] at h
  split at h
  · next hread =>
    obtain rfl := Except.ok.inj h
    obtain ⟨hsecond, -⟩ := Instant.ofParts?_eq_some_iff.mp hread
    simp only [Instant.day, dayNumber, dayMicros]
    omega
  · cases h

theorem readExact_of_fourDigit {t : Timestamp} (h : t.FourDigit) :
    t.readExact = .ok (t.toInstant h) := by
  have hread := ofStoredText?_text h
  unfold readExact
  rw [hread]

end Timestamp

end Footfall
