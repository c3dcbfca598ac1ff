import Mathlib
import Footfall.Proofs.Calendar.Bucket
import Footfall.Proofs.Calendar.Month

/-!
# Buckets of time by number

The buckets of a granularity part all seconds, and each has a number: hours and days
are counted from 1970, months from the year 0.  The start of a bucket is found in two
ways, by the store from whole microseconds and by calendar arithmetic from an instant.
Both are the start of the bucket with the number of the second, so they agree, and
the step from one start leads to the next one.

## Main Definitions

* `Granularity.numberOf`, `Granularity.startOf` — the bucket of a second and its start
* `Granularity.Starts` — an instant is the start of a bucket

## Main Statements

* `Granularity.startOf_le_iff` — a bucket has started if that of the second is no earlier
* `Granularity.starts_truncate`, `Timestamp.micros_truncate` — the start of a bucket, by
  the calendar and by the store
* `Timestamp.readBucket_truncate` — they are one instant
* `Granularity.starts_step_or` — a step leads to the next start, or there is none
-/

namespace Footfall

/-! ## Buckets of seconds -/

namespace Granularity

/-- The number of the bucket that holds a second. -/
def numberOf (g : Granularity) (second : ℤ) : ℤ :=
  match g with
  | hour => second / 3600
  | day => second / 86400
  | month => monthOfDay (second / 86400)

/-- The second at which a bucket starts. -/
def startOf (g : Granularity) (n : ℤ) : ℤ :=
  match g with
  | hour => n * 3600
  | day => n * 86400
  | month => firstOfMonth n * 86400

variable {g : Granularity} {m n second : ℤ}

/-- **A bucket has started by a second** if the bucket of the second is no earlier one. -/
theorem startOf_le_iff : g.startOf n ≤ second ↔ n ≤ g.numberOf second := by
  cases g with
  | hour =>
      simp only [startOf, numberOf]
      omega
  | day =>
      simp only [startOf, numberOf]
      omega
  | month =>
      have hday : firstOfMonth n * 86400 ≤ second ↔ firstOfMonth n ≤ second / 86400 := by omega
      rw [startOf, hday, firstOfMonth_le_iff, numberOf]

theorem lt_startOf_iff : second < g.startOf n ↔ g.numberOf second < n := by
  rw [← not_le, startOf_le_iff, not_le]

theorem strictMono_startOf (g : Granularity) : StrictMono g.startOf := by
  refine strictMono_int_of_lt_succ fun n => ?_
  cases g with
  | hour =>
      simp only [startOf]
      omega
  | day =>
      simp only [startOf]
      omega
  | month =>
      have h := firstOfMonth_add_le_succ n
      simp only [startOf]
      omega

theorem startOf_numberOf_le (g : Granularity) (second : ℤ) :
    g.startOf (g.numberOf second) ≤ second :=
  startOf_le_iff.mpr le_rfl

theorem numberOf_mono (g : Granularity) : Monotone g.numberOf := fun _ _ h =>
  startOf_le_iff.mp ((startOf_numberOf_le g _).trans h)

/-- The first second of a bucket lies in it. -/
@[simp] theorem numberOf_startOf (g : Granularity) (n : ℤ) : g.numberOf (g.startOf n) = n := by
  refine le_antisymm ?_ (startOf_le_iff.mp le_rfl)
  rw [← Int.lt_add_one_iff, ← lt_startOf_iff]
  exact strictMono_startOf g (Int.lt_succ n)

/-! ## Starts -/

/-- The instant is the start of the bucket with the number. -/
def Starts (g : Granularity) (n : ℤ) (t : Instant) : Prop :=
  t.seconds = g.startOf n ∧ t.nanos = 0

variable {t u start stop : Instant}

theorem Starts.key_eq (h : g.Starts n t) : t.key = g.startOf n * 2000000000 := by
  rw [Instant.key, h.1, h.2, Nat.cast_zero, add_zero]

/-- The starts of buckets are in the order of the buckets. -/
theorem Starts.le_iff (ht : g.Starts n t) (hu : g.Starts m u) : t ≤ u ↔ n ≤ m := by
  have horder := (strictMono_startOf g).le_iff_le (a := n) (b := m)
  rw [Instant.le_iff, ht.key_eq, hu.key_eq]
  omega

theorem Starts.lt_iff (ht : g.Starts n t) (hu : g.Starts m u) : t < u ↔ n < m := by
  have horder := (strictMono_startOf g).lt_iff_lt (a := n) (b := m)
  rw [Instant.lt_iff, ht.key_eq, hu.key_eq]
  omega

/-- A bucket has one start. -/
theorem Starts.unique (ht : g.Starts n t) (hu : g.Starts n u) : t = u :=
  Instant.eq_of_key (ht.key_eq.trans hu.key_eq.symm)

/-- The start of a bucket is that of one bucket. -/
theorem Starts.number_unique (hm : g.Starts m t) (hn : g.Starts n t) : m = n :=
  (strictMono_startOf g).injective (hm.1.symm.trans hn.1)

/-- Between buckets of the calendar are buckets of the calendar. -/
theorem exists_starts {k : ℤ} (ht : g.Starts m t) (hu : g.Starts k u) (hfrom : m ≤ n)
    (hto : n ≤ k) : ∃ v, g.Starts n v := by
  have hfirst := t.first_le
  have hlast := u.le_last
  rw [ht.1] at hfirst
  rw [hu.1] at hlast
  have hmono := (strictMono_startOf g).monotone
  exact ⟨⟨g.startOf n, 0, hfirst.trans (hmono hfrom), (hmono hto).trans hlast, by omega,
    by omega⟩, rfl, rfl⟩

/-- **An instant is truncated to the start of its bucket.** -/
theorem starts_truncate (g : Granularity) (t : Instant) :
    g.Starts (g.numberOf t.seconds) (g.truncate t) := by
  cases g with
  | hour =>
      refine ⟨?_, rfl⟩
      simp only [truncate, Instant.hourStart, startOf, numberOf]
      omega
  | day => exact ⟨rfl, rfl⟩
  | month =>
      refine ⟨?_, rfl⟩
      simp only [truncate, Instant.midnight_seconds, Day.number_monthStart_eq]
      rfl

/-- Later instants have later buckets, or the same. -/
theorem numberOf_le (g : Granularity) (h : t ≤ u) :
    g.numberOf t.seconds ≤ g.numberOf u.seconds := by
  have hnanos := u.nanos_lt
  rw [Instant.le_iff, Instant.key, Instant.key] at h
  exact numberOf_mono g (by omega)

/-- A range spans the buckets from that of its start to that of its end. -/
theorem bucketCount_eq (g : Granularity) (start stop : Instant) :
    g.bucketCount start stop = g.numberOf stop.seconds - g.numberOf start.seconds + 1 := by
  have hstart := starts_truncate g start
  have hstop := starts_truncate g stop
  cases g with
  | hour =>
      simp only [bucketCount, hstart.1, hstop.1, startOf]
      omega
  | day =>
      simp only [bucketCount, truncate, Instant.day_midnight]
      rfl
  | month =>
      have hnumber (t : Instant) :
          monthIndex (month.truncate t).day = month.numberOf t.seconds := by
        have h := starts_truncate month t
        rw [← numberOf_startOf month (month.numberOf t.seconds), ← h.1]
        rfl
      simp only [bucketCount, hnumber]

/-! ## Steps -/

theorem starts_of_ofParts? {second : ℤ} (h : Instant.ofParts? second 0 = some t)
    (hs : second = g.startOf n) : g.Starts n t := by
  obtain ⟨hseconds, hnanos⟩ := Instant.ofParts?_eq_some_iff.mp h
  exact ⟨hseconds.trans hs, hnanos⟩

theorem add?_of_nanos_eq_zero (h : t.nanos = 0) (seconds : ℤ) :
    t.add? (seconds * Instant.second) = Instant.ofParts? (t.seconds + seconds) 0 := by
  have hleap : t.isLeap = false := by
    rw [Instant.isLeap, h]
    rfl
  have hdiv : ((0 : ℕ) + seconds * Instant.second) / Instant.second = seconds := by
    rw [Instant.second]
    omega
  have hmod : (((0 : ℕ) + seconds * Instant.second) % Instant.second).toNat = 0 := by
    rw [Instant.second]
    omega
  rw [Instant.add?, hleap, if_neg Bool.false_ne_true, Instant.ofSpan?, h, hdiv, hmod]

/-- What cannot be written as parts lies outside of the calendar. -/
theorem lt_of_ofParts?_eq_none {second : ℤ} (h : Instant.ofParts? second 0 = none)
    (hfirst : t.seconds ≤ second) : 8210266876799 < second := by
  by_contra hle
  have htwo := t.first_le
  rw [Instant.ofParts?, dif_pos ⟨by omega, by omega, by omega, by omega⟩] at h
  cases h

/-- From the first of a month, a month leads to the first of the next. -/
theorem addMonths?_of_starts (h : month.Starts n t) :
    t.addMonths? 1 = Instant.ofParts? (month.startOf (n + 1)) 0 := by
  have hday : t.day.number = firstOfMonth n := by
    have hseconds := h.1
    simp only [startOf] at hseconds
    simp only [Instant.day]
    omega
  have hclock : t.secondOfDay = 0 := by
    have hseconds := h.1
    simp only [startOf] at hseconds
    simp only [Instant.secondOfDay]
    omega
  have hfirst := firstOfMonth_add_le_succ n
  have hlow := t.day.first_le
  rw [Instant.addMonths?, Day.addMonths?_one hday, Day.ofNumber?, startOf, hclock, h.2]
  -- the calendar has the second exactly if it has the day
  split
  · next hin => rw [Option.bind_some, Nat.cast_zero, add_zero]
  · next hout =>
    rw [Option.bind_none, Instant.ofParts?, dif_neg]
    rintro ⟨-, hle, -⟩
    exact hout ⟨by omega, by omega⟩

/-- **A step leads to the start of the next bucket**, unless the calendar ends before. -/
theorem starts_step_or (h : g.Starts n t) :
    g.Starts (n + 1) (g.step t) ∨ g.step t = t ∧ ∀ m u, g.Starts m u → m ≤ n := by
  have hnext : ∃ next, g.step t = next.getD t ∧ next = Instant.ofParts? (g.startOf (n + 1)) 0 := by
    cases g with
    | hour =>
        refine ⟨_, rfl, ?_⟩
        rw [Instant.hour, add?_of_nanos_eq_zero h.2, h.1]
        congr 1
        simp only [startOf]
        omega
    | day =>
        refine ⟨_, rfl, ?_⟩
        rw [Instant.dayLength, add?_of_nanos_eq_zero h.2, h.1]
        congr 1
        simp only [startOf]
        omega
    | month => exact ⟨_, rfl, addMonths?_of_starts h⟩
  obtain ⟨next, hstep, hnext⟩ := hnext
  cases next with
  | some u =>
      rw [hstep, Option.getD_some]
      exact .inl (starts_of_ofParts? hnext.symm rfl)
  | none =>
      have hforward := strictMono_startOf g (Int.lt_succ n)
      rw [← h.1] at hforward
      have hout := lt_of_ofParts?_eq_none hnext.symm hforward.le
      refine .inr ⟨hstep, fun m u hu => not_lt.mp fun hlater => ?_⟩
      have hin := u.le_last
      have hle := (strictMono_startOf g).monotone (Int.add_one_le_of_lt hlater)
      rw [hu.1] at hin
      omega

end Granularity

/-! ## Starts in the store -/

namespace Timestamp

variable {t : Timestamp}

/-- **The store truncates a moment to the start of the bucket of its second.** -/
theorem micros_truncate (g : Granularity) (t : Timestamp) :
    (t.truncate g).micros = g.startOf (g.numberOf (t.micros / 1000000)) * 1000000 := by
  have hday : t.dayNumber = t.micros / 1000000 / 86400 := by
    simp only [dayNumber, dayMicros]
    omega
  cases g with
  | hour =>
      simp only [truncate, hourMicros, Granularity.startOf, Granularity.numberOf]
      omega
  | day =>
      simp only [truncate, dayMicros, Granularity.startOf, Granularity.numberOf, hday]
      omega
  | month =>
      simp only [truncate, dayMicros, Granularity.startOf, Granularity.numberOf, ← hday,
        firstOfMonth_monthOfDay]
      omega

/-- A bucket starts on the day of a moment that it holds, or before. -/
theorem dayNumber_truncate_le (g : Granularity) (t : Timestamp) :
    (t.truncate g).dayNumber ≤ t.dayNumber := by
  have hle := Granularity.startOf_numberOf_le g (t.micros / 1000000)
  simp only [dayNumber, dayMicros, micros_truncate]
  omega

/-- **The start that the store answers is the one that the calendar finds**, for every
moment of the years 0 to 9999. -/
theorem readBucket_truncate (g : Granularity) (h : t.FourDigit) :
    (t.truncate g).readBucket = .ok (g.truncate (t.toInstant h)) := by
  have hyear : (Civil.ofDayNumber (t.truncate g).dayNumber).year ≤ 9999 :=
    (yearOf_mono (dayNumber_truncate_le g t)).trans h.2
  have hstarts := Granularity.starts_truncate g (t.toInstant h)
  have hread : Instant.ofStoredText? (t.truncate g).bucketText =
      some (g.truncate (t.toInstant h)) := by
    rw [ofStoredText?_bucketText hyear, Instant.ofParts?_eq_some_iff, micros_truncate]
    refine ⟨?_, hstarts.2⟩
    rw [hstarts.1, Int.mul_ediv_cancel _ (by decide)]
    rfl
  unfold readBucket
  rw [hread]

/-- Moments lie in one bucket of the store if their instants lie in one of the calendar. -/
theorem truncate_eq_iff (g : Granularity) {u : Timestamp} (ht : t.FourDigit) (hu : u.FourDigit) :
    t.truncate g = u.truncate g ↔ g.truncate (t.toInstant ht) = g.truncate (u.toInstant hu) := by
  have htstarts : g.Starts (g.numberOf (t.micros / 1000000)) (g.truncate (t.toInstant ht)) :=
    g.starts_truncate _
  have hustarts : g.Starts (g.numberOf (u.micros / 1000000)) (g.truncate (u.toInstant hu)) :=
    g.starts_truncate _
  rw [eq_iff, micros_truncate, micros_truncate]
  constructor
  · intro h
    have hstart := Int.eq_of_mul_eq_mul_right (by decide) h
    rw [g.strictMono_startOf.injective hstart] at htstarts
    exact htstarts.unique hustarts
  · intro h
    rw [h] at htstarts
    rw [htstarts.number_unique hustarts]

end Timestamp

end Footfall
