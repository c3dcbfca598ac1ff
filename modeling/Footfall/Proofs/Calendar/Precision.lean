import Mathlib
import Footfall.Proofs.Calendar.TextOrder

/-!
# Instants at the precision of the store

The store keeps whole microseconds.  On the way there and back an instant takes on four
forms: the text with six places in which it is handed over, the moment that the store
makes of it, the text in which the store answers the moment, and the instant that is read
off this text.  Between them an instant of the years 0 to 9999 is rounded down once, to
the microsecond, towards the past also before 1970, and nothing else happens to it.

Rounding down is told by the order alone: of all instants to the microsecond it is the
last one that is not later.  So it keeps the order, and what lies between two bounds lies
between them in the store.

## Main Definitions

* `Instant.FourDigit` — an instant of the years 0 to 9999 that is no leap second
* `Instant.Exact`, `Instant.cut` — whole microseconds, and an instant cut to them
* `Instant.RoundsDownTo` — the last instant to the microsecond that is not later
* `Instant.readBack`, `Instant.readBackStart` — through the store, with or without places

## Main Statements

* `Instant.le_cut_iff` — which exact instants are not later than a cut one
* `Instant.readBack_of_fourDigit` — what is read back
* `Instant.instants_survive_texts` — instants and their order survive the texts
-/

namespace Footfall

namespace Instant

variable {t u : Instant}

/-- The instant lies in the years 0 to 9999 and in no leap second. -/
structure FourDigit (t : Instant) : Prop where
  /-- The store can keep it. -/
  storable : t.Storable
  /-- Its year is not negative. -/
  year_nonneg : 0 ≤ t.day.civil.year

instance (t : Instant) : Decidable t.FourDigit :=
  decidable_of_iff (t.Storable ∧ 0 ≤ t.day.civil.year)
    ⟨fun h => ⟨h.1, h.2⟩, fun h => ⟨h.1, h.2⟩⟩

theorem FourDigit.toTimestamp (h : t.FourDigit) : t.toTimestamp.FourDigit :=
  fourDigit_toTimestamp h.storable h.year_nonneg

/-! ## Whole microseconds -/

/-- An instant to the microsecond, and no leap second. -/
def Exact (t : Instant) : Prop :=
  t.isLeap = false ∧ t.nanos % 1000 = 0

instance (t : Instant) : Decidable t.Exact :=
  inferInstanceAs (Decidable (_ ∧ _))

/-- The instant cut to whole microseconds. -/
def cut (t : Instant) : Instant where
  seconds := t.seconds
  nanos := t.nanos / 1000 * 1000
  first_le := t.first_le
  le_last := t.le_last
  nanos_lt := by have := t.nanos_lt; omega
  leap_at_59 := by have := t.leap_at_59; omega

theorem cut_mono (h : t ≤ u) : t.cut ≤ u.cut := by
  have ht := t.nanos_lt
  have hu := u.nanos_lt
  simp only [le_iff, key, cut] at h ⊢
  omega

/-- The store keeps the order of cut instants. -/
theorem cut_le_cut_iff (ht : t.Storable) (hu : u.Storable) :
    t.cut ≤ u.cut ↔ t.toTimestamp ≤ u.toTimestamp := by
  have hnt := ht.nanos_lt
  have hnu := hu.nanos_lt
  simp only [le_iff, key, cut, Timestamp.le_iff, toTimestamp]
  omega

theorem day_le_of_cut_le (h : t.cut ≤ u.cut) : t.day ≤ u.day := by
  have ht := t.nanos_lt
  have hu := u.nanos_lt
  simp only [le_iff, key, cut] at h
  simp only [Day.le_iff, day]
  omega

/-- No midnight lies between an instant and the cut one. -/
theorem midnight_le_of_le_cut {d : Day} (h : (midnight d).cut ≤ t.cut) : midnight d ≤ t := by
  simp only [le_iff, key, cut, midnight_seconds, midnight_nanos] at h ⊢
  omega

/-- **An exact instant is not later than a cut one** if it is not later than the instant itself. -/
theorem le_cut_iff (hu : u.Exact) : u ≤ t.cut ↔ u ≤ t := by
  have hplaces := hu.2
  have hnu := u.nanos_lt
  have hnt := t.nanos_lt
  simp only [le_iff, key, cut]
  omega

theorem exact_cut (regular : t.isLeap = false) : t.cut.Exact := by
  have hnanos := nanos_lt_of_regular regular
  refine ⟨?_, Nat.mul_mod_left _ _⟩
  rw [isLeap, decide_eq_false_iff_not]
  show ¬ 1000000000 ≤ t.nanos / 1000 * 1000
  omega

/-! ## Rounding down -/

/-- **An instant is rounded down to another one**, the last one to the microsecond that is not
later. -/
structure RoundsDownTo (t u : Instant) : Prop where
  /-- It is one to the microsecond. -/
  exact : u.Exact
  /-- It is not later. -/
  le : u ≤ t
  /-- It is the last one. -/
  last : ∀ v : Instant, v.Exact → v ≤ t → v ≤ u

theorem roundsDownTo_cut (regular : t.isLeap = false) : t.RoundsDownTo t.cut where
  exact := exact_cut regular
  le := (le_cut_iff (exact_cut regular)).mp (Int.le_refl _)
  last _ hv hle := (le_cut_iff hv).mpr hle

theorem RoundsDownTo.unique {v : Instant} (hu : t.RoundsDownTo u) (hv : t.RoundsDownTo v) :
    u = v :=
  le_antisymm (hv.last u hu.exact hu.le) (hu.last v hv.exact hv.le)

/-! ## There and back -/

/-- An instant is told to the store and read back with its six places. -/
def readBack (t : Instant) : Except StoreFault Instant := do
  let moment ← t.stored
  moment.readExact

/-- An instant is told to the store and read back to the second, as the start of a bucket is. -/
def readBackStart (t : Instant) : Except StoreFault Instant := do
  let moment ← t.stored
  moment.readBucket

/-- The instant of the moment that an instant is stored as. -/
theorem toInstant_toTimestamp (h : t.FourDigit) :
    t.toTimestamp.toInstant h.toTimestamp = t.cut := by
  have hnanos := h.storable.nanos_lt
  apply eq_of_key
  simp only [key, Timestamp.toInstant, toTimestamp, cut]
  omega

/-- **What is read back is the instant cut to whole microseconds.** -/
theorem readBack_of_fourDigit (h : t.FourDigit) : t.readBack = .ok t.cut := by
  rw [readBack, stored_of_storable h.storable, ok_bind,
    Timestamp.readExact_of_fourDigit h.toTimestamp, toInstant_toTimestamp h]

/-- A stored instant lies in its own second. -/
theorem second_toTimestamp (h : t.Storable) : t.toTimestamp.micros / 1000000 = t.seconds := by
  have hnanos := h.nanos_lt
  simp only [toTimestamp]
  omega

/-- **A whole second is read back as it is**, even without its places. -/
theorem readBackStart_of_whole (h : t.FourDigit) (whole : t.nanos = 0) :
    t.readBackStart = .ok t := by
  have hread : Instant.ofStoredText? t.toTimestamp.bucketText = some t := by
    rw [Timestamp.ofStoredText?_bucketText h.toTimestamp.2, ofParts?_eq_some_iff]
    exact ⟨(second_toTimestamp h.storable).symm, whole⟩
  rw [readBackStart, stored_of_storable h.storable, ok_bind]
  unfold Timestamp.readBucket
  rw [hread]

/-- The texts of whole seconds are in the order of the instants. -/
theorem bucketText_lt_iff_of_whole (ht : t.FourDigit) (hu : u.FourDigit) (htwhole : t.nanos = 0)
    (huwhole : u.nanos = 0) : t.toTimestamp.bucketText < u.toTimestamp.bucketText ↔ t < u := by
  rw [Timestamp.bucketText_lt_iff ht.toTimestamp hu.toTimestamp, second_toTimestamp ht.storable,
    second_toTimestamp hu.storable]
  simp only [lt_iff, key, htwhole, huwhole]
  omega

/-- What lies between two bounds lies between them in the store. -/
theorem within_of_le {start stop : Instant} (hstart : start.FourDigit) (ht : t.FourDigit)
    (hfrom : start ≤ t) (hto : t ≤ stop) :
    t.toTimestamp.within start.toTimestamp stop.toTimestamp = true := by
  rw [Timestamp.within, Bool.and_eq_true, decide_eq_true_eq, decide_eq_true_eq]
  exact ⟨toTimestamp_le hstart.storable.1 hfrom, toTimestamp_le ht.storable.1 hto⟩

/-- **Instants of the years 0 to 9999 survive the texts** between the calendar and the store.  An
instant is read back rounded down to the microsecond, later ones no earlier.  It is selected by
the bounds that it lies between.  Whole seconds are read back from the texts of buckets as they
are, and these texts are in the order of the instants. -/
theorem instants_survive_texts {start t stop : Instant} (hstart : start.FourDigit)
    (ht : t.FourDigit) (hstop : stop.FourDigit) :
    (∃ u, t.readBack = .ok u ∧ t.RoundsDownTo u) ∧
      (t ≤ stop → ∃ u v, t.readBack = .ok u ∧ stop.readBack = .ok v ∧ u ≤ v) ∧
      (start ≤ t → t ≤ stop → ∃ first u last, start.stored = .ok first ∧ t.stored = .ok u ∧
        stop.stored = .ok last ∧ u.within first last = true) ∧
      (t.nanos = 0 → t.readBackStart = .ok t) ∧
      (t.nanos = 0 → stop.nanos = 0 → ∃ u v, t.stored = .ok u ∧ stop.stored = .ok v ∧
        (u.bucketText < v.bucketText ↔ t < stop)) := by
  have hstored := stored_of_storable ht.storable
  have hlast := stored_of_storable hstop.storable
  refine ⟨⟨_, readBack_of_fourDigit ht, roundsDownTo_cut ht.storable.1⟩, ?_, ?_,
    readBackStart_of_whole ht, ?_⟩
  · intro hle
    exact ⟨_, _, readBack_of_fourDigit ht, readBack_of_fourDigit hstop, cut_mono hle⟩
  · intro hfrom hto
    exact ⟨_, _, _, stored_of_storable hstart.storable, hstored, hlast,
      within_of_le hstart ht hfrom hto⟩
  · intro htwhole hstopwhole
    exact ⟨_, _, hstored, hlast, bucketText_lt_iff_of_whole ht hstop htwhole hstopwhole⟩

/-- The first instant of the year 0. -/
def yearZero : Instant :=
  midnight ⟨-719528, by decide, by decide⟩

/-- The last nanosecond before 1970. -/
def beforeEpoch : Instant :=
  (ofParts? (-1) 999999999).get (by decide)

/-- The last microsecond of the year 9999. -/
def endOfYears : Instant :=
  endOfDay ⟨2932896, by decide, by decide⟩

/-- Before 1970 as well an instant is rounded towards the past, and not towards 1970. -/
theorem beforeEpoch_survives :
    yearZero.FourDigit ∧ beforeEpoch.FourDigit ∧ endOfYears.FourDigit ∧
      (∃ u, beforeEpoch.readBack = .ok u ∧ u.seconds = -1 ∧ u.nanos = 999999000) ∧
      ∃ first u last, yearZero.stored = .ok first ∧ beforeEpoch.stored = .ok u ∧
        endOfYears.stored = .ok last ∧ u.within first last = true := by
  have hfirst : yearZero.FourDigit := by decide
  have hbefore : beforeEpoch.FourDigit := by decide
  have hlast : endOfYears.FourDigit := by decide
  obtain ⟨⟨u, hread, hrounds⟩, -, hwithin, -⟩ := instants_survive_texts hfirst hbefore hlast
  obtain rfl := hrounds.unique (roundsDownTo_cut hbefore.storable.1)
  exact ⟨hfirst, hbefore, hlast, ⟨_, hread, rfl, rfl⟩, hwithin (by decide) (by decide)⟩

end Instant

end Footfall
