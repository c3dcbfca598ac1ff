import Mathlib
import Footfall.Proofs.Calendar.Clock
import Footfall.Proofs.Rollup.Counts
import Footfall.Proofs.Stats.Split

/-!
# When passes are due

Every day has an instant at which a pass is due, the delay after its midnight.  The next
one is looked for among those of today and tomorrow.  That finds the earliest one if the
delay is shorter than a day, since the pass of every day is then due on the day itself.
A longer delay moves it to a later day: then the pass of yesterday may still be to come
when that of today is chosen, and from one pass to the next as many days are passed over
as the delay has whole ones.

## Main Definitions

* `DueAt` — the pass of a day is due at an instant
* `NextRunInCalendar` — the calendar has the instants that the next run is chosen from
* `runAfter?` — the run after the next one, and so on
* `stride` — the days from one run to the next
* `NextRun` — what the next run is

## Main Statements

* `exists_nextRun` — the next run is that of today, if it is still to come, or of tomorrow
* `nextRunAfter?_of_dueAt`, `runAfter?_eq` — from one run to the next, and to any later one
* `next_run_due` — the next run and all that follow, for every delay
* `runs_missed` — delays of more than a day miss runs
-/

namespace Footfall

open Instant (dayLength)

/-- The pass of a day is due at an instant, `delay` nanoseconds after the midnight of the day. -/
def DueAt (delay : ℕ) (d : Day) (t : Instant) : Prop :=
  (Instant.midnight d).add? delay = some t

instance (delay : ℕ) (d : Day) (t : Instant) : Decidable (DueAt delay d t) :=
  inferInstanceAs (Decidable (_ = _))

/-- The calendar has the instants that the next run is chosen from: the pass of today is due at
one, and so is that of tomorrow if the pass of today is not still to come. -/
def NextRunInCalendar (now : Instant) (delay : ℕ) : Prop :=
  ∃ today, DueAt delay now.day today ∧
    (today ≤ now → ∃ next tomorrow, now.day.next? = some next ∧ DueAt delay next tomorrow)

/-- The next run after `now`, the run after that one, and so on. -/
def runAfter? (now : Instant) (delay : ℕ) : ℕ → Option Instant
  | 0 => nextRunAfter? now delay
  | n + 1 => (runAfter? now delay n).bind (nextRunAfter? · delay)

/-- The days from one run to the next: as many as the delay has whole ones, but at least one. -/
def stride (delay : ℕ) : ℤ :=
  max 1 (delay / dayLength)

/-! ## The instants of the passes -/

section Due

variable {delay : ℕ} {d e : Day} {t u now : Instant}

theorem dueAt_iff :
    DueAt delay d t ↔ t.isLeap = false ∧ t.clock = d.number * dayLength + delay := by
  rw [DueAt, Instant.add?_eq_some_iff (Instant.isLeap_midnight d), Instant.clock_midnight]

theorem DueAt.unique (ht : DueAt delay d t) (hu : DueAt delay d u) : t = u :=
  Option.some.inj (ht.symm.trans hu)

/-- Passes are due in the order of their days. -/
theorem DueAt.lt_iff (ht : DueAt delay d t) (hu : DueAt delay e u) : t < u ↔ d < e := by
  obtain ⟨htregular, htclock⟩ := dueAt_iff.mp ht
  obtain ⟨huregular, huclock⟩ := dueAt_iff.mp hu
  rw [Instant.lt_iff_clock huregular, Instant.beforeLeap_of_regular htregular, htclock, huclock,
    Day.lt_iff]
  simp only [dayLength, Instant.second]
  omega

theorem DueAt.le_iff (ht : DueAt delay d t) (hu : DueAt delay e u) : t ≤ u ↔ d ≤ e := by
  have h := hu.lt_iff ht
  rw [Instant.lt_iff, Day.lt_iff] at h
  rw [Instant.le_iff, Day.le_iff]
  omega

/-- Between passes that are due at all, so is that of every day. -/
theorem exists_dueAt {f : Day} (ht : DueAt delay d t) (hu : DueAt delay f u) (hfrom : d ≤ e)
    (hto : e ≤ f) : ∃ v, DueAt delay e v := by
  obtain ⟨htregular, htclock⟩ := dueAt_iff.mp ht
  obtain ⟨huregular, huclock⟩ := dueAt_iff.mp hu
  obtain ⟨hfirst, -⟩ := Instant.clock_bounds htregular
  obtain ⟨-, hlast⟩ := Instant.clock_bounds huregular
  rw [Day.le_iff] at hfrom hto
  refine Option.isSome_iff_exists.mp ?_
  rw [Instant.isSome_add?_iff (Instant.isLeap_midnight e), Instant.clock_midnight]
  simp only [dayLength, Instant.second] at htclock huclock hfirst hlast ⊢
  omega

/-- No pass is due after a delay that is as long as the calendar. -/
theorem DueAt.delay_le (h : DueAt delay d t) : delay ≤ maxDelay := by
  obtain ⟨hregular, hclock⟩ := dueAt_iff.mp h
  obtain ⟨-, hlast⟩ := Instant.clock_bounds hregular
  have hfirst := d.first_le
  simp only [dayLength, Instant.second] at hclock hlast
  rw [maxDelay]
  omega

/-- A pass is due as many days after its own as the delay has whole ones. -/
theorem DueAt.day_eq (h : DueAt delay d t) : t.day.number = d.number + delay / dayLength := by
  obtain ⟨hregular, hclock⟩ := dueAt_iff.mp h
  have hnanos := Instant.nanos_lt_of_regular hregular
  simp only [Instant.clock, dayLength, Instant.second] at hclock
  simp only [Instant.day, dayLength, Instant.second]
  omega

theorem DueAt.midnight_le (h : DueAt delay d t) : .midnight d ≤ t := by
  obtain ⟨hregular, hclock⟩ := dueAt_iff.mp h
  rw [Instant.le_iff_clock (Instant.isLeap_midnight d), Instant.beforeLeap_of_regular hregular,
    hclock, Instant.clock_midnight]
  omega

/-- A pass whose delay is shorter than a day is due before the next midnight. -/
theorem DueAt.le_of_day_lt (h : DueAt delay d t) (short : (delay : ℤ) < dayLength)
    (hlt : d < now.day) : t ≤ now := by
  have hday := h.day_eq
  have hzero : (delay : ℤ) / dayLength = 0 := Int.ediv_eq_zero_of_lt (by omega) short
  have hbefore : t < .midnight now.day := by
    rw [Instant.lt_midnight_iff, Day.lt_iff]
    rw [Day.lt_iff] at hlt
    omega
  exact Int.le_of_lt (Int.lt_of_lt_of_le hbefore (Instant.midnight_day_le now))

end Due

/-! ## The next run -/

section Next

variable {delay : ℕ} {d e : Day} {t u now : Instant}

theorem nextRunAfter?_of_today (h : DueAt delay now.day t) (hlt : now < t) :
    nextRunAfter? now delay = some t := by
  have hadd : (Instant.midnight now.day).add? delay = some t := h
  simp only [nextRunAfter?, if_pos h.delay_le, hadd, Option.bind_eq_bind, Option.bind_some,
    if_pos hlt]

theorem nextRunAfter?_of_tomorrow (h : DueAt delay now.day t) (hle : t ≤ now)
    (hnext : now.day.next? = some e) (hu : DueAt delay e u) :
    nextRunAfter? now delay = some u := by
  have hadd : (Instant.midnight now.day).add? delay = some t := h
  have hpast : ¬ now < t := Int.not_lt.mpr hle
  simp only [nextRunAfter?, if_pos h.delay_le, hadd, Option.bind_eq_bind, Option.bind_some,
    if_neg hpast, hnext]
  exact hu

/-- **The next run is that of today, if it is still to come, or else that of tomorrow.** -/
theorem exists_nextRun (h : NextRunInCalendar now delay) :
    ∃ d t, nextRunAfter? now delay = some t ∧ DueAt delay d t ∧ now < t ∧ now.day ≤ d ∧
      ∀ e u, now.day ≤ e → DueAt delay e u → now < u → d ≤ e := by
  obtain ⟨today, htoday, hlater⟩ := h
  rcases Int.lt_or_le now.key today.key with hlt | hle
  · exact ⟨now.day, today, nextRunAfter?_of_today htoday hlt, htoday, hlt, Int.le_refl _,
      fun e _ he _ _ => he⟩
  · obtain ⟨next, tomorrow, hnext, hdue⟩ := hlater hle
    have hnumber := Day.number_of_next? hnext
    refine ⟨next, tomorrow, nextRunAfter?_of_tomorrow htoday hle hnext hdue, hdue, ?_, ?_, ?_⟩
    · have hbefore : now < .midnight next := by
        rw [Instant.lt_midnight_iff, Day.lt_iff]
        omega
      exact Int.lt_of_lt_of_le hbefore hdue.midnight_le
    · rw [Day.le_iff]
      omega
    · intro e u he hu hlt
      have hafter := (htoday.lt_iff hu).mp (Int.lt_of_le_of_lt hle hlt)
      rw [Day.lt_iff] at hafter
      rw [Day.le_iff]
      omega

/-- A run that is earliest among those of today and later days is the earliest of all, unless that
of yesterday is still to come. -/
theorem earliest_iff (ht : DueAt delay d t) (htoday : now.day ≤ d)
    (h : ∀ e u, now.day ≤ e → DueAt delay e u → now < u → t ≤ u) :
    (∀ e u, DueAt delay e u → now < u → t ≤ u) ↔
      ∀ yesterday u, now.day.pred? = some yesterday → DueAt delay yesterday u → u ≤ now := by
  constructor
  · intro hearliest yesterday u hpred hu
    have hnumber := Day.number_of_pred? hpred
    by_contra hlate
    have hle := (ht.le_iff hu).mp (hearliest yesterday u hu (Int.not_le.mp hlate))
    rw [Day.le_iff] at hle htoday
    omega
  · intro hpast e u hu hlt
    by_cases he : now.day ≤ e
    · exact h e u he hu hlt
    · -- were a run of an earlier day to come, so would be that of yesterday
      rw [Day.le_iff] at he
      obtain ⟨yesterday, hyesterday⟩ := exists_pred_of_lt (Day.lt_iff.mpr (Int.not_le.mp he))
      have hpred : now.day.pred? = some yesterday :=
        Day.ofNumber?_eq_some_iff.mpr (by omega)
      have hle : e ≤ yesterday := by
        rw [Day.le_iff]
        omega
      have hbefore : yesterday ≤ d := by
        rw [Day.le_iff] at htoday ⊢
        omega
      obtain ⟨v, hv⟩ := exists_dueAt hu ht hle hbefore
      have huv := (hu.le_iff hv).mpr hle
      have hvnow := hpast yesterday v hpred hv
      exact absurd (Int.lt_of_lt_of_le hlt (Int.le_trans huv hvnow)) (Int.lt_irrefl _)

end Next

/-! ## The runs that follow -/

section Following

variable {delay : ℕ} {d e : Day} {t u now : Instant}

theorem one_le_stride (delay : ℕ) : 1 ≤ stride delay :=
  le_max_left _ _

/-- Runs follow one another day by day if the delay is shorter than two days. -/
theorem stride_eq_one_iff : stride delay = 1 ↔ (delay : ℤ) < 2 * dayLength := by
  simp only [stride, dayLength, Instant.second]
  omega

/-- **From one run to the next** it is a stride. -/
theorem nextRunAfter?_of_dueAt (ht : DueAt delay d t) (hu : DueAt delay e u)
    (h : e.number = d.number + stride delay) : nextRunAfter? t delay = some u := by
  have hday := ht.day_eq
  rcases Int.lt_or_le (delay / dayLength) 1 with hshort | hlong
  · -- the pass of `d` is due on `d`, and has just been
    have hzero : (delay : ℤ) / dayLength = 0 := by
      have hnonneg : 0 ≤ (delay : ℤ) / dayLength := Int.ediv_nonneg (by omega) (by decide)
      omega
    have hstride : stride delay = 1 := max_eq_left (by omega)
    have hsame : t.day = d := Day.eq_of_number (by omega)
    refine nextRunAfter?_of_tomorrow (t := t) ?_ (Int.le_refl _) ?_ hu
    · rw [hsame]
      exact ht
    · exact Day.ofNumber?_eq_some_iff.mpr (by omega)
  · -- the pass of `d` is due when that of the day itself is still to come
    have hstride : stride delay = delay / dayLength := max_eq_right hlong
    have hsame : t.day = e := Day.eq_of_number (by omega)
    refine nextRunAfter?_of_today ?_ ?_
    · rw [hsame]
      exact hu
    · rw [ht.lt_iff hu, Day.lt_iff]
      omega

/-- **Any later run**, if the calendar has it, is due as many strides after the next one. -/
theorem runAfter?_eq (hnext : nextRunAfter? now delay = some t) (ht : DueAt delay d t) (n : ℕ)
    (hu : DueAt delay e u) (h : e.number = d.number + n * stride delay) :
    runAfter? now delay n = some u := by
  induction n generalizing e u with
  | zero =>
      have hsame : e = d := Day.eq_of_number (by omega)
      rw [hsame] at hu
      rw [runAfter?, hnext, ht.unique hu]
  | succ n ih =>
      have hstride := one_le_stride delay
      have hfirst := d.first_le
      have hlast := e.le_last
      have hforward : 0 ≤ n * stride delay := Int.mul_nonneg (by omega) (by omega)
      have hsucc : e.number = d.number + n * stride delay + stride delay := by
        rw [h, Nat.cast_succ, add_mul, one_mul, add_assoc]
      -- the run before is one of the calendar, too
      have hfrom : d ≤ ⟨d.number + n * stride delay, by omega, by omega⟩ :=
        Day.le_iff.mpr (by simp only; omega)
      have hto : (⟨d.number + n * stride delay, by omega, by omega⟩ : Day) ≤ e :=
        Day.le_iff.mpr (by simp only; omega)
      obtain ⟨v, hv⟩ := exists_dueAt ht hu hfrom hto
      rw [runAfter?, ih hv rfl, Option.bind_some]
      exact nextRunAfter?_of_dueAt hv hu hsucc

theorem clock_of_strides (ht : DueAt delay d t) (hu : DueAt delay e u) {n : ℕ}
    (h : e.number = d.number + n * stride delay) :
    u.clock = t.clock + n * (stride delay * dayLength) := by
  rw [(dueAt_iff.mp hu).2, (dueAt_iff.mp ht).2, h, add_mul, mul_assoc]
  omega

end Following

/-- **The next run**, the pass of `d` at `t`, and those that follow. -/
structure NextRun (now : Instant) (delay : ℕ) (d : Day) (t : Instant) : Prop where
  /-- The pass of the day is due then. -/
  due : DueAt delay d t
  /-- It is still to come. -/
  later : now < t
  /-- It is of today or a later day. -/
  from_today : now.day ≤ d
  /-- Of these it is the first one to come. -/
  first_from_today : ∀ e u, now.day ≤ e → DueAt delay e u → now < u → t ≤ u
  /-- It is the first one of all to come if the delay is shorter than a day. -/
  first_of_short : (delay : ℤ) < dayLength → ∀ e u, DueAt delay e u → now < u → t ≤ u
  /-- With any delay it is, unless the pass of yesterday is still to come. -/
  first_iff : (∀ e u, DueAt delay e u → now < u → t ≤ u) ↔
    ∀ yesterday u, now.day.pred? = some yesterday → DueAt delay yesterday u → u ≤ now
  /-- The runs that follow are the passes of every so many days, at the same time of day. -/
  following : ∀ (n : ℕ) (e : Day) (u : Instant), e.number = d.number + n * stride delay →
    DueAt delay e u →
      runAfter? now delay n = some u ∧ u.clock = t.clock + n * (stride delay * dayLength)
  /-- They are those of consecutive days, a day apart, if the delay is shorter than two days, and
  then only. -/
  consecutive : stride delay = 1 ↔ (delay : ℤ) < 2 * dayLength

/-- **The next run and all that follow**, as long as the calendar has them. -/
theorem next_run_due (now : Instant) (delay : ℕ) (h : NextRunInCalendar now delay) :
    ∃ d t, nextRunAfter? now delay = some t ∧ NextRun now delay d t := by
  obtain ⟨d, t, hnext, hdue, hlater, htoday, hfirst⟩ := exists_nextRun h
  have hle : ∀ e u, now.day ≤ e → DueAt delay e u → now < u → t ≤ u :=
    fun e u he hu hlt => (hdue.le_iff hu).mpr (hfirst e u he hu hlt)
  have hiff := earliest_iff hdue htoday hle
  refine ⟨d, t, hnext, hdue, hlater, htoday, hle, fun short => ?_, hiff, fun n e u he hu => ?_,
    stride_eq_one_iff⟩
  · refine hiff.mpr fun yesterday u hpred hu => hu.le_of_day_lt short ?_
    rw [Day.lt_iff, Day.number_of_pred? hpred]
    omega
  · exact ⟨runAfter?_eq hnext hdue n hu he, clock_of_strides hdue hu he⟩

/-- With a delay of one day, the pass of each day is due at the next midnight, and none is
missed. -/
theorem next_run_of_dayLong :
    NextRunInCalendar (.midnight (sampleDay 5)) 86400000000000 ∧
      ∃ d, NextRun (.midnight (sampleDay 5)) 86400000000000 d (.midnight (sampleDay 6)) ∧
        runAfter? (.midnight (sampleDay 5)) 86400000000000 3 = some (.midnight (sampleDay 9)) := by
  have hcalendar : NextRunInCalendar (.midnight (sampleDay 5)) 86400000000000 :=
    ⟨.midnight (sampleDay 6), by decide, fun h => absurd h (by decide)⟩
  have hrun : nextRunAfter? (.midnight (sampleDay 5)) 86400000000000 =
      some (.midnight (sampleDay 6)) := by decide
  obtain ⟨d, t, hnext, h⟩ := next_run_due (.midnight (sampleDay 5)) 86400000000000 hcalendar
  obtain rfl := Option.some.inj (hrun.symm.trans hnext)
  exact ⟨hcalendar, d, h, by decide⟩

/-- **With a delay of two days, every other run is missed**: that of one day is due between the
run of the day before and the next one, but the next one is that of the day after. -/
theorem runs_missed :
    NextRunInCalendar (.midnight (sampleDay 5)) 172800000000000 ∧
      DueAt 172800000000000 (sampleDay 3) (.midnight (sampleDay 5)) ∧
      DueAt 172800000000000 (sampleDay 4) (.midnight (sampleDay 6)) ∧
      Instant.midnight (sampleDay 5) < .midnight (sampleDay 6) ∧
      Instant.midnight (sampleDay 6) < .midnight (sampleDay 7) ∧
      nextRunAfter? (.midnight (sampleDay 5)) 172800000000000 =
        some (.midnight (sampleDay 7)) :=
  ⟨⟨.midnight (sampleDay 7), by decide, fun h => absurd h (by decide)⟩, by decide, by decide,
    by decide, by decide, by decide⟩

end Footfall
