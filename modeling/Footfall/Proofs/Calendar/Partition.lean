import Mathlib
import Footfall.Proofs.Calendar.Grid

/-!
# Granularities as partitions of time

Where buckets start is told by the clock face and the date alone: an hour starts on the
hour, a day at midnight, and a month at the midnight of its first day.  `truncate` answers
the latest of these starts that is not later than an instant, so a start has come by an
instant exactly if it has come by the truncated one.  All that truncation does follows
from this one property, and none of it needs the length of a bucket: that it is idempotent
and monotone, that it tells apart just the instants between which a bucket starts, and
that a coarse granularity truncates alike before and after a finer one.

Leap seconds need no case of their own.  They come after the second that they are written
as and before the next one, and no bucket starts within them.

## Main Definitions

* `Granularity.IsStart` — the instant is the start of a bucket
* `Instant.Separates` — an instant comes between two others, or with the later of them
* `Granularity.Refines` — the buckets of one granularity make up those of another
* `Granularity.Partitions` — truncation and steps describe one partition of time

## Main Statements

* `Granularity.le_truncate_iff` — which starts have come by a truncated instant
* `Granularity.step_cases` — a step leads to the next start, or there is none
* `Granularity.Refines.truncate_truncate` — truncation after a finer one
* `Granularity.truncation_partitions_time` — so it is for hours, days and months
-/

namespace Footfall

variable {t u : Instant}

/-- The instant comes between two others, or with the later of them. -/
def Instant.Separates (b t u : Instant) : Prop :=
  t < b ∧ b ≤ u ∨ u < b ∧ b ≤ t

theorem Instant.not_separates_iff {b : Instant} : ¬ b.Separates t u ↔ (b ≤ t ↔ b ≤ u) := by
  rw [Separates, lt_iff, lt_iff, le_iff, le_iff]
  omega

namespace Granularity

variable {g fine coarse : Granularity} {b c : Instant}

/-! ## Starts by the clock and the date -/

/-- The instant is the start of a bucket: an hour starts on the hour, a day at midnight, and a
month at the midnight of its first day. -/
def IsStart (g : Granularity) (b : Instant) : Prop :=
  match g with
  | hour => b.nanos = 0 ∧ b.secondOfDay % 3600 = 0
  | day => b.nanos = 0 ∧ b.secondOfDay = 0
  | month => b.nanos = 0 ∧ b.secondOfDay = 0 ∧ b.day.civil.day = 1

instance (g : Granularity) (b : Instant) : Decidable (g.IsStart b) :=
  match g with
  | hour => inferInstanceAs (Decidable (b.nanos = 0 ∧ b.secondOfDay % 3600 = 0))
  | day => inferInstanceAs (Decidable (b.nanos = 0 ∧ b.secondOfDay = 0))
  | month => inferInstanceAs (Decidable (b.nanos = 0 ∧ b.secondOfDay = 0 ∧ b.day.civil.day = 1))

/-- A start is the start of the bucket that its own second lies in. -/
theorem isStart_iff_starts : g.IsStart b ↔ g.Starts (g.numberOf b.seconds) b := by
  rw [Starts, and_comm]
  cases g with
  | hour =>
      refine and_congr_right fun _ => ?_
      simp only [startOf, numberOf, Instant.secondOfDay]
      omega
  | day =>
      refine and_congr_right fun _ => ?_
      simp only [startOf, numberOf, Instant.secondOfDay]
      omega
  | month =>
      refine and_congr_right fun _ => ?_
      have hpos : 1 ≤ b.day.civil.day := (Civil.valid_ofDayNumber b.day.number).2.2.1
      -- the month starts as many days before as the date counts from its first
      have hfirst : firstOfMonth (monthOfDay (b.seconds / 86400)) =
          b.seconds / 86400 - (b.day.civil.day - 1 : ℕ) := firstOfMonth_monthOfDay b.day.number
      simp only [startOf, numberOf, hfirst, Instant.secondOfDay]
      omega

theorem isStart_of_starts {n : ℤ} (h : g.Starts n b) : g.IsStart b := by
  rw [isStart_iff_starts, h.1, numberOf_startOf]
  exact h

theorem isStart_truncate (g : Granularity) (t : Instant) : g.IsStart (g.truncate t) :=
  isStart_of_starts (starts_truncate g t)

/-! ## Truncation -/

/-- **A start has come by an instant** exactly if it has come by the truncated instant. -/
theorem le_truncate_iff (hb : g.IsStart b) : b ≤ g.truncate t ↔ b ≤ t := by
  have hstarts := isStart_iff_starts.mp hb
  have hnanos := t.nanos_lt
  rw [hstarts.le_iff (starts_truncate g t), ← startOf_le_iff, Instant.le_iff, hstarts.key_eq,
    Instant.key]
  omega

theorem truncate_le (g : Granularity) (t : Instant) : g.truncate t ≤ t :=
  (le_truncate_iff (isStart_truncate g t)).mp (Int.le_refl _)

/-- Later instants are truncated to later starts, or to the same. -/
theorem truncate_mono (g : Granularity) (h : t ≤ u) : g.truncate t ≤ g.truncate u :=
  (le_truncate_iff (isStart_truncate g t)).mpr (Int.le_trans (truncate_le g t) h)

/-- The starts are what truncation leaves as it is. -/
theorem truncate_eq_self_iff : g.truncate b = b ↔ g.IsStart b := by
  constructor
  · intro h
    rw [← h]
    exact isStart_truncate g b
  · intro hb
    exact Instant.le_antisymm (truncate_le g b) ((le_truncate_iff hb).mpr (Int.le_refl _))

/-- **Instants are truncated alike** exactly if the same starts have come by both. -/
theorem truncate_eq_truncate_iff :
    g.truncate t = g.truncate u ↔ ∀ b, g.IsStart b → (b ≤ t ↔ b ≤ u) := by
  constructor
  · intro h b hb
    rw [← le_truncate_iff hb, h, le_truncate_iff hb]
  · intro h
    apply Instant.le_antisymm
    · have ht := isStart_truncate g t
      exact (le_truncate_iff ht).mpr ((h _ ht).mp (truncate_le g t))
    · have hu := isStart_truncate g u
      exact (le_truncate_iff hu).mpr ((h _ hu).mpr (truncate_le g u))

/-! ## Coarse and fine buckets -/

/-- Every start of a coarse bucket is one of a fine bucket. -/
def Refines (fine coarse : Granularity) : Prop :=
  ∀ b, coarse.IsStart b → fine.IsStart b

theorem hour_refines_day : Refines hour day := by
  rintro b ⟨hnanos, hclock⟩
  exact ⟨hnanos, by rw [hclock]⟩

theorem day_refines_month : Refines day month := by
  rintro b ⟨hnanos, hclock, -⟩
  exact ⟨hnanos, hclock⟩

theorem hour_refines_month : Refines hour month :=
  fun b hb => hour_refines_day b (day_refines_month b hb)

/-- **A fine truncation before a coarse one makes no difference.** -/
theorem Refines.truncate_truncate (h : fine.Refines coarse) (t : Instant) :
    coarse.truncate (fine.truncate t) = coarse.truncate t :=
  truncate_eq_truncate_iff.mpr fun b hb => le_truncate_iff (h b hb)

/-! ## Steps -/

/-- A start is the next one after another. -/
structure NextStart (g : Granularity) (b next : Instant) : Prop where
  /-- It is a start. -/
  isStart : g.IsStart next
  /-- It comes later. -/
  lt : b < next
  /-- No bucket starts in between. -/
  none_between : ∀ c, g.IsStart c → ¬ (b < c ∧ c < next)

/-- **A step leads to the next start**, or it stays at the last one. -/
theorem step_cases (hb : g.IsStart b) :
    g.NextStart b (g.step b) ∨ g.step b = b ∧ ∀ c, g.IsStart c → c ≤ b := by
  have hstarts := isStart_iff_starts.mp hb
  rcases starts_step_or hstarts with hnext | ⟨hstays, hlast⟩
  · refine .inl ⟨isStart_of_starts hnext, (hstarts.lt_iff hnext).mpr (Int.lt_succ _), ?_⟩
    rintro c hc ⟨hafter, hbefore⟩
    -- between the numbers of a bucket and of the next one there is no number
    have hcstarts := isStart_iff_starts.mp hc
    rw [hstarts.lt_iff hcstarts] at hafter
    rw [hcstarts.lt_iff hnext] at hbefore
    omega
  · refine .inr ⟨hstays, fun c hc => ?_⟩
    have hcstarts := isStart_iff_starts.mp hc
    rw [hcstarts.le_iff hstarts]
    exact hlast _ _ hcstarts

/-- An instant comes before every start that is later than its truncation. -/
theorem lt_of_truncate_lt (hb : g.IsStart b) (h : g.truncate t < b) : t < b := by
  apply Int.not_le.mp
  intro hle
  exact Int.not_le.mpr h ((le_truncate_iff hb).mpr hle)

/-! ## One partition -/

/-- **Truncation and steps describe one partition of time.** -/
structure Partitions (g : Granularity) : Prop where
  /-- What truncation leaves as it is are the starts of buckets. -/
  fixed_iff : ∀ b, g.truncate b = b ↔ g.IsStart b
  /-- It leads back in time, or nowhere. -/
  truncate_le : ∀ t, g.truncate t ≤ t
  /-- It is idempotent. -/
  idempotent : ∀ t, g.truncate (g.truncate t) = g.truncate t
  /-- It is monotone. -/
  monotone : ∀ t u, t ≤ u → g.truncate t ≤ g.truncate u
  /-- A step that moves leads past the instant, to the next start. -/
  step : ∀ t, g.step (g.truncate t) ≠ g.truncate t →
    t < g.step (g.truncate t) ∧ g.NextStart (g.truncate t) (g.step (g.truncate t))
  /-- A step moves unless no bucket starts after the instant. -/
  stays_iff : ∀ t, g.step (g.truncate t) = g.truncate t ↔ ∀ b, g.IsStart b → b ≤ t
  /-- Instants are truncated alike if no bucket starts between them. -/
  same_iff : ∀ t u, g.truncate t = g.truncate u ↔ ¬ ∃ b, g.IsStart b ∧ b.Separates t u

theorem partitions (g : Granularity) : g.Partitions where
  fixed_iff _ := truncate_eq_self_iff
  truncate_le := truncate_le g
  idempotent t := truncate_eq_self_iff.mpr (isStart_truncate g t)
  monotone _ _ := truncate_mono g
  step t hmoves := by
    rcases step_cases (isStart_truncate g t) with hnext | ⟨hstays, -⟩
    · exact ⟨lt_of_truncate_lt hnext.isStart hnext.lt, hnext⟩
    · exact absurd hstays hmoves
  stays_iff t := by
    constructor
    · intro hstays b hb
      rcases step_cases (isStart_truncate g t) with hnext | ⟨-, hlast⟩
      · have hlt := hnext.lt
        rw [hstays] at hlt
        exact absurd hlt (Int.lt_irrefl _)
      · exact Int.le_trans (hlast b hb) (Granularity.truncate_le g t)
    · intro hlast
      rcases step_cases (isStart_truncate g t) with hnext | ⟨hstays, -⟩
      · have hlt := lt_of_truncate_lt hnext.isStart hnext.lt
        exact absurd (hlast _ hnext.isStart) (Int.not_le.mpr hlt)
      · exact hstays
  same_iff t u := by
    rw [truncate_eq_truncate_iff]
    simp only [not_exists, not_and, Instant.not_separates_iff]

/-- **Hours, days and months partition time, each finer than the next.** -/
theorem truncation_partitions_time :
    (∀ g : Granularity, g.Partitions) ∧
      (∀ t, day.truncate (hour.truncate t) = day.truncate t) ∧
      ∀ t, month.truncate (day.truncate t) = month.truncate t :=
  ⟨partitions, hour_refines_day.truncate_truncate, day_refines_month.truncate_truncate⟩

/-- In the leap second at its end, the year 2016 is not over. -/
example : ∃ t, Instant.ofParts? 1483228799 1500000000 = some t ∧ t.isLeap ∧
    Day.ofNumber? 17136 = some (month.truncate t).day ∧ t < month.step (month.truncate t) ∧
    Day.ofNumber? 17167 = some (month.step (month.truncate t)).day :=
  ⟨_, rfl, by decide⟩

/-- The last month of the calendar has no next one. -/
example : month.step (month.truncate (.midnight Day.last)) =
    month.truncate (.midnight Day.last) := by decide

end Granularity

end Footfall
