import Mathlib
import Footfall.Proofs.Rollup.Chronicle
import Footfall.Proofs.Rollup.Counts
import Footfall.Proofs.Store.Select
import Footfall.Rollup.Staleness

/-!
# Staleness is sound and complete

A watermark holds a number of facts and nothing else.  That this number tells
whether the rows of a day are up to date rests on the ledger: facts are only
appended, so the facts that the last compaction saw are the first ones of the
day, and they are all of them exactly if they are as many.

## Main Definitions

* `Store.Stale` — a day has facts that no watermark accounts for
* `Store.RefusesScan` — the store cannot be asked for its stale days
* `Store.RolledUp` — the rows of a day are the aggregation of some facts
* `Store.Traced` — the rows of each day are those of its last compaction
* `Store.FindsStaleDays` — the scan for stale days finds what is not rolled up

## Main Statements

* `Store.lt_of_mem_staleDays` — the scan answers days that are over
* `Store.staleDays_eq_ok_iff`, `Store.exists_staleDays` — the scan answers the
  stale days of its window
* `Account.Balanced.stale_iff` — a day is stale exactly if some of its facts are
  not counted
* `Account.last_compaction` — the counted facts of a day are those that its last
  compaction saw
* `Store.rows_traced_and_stale_days_found` — both properties hold in every
  reachable state
-/

namespace Footfall

/-! ## The scan for stale days -/

namespace Store

variable {s : Store} {d : Day} {now : Instant} {lookback : ℕ}

/-- A day has facts, and no watermark that counts as many. -/
def Stale (s : Store) (d : Day) : Prop :=
  s.factsOn d ≠ [] ∧
    ∀ mark, s.marks.get? (.midnight d) = some mark → mark.factCount ≠ (s.factsOn d).length

/-- The scan is refused: its end, the midnight of today, is after the year 9999, and some fact
gets as far as to be compared with it. -/
def RefusesScan (s : Store) (now : Instant) (lookback : ℕ) : Prop :=
  ¬ now.day.Storable ∧ ∃ f ∈ s.factList,
    (now.day.back lookback).Storable → .midnight (now.day.back lookback) ≤ f.time

theorem mem_daysOf {facts : List Fact} {t : Timestamp} :
    t ∈ daysOf facts ↔ ∃ f ∈ facts, f.time.truncate .day = t := by
  rw [daysOf, (List.mergeSort_perm _ _).mem_iff, mem_distinct, List.mem_map]

/-- The scan counts the facts of a day, of which its window has all or none. -/
theorem isStale_midnight_iff {facts : List Fact}
    (h : facts.filter (fun f => f.time.OnDay d) = s.factsOn d) (nonempty : s.factsOn d ≠ []) :
    isStale facts s.marks (.midnight d) = true ↔ s.Stale d := by
  have hcount : (facts.countP fun f => f.time.truncate .day == .midnight d) =
      (s.factsOn d).length := by
    rw [← h, ← List.countP_eq_length_filter]
    refine List.countP_congr fun f _ => ?_
    rw [beq_iff_eq, decide_eq_true_eq, Timestamp.truncate_day_eq_midnight_iff]
  unfold isStale
  rw [hcount]
  cases hmark : s.marks.get? (.midnight d) with
  | none => simp [Stale, nonempty, hmark]
  | some mark => simp [Stale, nonempty, hmark]

/-- The facts of the days from `first` to before `last`. -/
def factsAmong (s : Store) (first last : Day) : List Fact :=
  s.factList.filter fun f => f.time.fromUpTo (.midnight first) (.midnight last)

/-- The starts of the stale days from `first` to before `last`. -/
def staleStarts (s : Store) (first last : Day) : List Timestamp :=
  (daysOf (s.factsAmong first last)).filter (isStale (s.factsAmong first last) s.marks)

variable {first last : Day}

theorem mem_factsAmong {f : Fact} (h : f.time.OnDay d) :
    f ∈ s.factsAmong first last ↔ f ∈ s.factList ∧ first ≤ d ∧ d < last := by
  rw [factsAmong, List.mem_filter, Timestamp.fromUpTo_midnights_iff,
    show f.time.dayNumber = d.number from h, ← Day.le_iff, ← Day.lt_iff]

/-- Each day of a window keeps all its facts. -/
theorem factsAmong_onDay (hfirst : first ≤ d) (hlast : d < last) :
    (s.factsAmong first last).filter (fun f => f.time.OnDay d) = s.factsOn d := by
  rw [factsAmong, List.filter_filter]
  refine List.filter_congr fun f hf => ?_
  by_cases hday : f.time.OnDay d
  · have hmem := (mem_factsAmong hday).mpr ⟨hf, hfirst, hlast⟩
    simp only [hday, decide_true, Bool.true_and]
    exact (List.mem_filter.mp hmem).2
  · simp [hday]

theorem midnight_mem_staleStarts :
    .midnight d ∈ s.staleStarts first last ↔ first ≤ d ∧ d < last ∧ s.Stale d := by
  rw [staleStarts, List.mem_filter, mem_daysOf]
  constructor
  · rintro ⟨⟨f, hf, hbucket⟩, hstale⟩
    have hday := Timestamp.truncate_day_eq_midnight_iff.mp hbucket
    obtain ⟨hlist, hfirst, hlast⟩ := (mem_factsAmong hday).mp hf
    have hnonempty : s.factsOn d ≠ [] := List.ne_nil_of_mem (mem_factsOn.mpr ⟨hlist, hday⟩)
    exact ⟨hfirst, hlast,
      (isStale_midnight_iff (factsAmong_onDay hfirst hlast) hnonempty).mp hstale⟩
  · rintro ⟨hfirst, hlast, hstale⟩
    obtain ⟨f, hf⟩ := List.exists_mem_of_ne_nil _ hstale.1
    obtain ⟨hlist, hday⟩ := mem_factsOn.mp hf
    exact ⟨⟨f, (mem_factsAmong hday).mpr ⟨hlist, hfirst, hlast⟩,
      Timestamp.truncate_day_eq_midnight_iff.mpr hday⟩,
      (isStale_midnight_iff (factsAmong_onDay hfirst hlast) hstale.1).mpr hstale⟩

/-- The start of a stale day is read back as the day. -/
theorem exists_day_of_mem_staleStarts (years : ∀ f ∈ s.factList, f.time.FourDigit)
    {t : Timestamp} (h : t ∈ s.staleStarts first last) :
    ∃ d : Day, t = .midnight d ∧ t.readBucket = .ok (Instant.midnight d) := by
  obtain ⟨f, hf, rfl⟩ := mem_daysOf.mp (List.mem_of_mem_filter h)
  have hyears := years f (List.mem_of_mem_filter hf)
  obtain ⟨d, hday, -⟩ := hyears.exists_onDay
  have hmidnight := Timestamp.truncate_day_eq_midnight_iff.mpr hday
  refine ⟨d, hmidnight, ?_⟩
  rw [hmidnight]
  refine Timestamp.readBucket_midnight ((Timestamp.fourDigit_iff_of_dayNumber ?_).mp hyears)
  rw [Timestamp.dayNumber_midnight]
  exact hday

/-- The day of a bucket as it is read from the store. -/
def readDay (start : Timestamp) : Except StoreFault Day := do
  .ok (← start.readBucket).day

/-- The starts of stale days are the midnights of some days. -/
theorem exists_map_midnight_eq_staleStarts (years : ∀ f ∈ s.factList, f.time.FourDigit) :
    ∃ days : List Day, days.map .midnight = s.staleStarts first last := by
  have hrange : s.staleStarts first last ∈ Set.range (List.map Timestamp.midnight) := by
    rw [Set.range_list_map]
    intro t ht
    obtain ⟨d, hmidnight, -⟩ := exists_day_of_mem_staleStarts years ht
    exact ⟨d, hmidnight.symm⟩
  exact hrange

/-- Each of them is read back as its day. -/
theorem mapM_readDay_staleStarts (years : ∀ f ∈ s.factList, f.time.FourDigit) {days : List Day} :
    (s.staleStarts first last).mapM readDay = .ok days ↔
      days.map .midnight = s.staleStarts first last := by
  obtain ⟨starts, hstarts⟩ :
      ∃ starts : List Day, starts.map .midnight = s.staleStarts first last :=
    exists_map_midnight_eq_staleStarts years
  have hread : (starts.map Timestamp.midnight).map readDay = starts.map .ok := by
    rw [List.map_map]
    refine List.map_congr_left fun d hd => ?_
    have hmem : Timestamp.midnight d ∈ s.staleStarts first last :=
      hstarts ▸ List.mem_map_of_mem hd
    obtain ⟨e, hmidnight, he⟩ := exists_day_of_mem_staleStarts years hmem
    rw [Function.comp_apply, readDay, he, Timestamp.midnight_injective hmidnight]
    exact congrArg Except.ok (Instant.day_midnight e)
  rw [← hstarts, mapM_eq_ok_iff, hread,
    (List.map_injective_iff.mpr fun _ _ => Timestamp.midnight_injective).eq_iff,
    (List.map_injective_iff.mpr fun _ _ => Except.ok.inj).eq_iff, eq_comm]

/-- A fact of the window shows that the midnight of today can be stored. -/
theorem storable_of_mem_factsAmong (accepted : ¬ s.RefusesScan now lookback) {f : Fact}
    (hf : f ∈ s.factsAmong (now.day.back lookback) now.day) : now.day.Storable := by
  by_contra storable
  obtain ⟨hlist, hfrom⟩ := List.mem_filter.mp hf
  rw [Timestamp.fromUpTo, Bool.and_eq_true, decide_eq_true_eq] at hfrom
  exact accepted ⟨storable, f, hlist, fun _ => hfrom.1⟩

/-- A day of the window that has facts has the scan refused after the year 9999. -/
theorem refusesScan_of_factsOn (storable : ¬ now.day.Storable)
    (hfrom : now.day.number - lookback ≤ d.number) (hto : d < now.day)
    (hfacts : s.factsOn d ≠ []) : s.RefusesScan now lookback := by
  by_contra accepted
  obtain ⟨f, hf⟩ := List.exists_mem_of_ne_nil _ hfacts
  obtain ⟨hlist, hday⟩ := mem_factsOn.mp hf
  exact storable (storable_of_mem_factsAmong accepted
    ((mem_factsAmong hday).mpr ⟨hlist, Day.back_le_iff.mpr hfrom, hto⟩))

/-- The facts that the scan selects. -/
theorem selectRows_scan_eq_ok_iff {facts : List Fact} :
    selectRows [(Instant.midnight (now.day.back lookback)).condition (· ≤ ·.time),
        (Instant.midnight now.day).condition fun stop f => f.time < stop] s.factList = .ok facts ↔
      facts = s.factsAmong (now.day.back lookback) now.day ∧ ¬ s.RefusesScan now lookback := by
  rw [selectRows_between_eq_ok_iff]
  simp only [Instant.storable_midnight_iff, Instant.toTimestamp_midnight, decide_eq_true_eq]
  refine and_congr_right fun _ => ?_
  by_cases storable : now.day.Storable
  · -- the start of the window is no later than its end
    have hback : (now.day.back lookback).Storable := by
      refine storable.of_le (Day.back_le_iff.mpr ?_)
      omega
    simp [RefusesScan, storable, hback]
  · simp [RefusesScan, storable]

theorem staleDays_eq (c : s.Scannable) (accepted : ¬ s.RefusesScan now lookback) :
    s.staleDays now lookback =
      ((s.staleStarts (now.day.back lookback) now.day).mapM readDay).mapError .query := by
  have hfacts := selectRows_scan_eq_ok_iff.mpr ⟨rfl, accepted⟩
  unfold staleDays readStaleDays
  rw [c.factRows, c.watermarkRows]
  simp only [ok_bind, hfacts]
  rfl

/-- The scan needs its tables and a day that the store can be told. -/
theorem scannable_of_staleDays {days : List Day} (h : s.staleDays now lookback = .ok days) :
    s.Scannable ∧ ¬ s.RefusesScan now lookback := by
  rw [staleDays, mapError_eq_ok_iff] at h
  simp only [readStaleDays, bind_eq_ok_iff] at h
  obtain ⟨rows, hrows, marks, hmarks, facts, hfacts, -⟩ := h
  have scannable : s.Scannable := ⟨Slot.eq_table_of_read hrows, Slot.eq_table_of_read hmarks⟩
  obtain rfl := Except.ok.inj (scannable.factRows.symm.trans hrows)
  exact ⟨scannable, (selectRows_scan_eq_ok_iff.mp hfacts).2⟩

/-- The scan answers days that are over, whatever the years of the facts are. -/
theorem lt_of_mem_staleDays {days : List Day} (h : s.staleDays now lookback = .ok days)
    (mem : d ∈ days) : d < now.day := by
  obtain ⟨scannable, accepted⟩ := scannable_of_staleDays h
  rw [staleDays_eq scannable accepted, mapError_eq_ok_iff, mapM_eq_ok_iff] at h
  obtain ⟨t, ht, hread⟩ : ∃ t ∈ s.staleStarts (now.day.back lookback) now.day,
      readDay t = .ok d := by
    rw [← List.mem_map, h]
    exact List.mem_map_of_mem mem
  obtain ⟨f, hf, rfl⟩ := mem_daysOf.mp (List.mem_of_mem_filter ht)
  have hlt : f.time.dayNumber < now.day.number :=
    (Timestamp.fromUpTo_midnights_iff.mp (List.mem_filter.mp hf).2).2
  obtain ⟨i, hi, hd⟩ := bind_eq_ok_iff.mp hread
  -- the day of today can be stored, so no year before it is too late to be read
  have hyear : (Civil.ofDayNumber (f.time.truncate .day).dayNumber).year ≤ 9999 := by
    rw [Timestamp.dayNumber_truncate_day]
    exact (yearOf_mono hlt.le).trans (storable_of_mem_factsAmong accepted hf)
  have hnumber := Timestamp.number_day_of_readBucket hyear hi
  rw [Timestamp.dayNumber_truncate_day] at hnumber
  rw [← Except.ok.inj hd, Day.lt_iff, hnumber]
  exact hlt

/-- **What the scan answers**: the days of its window whose midnights are the
starts of stale days, in their order. -/
theorem staleDays_eq_ok_iff (years : ∀ f ∈ s.factList, f.time.FourDigit) {days : List Day} :
    s.staleDays now lookback = .ok days ↔ s.Scannable ∧ ¬ s.RefusesScan now lookback ∧
      days.map .midnight = s.staleStarts (now.day.back lookback) now.day := by
  constructor
  · intro h
    obtain ⟨scannable, accepted⟩ := scannable_of_staleDays h
    rw [staleDays_eq scannable accepted, mapError_eq_ok_iff, mapM_readDay_staleStarts years] at h
    exact ⟨scannable, accepted, h⟩
  · rintro ⟨scannable, accepted, hdays⟩
    rw [staleDays_eq scannable accepted, (mapM_readDay_staleStarts years).mpr hdays]
    rfl

/-- A day is answered if it is a stale day of the window. -/
theorem mem_of_map_midnight_eq {days : List Day}
    (h : days.map .midnight = s.staleStarts (now.day.back lookback) now.day) :
    d ∈ days ↔ now.day.number - lookback ≤ d.number ∧ d < now.day ∧ s.Stale d := by
  rw [← Day.back_le_iff, ← midnight_mem_staleStarts, ← h,
    List.mem_map_of_injective fun _ _ => Timestamp.midnight_injective]

/-- The oldest day is answered first, and none twice. -/
theorem pairwise_of_map_midnight_eq {days : List Day}
    (h : days.map .midnight = s.staleStarts first last) : days.Pairwise (· < ·) := by
  have hsorted : (s.staleStarts first last).Pairwise (· < ·) :=
    (pairwise_distinct_timestamps _).filter _
  rw [← h, List.pairwise_map] at hsorted
  refine hsorted.imp fun {d e} hlt => ?_
  simp only [Timestamp.lt_iff, Timestamp.midnight, Timestamp.dayMicros] at hlt
  rw [Day.lt_iff]
  omega

/-- **The scan answers the stale days of its window.** -/
theorem exists_staleDays (c : s.Complete) (years : ∀ f ∈ s.factList, f.time.FourDigit)
    (accepted : ¬ s.RefusesScan now lookback) :
    ∃ days, s.staleDays now lookback = .ok days ∧ ∀ d,
      d ∈ days ↔ now.day.number - lookback ≤ d.number ∧ d < now.day ∧ s.Stale d := by
  obtain ⟨days, hdays⟩ := exists_map_midnight_eq_staleStarts years
  exact ⟨days, (staleDays_eq_ok_iff years).mpr ⟨c.scannable, accepted, hdays⟩,
    fun _ => mem_of_map_midnight_eq hdays⟩

theorem staleDays_of_refusesScan (refused : s.RefusesScan now lookback) :
    ∃ e, s.staleDays now lookback = .error e := by
  cases hstale : s.staleDays now lookback with
  | error e => exact ⟨e, rfl⟩
  | ok days => exact absurd refused (scannable_of_staleDays hstale).2

end Store

/-! ## Rows against facts -/

namespace Rollup

/-- Rows tell how many facts they stand for. -/
theorem length_eq_of_aggregate_perm {g : Granularity} {facts others : List Fact}
    (h : (aggregate g facts).Perm (aggregate g others)) : facts.length = others.length := by
  have hcount := Store.total_eq_of_perm (h.map (·.2)) (·.count)
  rw [total_count_aggregate, total_count_aggregate] at hcount
  exact Int.ofNat.inj hcount

end Rollup

/-- The rows of a day are the aggregation of some facts, no row missing, stale or
left over. -/
structure Store.RolledUp (s : Store) (d : Day) (facts : List Fact) : Prop where
  /-- The daily rows. -/
  daily : (s.dailyOn d).Perm (Rollup.aggregate .day facts)
  /-- The hourly rows. -/
  hourly : (s.hourlyOn d).Perm (Rollup.aggregate .hour facts)

namespace Account

variable {x : Account} {d : Day}

theorem Balanced.rolledUp (h : x.Balanced) (d : Day) :
    x.store.RolledUp d (factsOfDay d x.counted) :=
  ⟨h.dailyOn_perm d, h.hourlyOn_perm d⟩

/-- As many counted facts as there are is all of them. -/
theorem Balanced.counted_eq_iff (h : x.Balanced) (d : Day) :
    factsOfDay d x.counted = x.store.factsOn d ↔
      (factsOfDay d x.counted).length = (x.store.factsOn d).length :=
  ⟨congrArg List.length, (h.first d).eq_of_length⟩

/-- **A day is stale exactly if some of its facts are not counted.** -/
theorem Balanced.stale_iff (h : x.Balanced) (d : Day) :
    x.store.Stale d ↔ factsOfDay d x.counted ≠ x.store.factsOn d := by
  rw [Ne, h.counted_eq_iff]
  cases hmark : x.store.marks.get? (.midnight d) with
  | none =>
      rw [h.unmarked d hmark, List.length_nil, eq_comm, List.length_eq_zero_iff]
      simp [Store.Stale, hmark]
  | some mark =>
      have hcount := h.marked d mark hmark
      constructor
      · intro hstale heq
        exact hstale.2 mark hmark (by rw [hcount, heq])
      · intro hne
        -- a day without facts has none to count, so its count is up to date
        refine ⟨fun hnil => hne ?_, fun mark' hmark' heq => hne ?_⟩
        · have hle := (h.first d).length_le
          rw [hnil] at hle ⊢
          exact Nat.le_zero.mp hle
        · rw [hmark] at hmark'
          rw [← Option.some.inj hmark', hcount] at heq
          exact Int.ofNat.inj heq

/-- **Rows are up to date exactly if all facts are counted.** -/
theorem Balanced.rolledUp_iff (h : x.Balanced) (d : Day) :
    x.store.RolledUp d (x.store.factsOn d) ↔ factsOfDay d x.counted = x.store.factsOn d := by
  constructor
  · intro hrolled
    exact (h.counted_eq_iff d).mpr
      (Rollup.length_eq_of_aggregate_perm ((h.dailyOn_perm d).symm.trans hrolled.daily))
  · intro heq
    rw [← heq]
    exact h.rolledUp d

/-! ## The last compaction of a day -/

/-- An action that does not compact a day leaves its watermark and its count. -/
theorem Balanced.step_frame (h : x.Balanced) {a : Action}
    (ha : ∀ now, a = .compact d now → ¬ Compactable d now) :
    (x.step a).store.marks.get? (.midnight d) = x.store.marks.get? (.midnight d) ∧
      factsOfDay d (x.step a).counted = factsOfDay d x.counted := by
  have hstep := h.becomes_step a
  generalize x.step a = y at hstep
  cases hstep with
  | quiet grown => exact ⟨by rw [grown.marks], rfl⟩
  | @fact v now s' grown _ _ time site visitor ids =>
      refine ⟨?_, rfl⟩
      rw [show (s'.withFact time site visitor ids).marks = s'.marks from rfl, grown.marks]
  | @compacted e now he =>
      have hne : d ≠ e := by
        rintro rfl
        exact ha now rfl he
      exact ⟨Store.mark_compacted_of_ne hne, factsOfDay_recount_of_ne x hne⟩

/-- **The counted facts of a day are those that its last compaction saw.** -/
theorem last_compaction (as : List Action) (d : Day) :
    (Store.migrated.NeverCompacts as d ∧
      (opening.run as).store.marks.get? (.midnight d) = none) ∨
    ∃ before now mark, Store.migrated.LastCompacts as d before now ∧
      (opening.run as).store.marks.get? (.midnight d) = some mark ∧
      factsOfDay d (opening.run as).counted = (Store.migrated.runAll before).factsOn d := by
  -- from the back, for it is the last compaction of the day that counts
  induction as using List.reverseRecOn with
  | nil => exact .inl ⟨Store.neverCompacts_nil, rfl⟩
  | append_singleton as a ih =>
      have hbalanced := balanced_run as
      rw [run_concat]
      by_cases ha : ∃ now, a = .compact d now ∧ Compactable d now
      · obtain ⟨now, rfl, hd⟩ := ha
        rw [step_of_compactable hbalanced.complete hd]
        refine .inr ⟨as, now, _, Store.lastCompacts_concat (compacts_iff.mpr hd),
          Table.get?_put_self _ _ _, ?_⟩
        rw [factsOfDay_recount_self, store_run_opening]
      · push Not at ha
        obtain ⟨hmarks, hcounted⟩ := hbalanced.step_frame ha
        have hnot : ∀ now, a = .compact d now → ¬ Store.migrated.Compacts as d now :=
          fun now hnow => mt compacts_iff.mp (ha now hnow)
        rw [hmarks, hcounted]
        rcases ih with ⟨hnever, hnone⟩ | ⟨before, now, mark, hlast, hrest⟩
        · exact .inl ⟨hnever.concat hnot, hnone⟩
        · exact .inr ⟨before, now, mark, hlast.concat hnot, hrest⟩

end Account

/-! ## Every reachable state -/

namespace Store

/-- After the actions `as`, each day either was never compacted and has neither
watermark nor rows, or it has the rows of the facts that its last compaction saw,
which are the first facts of the day and as many as its watermark says. -/
def Traced (as : List Action) : Prop :=
  ∀ d, (migrated.NeverCompacts as d ∧ (migrated.runAll as).marks.get? (.midnight d) = none ∧
      (migrated.runAll as).dailyOn d = [] ∧ (migrated.runAll as).hourlyOn d = []) ∨
    ∃ before now mark, migrated.LastCompacts as d before now ∧
      (migrated.runAll as).marks.get? (.midnight d) = some mark ∧
      mark.factCount = ((migrated.runAll before).factsOn d).length ∧
      mark.factCount ≤ ((migrated.runAll as).factsOn d).length ∧
      (migrated.runAll before).factsOn d <+: (migrated.runAll as).factsOn d ∧
      (migrated.runAll as).RolledUp d ((migrated.runAll before).factsOn d)

/-- The scan for stale days omits exactly the days of its window whose rows are
the aggregation of their facts. -/
def FindsStaleDays (s : Store) (now : Instant) (lookback : ℕ) : Prop :=
  ∃ days, s.staleDays now lookback = .ok days ∧
    ∀ d, now.day.number - lookback ≤ d.number → d < now.day →
      (d ∉ days ↔ s.RolledUp d (s.factsOn d))

theorem traced (as : List Action) : Traced as := by
  intro d
  have hbalanced := Account.balanced_run as
  have hlast := Account.last_compaction as d
  rw [← Account.store_run_opening as]
  rcases hlast with ⟨hnever, hmark⟩ | ⟨before, now, mark, hlast, hmark, hcounted⟩
  · have hrolled := hbalanced.rolledUp d
    rw [hbalanced.unmarked d hmark] at hrolled
    exact .inl ⟨hnever, hmark, List.perm_nil.mp hrolled.daily, List.perm_nil.mp hrolled.hourly⟩
  · refine .inr ⟨before, now, mark, hlast, hmark, ?_, ?_, ?_, ?_⟩
    · rw [hbalanced.marked d mark hmark, hcounted]
    · rw [hbalanced.marked d mark hmark]
      exact Int.ofNat_le.mpr (hbalanced.first d).length_le
    · exact hcounted ▸ hbalanced.first d
    · exact hcounted ▸ hbalanced.rolledUp d

/-- **In every reachable state, the rows of each day are those of its last
compaction, and the scan for stale days finds exactly the days whose rows are out
of date.**  It is refused in one case: after the year 9999, if a fact lies in its
window. -/
theorem rows_traced_and_stale_days_found (ops : List Operation)
    (years : ∀ op ∈ ops, op.InYears) :
    Traced (migrated.trace ops) ∧
      (∀ now lookback, ¬ (migrated.perform ops).RefusesScan now lookback →
        (migrated.perform ops).FindsStaleDays now lookback) ∧
      (∀ now lookback, (migrated.perform ops).RefusesScan now lookback →
        ∃ e, (migrated.perform ops).staleDays now lookback = .error e) := by
  refine ⟨traced _, fun now lookback accepted => ?_, fun now lookback refused =>
    staleDays_of_refusesScan refused⟩
  have hbalanced := Account.balanced_run (migrated.trace ops)
  have hyears := Account.fourDigit_of_trace years
  rw [perform, ← Account.store_run_opening] at accepted ⊢
  obtain ⟨days, hdays, hmem⟩ := exists_staleDays hbalanced.complete hyears accepted
  refine ⟨days, hdays, fun d hfrom hto => ?_⟩
  rw [hbalanced.rolledUp_iff, hmem, hbalanced.stale_iff]
  simp only [hfrom, hto, true_and, not_not]

/-- A visit, and a pass on the day after. -/
def visitAndPass : List Operation :=
  [.call (viewOn (sampleDay 0) "blog" "/"), .pass (.midnight (sampleDay 1)) 7 []]

theorem inYears_visitAndPass : ∀ op ∈ visitAndPass, op.InYears := by
  simp only [visitAndPass, List.forall_mem_cons, Operation.InYears, List.not_mem_nil,
    false_imp_iff, implies_true, and_true]
  decide

theorem stale_days_found_after_visitAndPass :
    (∀ op ∈ visitAndPass, op.InYears) ∧
      (migrated.perform visitAndPass).FindsStaleDays (.midnight (sampleDay 3)) 7 :=
  ⟨inYears_visitAndPass,
    (rows_traced_and_stale_days_found visitAndPass inYears_visitAndPass).2.1 _ 7
      fun refused => refused.1 (by decide)⟩

/-- The scan is not exact at every time: on the first day of the year 10000 it is
refused, although the day before has a fact and no row. -/
theorem not_findsStaleDays_after_9999 :
    ∃ (ops : List Operation) (now : Instant) (d : Day), (∀ op ∈ ops, op.InYears) ∧
      now.day.number - (1 : ℕ) ≤ d.number ∧ d < now.day ∧
      ¬ (migrated.perform ops).RolledUp d ((migrated.perform ops).factsOn d) ∧
      ¬ (migrated.perform ops).FindsStaleDays now 1 := by
  let d : Day := ⟨2932896, by decide, by decide⟩
  let a : Action := .record (.plain "blog" "/" (.midnight d) 7) (.midnight d)
  let now : Instant := .midnight ⟨2932897, by decide, by decide⟩
  have hactions : migrated.trace [.call a] = [a] := rfl
  have hfacts : (migrated.perform [.call a]).factsOn d ≠ [] := by
    rw [perform, hactions, ← Account.store_run_opening]
    intro hnil
    have hsight := (Account.tells_run [a]).factsOn d
    rw [hnil] at hsight
    exact absurd hsight (by decide)
  refine ⟨[.call a], now, d, by
    simp only [List.forall_mem_singleton, Operation.InYears]
    decide, by decide,
    by decide, ?_, ?_⟩
  · -- no compaction has counted the fact of the day
    rw [perform, hactions, ← Account.store_run_opening] at hfacts ⊢
    rw [(Account.balanced_run [a]).rolledUp_iff]
    exact fun hcounted => hfacts hcounted.symm
  · rintro ⟨days, hdays, -⟩
    exact (scannable_of_staleDays hdays).2
      (refusesScan_of_factsOn (by decide) (by decide) (by decide) hfacts)

end Store

end Footfall
