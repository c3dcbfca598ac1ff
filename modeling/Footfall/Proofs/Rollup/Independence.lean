import Mathlib
import Footfall.Proofs.Rollup.Convergence
import Footfall.Proofs.Rollup.Standing

/-!
# Compactions are independent

Two compactions of different days read the same facts and write other rows.  So
they can be exchanged, and so can a compaction and a visit on another day.  A
compaction of the same day writes the rows once more that it wrote before, as long
as no fact of the day came in between.

Nothing is asked of the store.  Its rollups may hold any rows before, and a call
that fails is exchanged with the others like one that succeeds.

## Main Definitions

* `Store.Commutes` — two calls on a store can be exchanged
* `Store.Covers` — the rollups hold the rows of all facts of a day
* `Store.restamped` — a store in which the watermark of a day bears another time
* `Store.Repeats` — what comes of compacting a day again
* `SameWork` — two passes did the same, perhaps in another order

## Main Statements

* `Store.commutes_compactions` — compactions of different days commute
* `Store.commutes_record` — so do a compaction and a visit on another day
* `Store.Covers.compacted_eq` — counting the same facts again restamps the day
* `Store.sameWork_of_perm` — a pass may take its days in any order
* `Store.compactions_independent` — all of this, on every store
-/

namespace Footfall

/-! ## Writing in another order -/

theorem Table.put_comm {K V : Type} [Ranked K] (t : Table K V) {k k' : K} (h : k ≠ k')
    (v v' : V) : (t.put k v).put k' v' = (t.put k' v').put k v := by
  refine Table.ext_get? fun j => ?_
  by_cases hk : k = j
  · subst hk
    rw [get?_put_self, get?_put_of_ne _ _ h.symm, get?_put_self]
  by_cases hk' : k' = j
  · subst hk'
    rw [get?_put_self, get?_put_of_ne _ _ hk, get?_put_self]
  · rw [get?_put_of_ne _ _ hk', get?_put_of_ne _ _ hk, get?_put_of_ne _ _ hk,
      get?_put_of_ne _ _ hk']

namespace Rollup

variable {g : Granularity}

/-- Rows of facts on different days can be written in either order. -/
theorem putAll_aggregate_comm (hg : g.WithinDay) (t : Rollup) (facts : List Fact) {d e : Day}
    (h : d ≠ e) :
    (t.putAll (aggregate g (factsOfDay d facts))).putAll (aggregate g (factsOfDay e facts)) =
      (t.putAll (aggregate g (factsOfDay e facts))).putAll
        (aggregate g (factsOfDay d facts)) := by
  refine Table.ext_get? fun k => ?_
  simp only [get?_putAll_aggregate]
  -- the bucket of the key is on one of the days at most
  by_cases hd : k.bucket.OnDay d
  · have he : ¬ k.bucket.OnDay e := fun he => h (hd.unique he)
    rw [row?_factsOfDay_eq_none hg he, Option.none_or, Option.none_or]
  · rw [row?_factsOfDay_eq_none hg hd, Option.none_or, Option.none_or]

/-- A row of facts on a day is keyed on the day. -/
theorem onDay_of_row? (hg : g.WithinDay) {facts : List Fact} {d : Day} {k : RollupKey}
    {m : Measures} (h : row? g (factsOfDay d facts) k = some m) : k.bucket.OnDay d := by
  by_contra hoff
  rw [row?_factsOfDay_eq_none hg hoff] at h
  cases h

/-- Rows that are found already are written over themselves. -/
theorem putAll_aggregate_eq_self {t : Rollup} {facts : List Fact}
    (h : ∀ k m, row? g facts k = some m → t.get? k = some m) :
    t.putAll (aggregate g facts) = t := by
  refine Table.ext_get? fun k => ?_
  rw [get?_putAll_aggregate]
  cases hrow : row? g facts k with
  | none => exact Option.none_or
  | some m => rw [Option.some_or, h k m hrow]

end Rollup

namespace Store

variable {s s' t t' : Store} {d e : Day} {now now' : Instant} {α β : Type}

theorem withRollupsOf_congr (daily : t.daily = t'.daily) (hourly : t.hourly = t'.hourly)
    (watermarks : t.watermarks = t'.watermarks) : s.withRollupsOf t = s.withRollupsOf t' := by
  rw [withRollupsOf, withRollupsOf, daily, hourly, watermarks]

/-- Two different days can be counted in either order. -/
theorem compacted_comm (s : Store) (h : d ≠ e) (now now' : Instant) :
    (s.compacted d now).compacted e now' = (s.compacted e now').compacted d now := by
  show s.withRollupsOf ((s.compacted d now).compacted e now') =
    s.withRollupsOf ((s.compacted e now').compacted d now)
  refine withRollupsOf_congr ?_ ?_ ?_
  · exact congrArg Slot.table
      (Rollup.putAll_aggregate_comm withinDay_day s.dailyTable s.factList h)
  · exact congrArg Slot.table
      (Rollup.putAll_aggregate_comm withinDay_hour s.hourlyTable s.factList h)
  · exact congrArg Slot.table
      (Table.put_comm s.marks (fun heq => h (Timestamp.midnight_injective heq)) _ _)

/-- What a compaction writes depends on the facts of the day and on the rows before. -/
theorem compacted_congr (daily : s'.dailyTable = s.dailyTable)
    (hourly : s'.hourlyTable = s.hourlyTable) (marks : s'.marks = s.marks)
    (facts : s'.factsOn d = s.factsOn d) :
    s'.compacted d now = s'.withRollupsOf (s.compacted d now) := by
  show s'.withRollupsOf (s'.compacted d now) = s'.withRollupsOf (s.compacted d now)
  refine withRollupsOf_congr ?_ ?_ ?_
  · simp only [compacted, daily, facts]
  · simp only [compacted, hourly, facts]
  · simp only [compacted, report, marks, facts]

/-! ## Exchanging calls -/

/-- **Two calls on a store can be exchanged.**  They leave the same store in either
order, and each of them answers what it answers first. -/
structure Commutes (s : Store) (f : Store → Store × α) (g : Store → Store × β) : Prop where
  /-- The store afterwards is the same. -/
  store : (g (f s).1).1 = (f (g s).1).1
  /-- The one answers the same after the other. -/
  left : (f (g s).1).2 = (f s).2
  /-- And the other after the one. -/
  right : (g (f s).1).2 = (g s).2

/-- A compaction that answers a report counted its day. -/
theorem compactInTransaction_fst (s : Store) (d : Day) (now : Instant) :
    (s.compactInTransaction d now).1 =
      match (s.compactInTransaction d now).2 with
      | .ok _ => s.compacted d now
      | .error _ => s := by
  cases hday : s.compactDay d now with
  | ok result =>
      rw [compactInTransaction_of_ok hday]
      exact (compactDay_eq_ok_iff.mp hday).2.2.1
  | error e => rw [compactInTransaction_of_error hday]

/-- A compaction can be exchanged with a call that does not touch its answer, if
counting the day can be. -/
theorem commutes_of_compacted {g : Store → Store × β} (alike : AnswersAlike d s (g s).1)
    (counted : s.Ready → g (s.compacted d now) = ((g s).1.compacted d now, (g s).2)) :
    s.Commutes (·.compactInTransaction d now) g := by
  have hanswer := alike.answer_eq now
  have hafter := (g s).1.compactInTransaction_fst d now
  cases hday : s.compactDay d now with
  | ok result =>
      obtain ⟨ready, -, hstore, -⟩ := compactDay_eq_ok_iff.mp hday
      have hfirst := compactInTransaction_of_ok hday
      rw [hfirst] at hanswer
      rw [hanswer] at hafter
      refine ⟨?_, ?_, ?_⟩
      · simp only [hfirst, hafter, hstore, counted ready]
      · simp only [hfirst, hanswer]
      · simp only [hfirst, hstore, counted ready]
  | error e =>
      have hfirst := compactInTransaction_of_error hday
      rw [hfirst] at hanswer
      rw [hanswer] at hafter
      refine ⟨?_, ?_, ?_⟩
      · simp only [hfirst, hafter]
      · simp only [hfirst, hanswer]
      · simp only [hfirst]

/-- **Compactions of different days commute.** -/
theorem commutes_compactions (s : Store) (h : e ≠ d) (now now' : Instant) :
    s.Commutes (·.compactInTransaction d now) (·.compactInTransaction e now') := by
  refine commutes_of_compacted (.compaction d s e now') fun ready => ?_
  have alike : AnswersAlike e s (s.compacted d now) := ⟨standsAlike_compacted ready d now, rfl⟩
  have hanswer := alike.answer_eq now'
  have hbefore := s.compactInTransaction_fst e now'
  have hafter := (s.compacted d now).compactInTransaction_fst e now'
  rw [hanswer] at hafter
  refine Prod.ext ?_ hanswer
  cases hfound : (s.compactInTransaction e now').2 with
  | ok r =>
      rw [hfound] at hbefore hafter
      rw [hafter, hbefore]
      exact compacted_comm s h.symm now now'
  | error fault =>
      rw [hfound] at hbefore hafter
      rw [hafter, hbefore]

/-- **So do a compaction and a visit on another day.** -/
theorem commutes_record (s : Store) {v : Visit} {clock : Instant} (h : (v.time clock).day ≠ d)
    (now : Instant) : s.Commutes (·.compactInTransaction d now)
      (·.record v.event v.attributes v.policy clock) := by
  refine commutes_of_compacted (.record s h) fun _ => ?_
  have hrecord := record_withRollupsOf s (s.compacted d now) v.event v.attributes v.policy clock
  have hrollups := record_fst_eq s v.event v.attributes v.policy clock
  have hfacts := factsOn_record s h
  rw [show s.withRollupsOf (s.compacted d now) = s.compacted d now from rfl] at hrecord
  rw [hrecord]
  generalize (s.record v.event v.attributes v.policy clock).1 = s' at hrollups hfacts
  refine Prod.ext (compacted_congr ?_ ?_ ?_ hfacts).symm rfl
  all_goals
    rw [hrollups]
    rfl

/-! ## Compacting a day again -/

/-- **The rollups hold the rows of all facts of a day**, and its watermark says so. -/
structure Covers (s : Store) (d : Day) : Prop where
  /-- The tables of a compaction stand. -/
  ready : s.Ready
  /-- Daily rows of the facts are found. -/
  daily : ∀ k m, Rollup.row? .day (s.factsOn d) k = some m → s.dailyTable.get? k = some m
  /-- So are hourly rows. -/
  hourly : ∀ k m, Rollup.row? .hour (s.factsOn d) k = some m → s.hourlyTable.get? k = some m
  /-- The watermark tells their numbers. -/
  mark : ∃ clock, s.marks.get? (.midnight d) =
    some ⟨clock, (s.report d).factCount, (s.report d).dailyRows, (s.report d).hourlyRows⟩

/-- The store in which the watermark of a day, if it has one, bears another time. -/
def restamped (s : Store) (d : Day) (clock : Timestamp) : Store :=
  { s with
    watermarks := .table <|
      match s.marks.get? (.midnight d) with
      | some mark => s.marks.put (.midnight d) { mark with compactedAt := clock }
      | none => s.marks }

/-- Rows of a day are the same in two stores. -/
structure SameRowsOn (d : Day) (s s' : Store) : Prop where
  /-- Daily rows may differ on other days. -/
  daily : Table.SameExcept (fun k => ¬ k.bucket.OnDay d) s.dailyTable s'.dailyTable
  /-- So may hourly rows. -/
  hourly : Table.SameExcept (fun k => ¬ k.bucket.OnDay d) s.hourlyTable s'.hourlyTable

theorem SameRowsOn.of_eq (daily : s'.daily = s.daily) (hourly : s'.hourly = s.hourly) :
    SameRowsOn d s s' where
  daily k _ := by rw [dailyTable, daily, ← dailyTable]
  hourly k _ := by rw [hourlyTable, hourly, ← hourlyTable]

theorem SameRowsOn.trans (h : SameRowsOn d s s') (h' : SameRowsOn d s' t) :
    SameRowsOn d s t where
  daily k hk := (h'.daily k hk).trans (h.daily k hk)
  hourly k hk := (h'.hourly k hk).trans (h.hourly k hk)

/-- A compaction covers its day. -/
theorem covers_compacted (ready : s.Ready) (d : Day) (now : Instant) :
    (s.compacted d now).Covers d where
  ready := ready_compacted ready d now
  daily k m hrow := by
    rw [dailyTable_compacted, Rollup.get?_putAll_aggregate]
    exact hrow ▸ Option.some_or
  hourly k m hrow := by
    rw [hourlyTable_compacted, Rollup.get?_putAll_aggregate]
    exact hrow ▸ Option.some_or
  mark := ⟨now.toTimestamp, mark_compacted_self⟩

/-- **Counting the same facts again restamps the day**, and writes nothing else. -/
theorem Covers.compacted_eq (h : s.Covers d) (now : Instant) :
    s.compacted d now = s.restamped d now.toTimestamp := by
  obtain ⟨clock, hmark⟩ := h.mark
  show s.withRollupsOf (s.compacted d now) =
    s.withRollupsOf (s.restamped d now.toTimestamp)
  refine withRollupsOf_congr ?_ ?_ ?_
  · have hdaily := Rollup.putAll_aggregate_eq_self h.daily
    exact (congrArg Slot.table hdaily).trans h.ready.daily.symm
  · have hhourly := Rollup.putAll_aggregate_eq_self h.hourly
    exact (congrArg Slot.table hhourly).trans h.ready.hourly.symm
  · simp only [compacted, restamped, hmark]

/-- Where a day is covered, it stays covered as long as its rows and facts do. -/
theorem Covers.congr (h : s.Covers d) (ready : s'.Ready) (facts : s'.factsOn d = s.factsOn d)
    (rows : SameRowsOn d s s')
    (mark : s'.marks.get? (.midnight d) = s.marks.get? (.midnight d)) : s'.Covers d where
  ready := ready
  daily k m hrow := by
    rw [facts] at hrow
    rw [rows.daily k (not_not.mpr (Rollup.onDay_of_row? withinDay_day hrow))]
    exact h.daily k m hrow
  hourly k m hrow := by
    rw [facts] at hrow
    rw [rows.hourly k (not_not.mpr (Rollup.onDay_of_row? withinDay_hour hrow))]
    exact h.hourly k m hrow
  mark := by
    rw [mark, report, facts]
    exact h.mark

/-- A call that adds no fact to a covered day keeps its rows and covers it. -/
theorem Covers.run (h : s.Covers d) (a : Action)
    (facts : (a.run s).factsOn d = s.factsOn d) :
    SameRowsOn d s (a.run s) ∧ (a.run s).Covers d := by
  have ready := (StandsAlike.run s a).ready h.ready
  -- what is left is to see that rows and watermark are the same
  suffices hrows : SameRowsOn d s (a.run s) ∧
      ((a.run s).marks.get? (.midnight d) = s.marks.get? (.midnight d) ∨ (a.run s).Covers d) by
    exact ⟨hrows.1, hrows.2.elim (h.congr ready facts hrows.1) id⟩
  cases a with
  | record v now =>
      have hrollups := record_fst_eq s v.event v.attributes v.policy now
      rw [Action.run]
      generalize (s.record v.event v.attributes v.policy now).1 = s' at hrollups
      rw [hrollups]
      exact ⟨.of_eq rfl rfl, .inl rfl⟩
  | resolve k =>
      rw [Action.run, resolve_fst_eq]
      generalize (s.resolve k).1 = t
      exact ⟨.of_eq rfl rfl, .inl rfl⟩
  | compact e now =>
      rw [run_compact_eq]
      rcases s.compactInTransaction_fst_cases e now with hstore | ⟨-, hstore⟩
      · rw [hstore]
        exact ⟨.of_eq rfl rfl, .inl rfl⟩
      · rw [hstore]
        by_cases he : e = d
        · subst he
          refine ⟨?_, .inr (covers_compacted h.ready e now)⟩
          rw [h.compacted_eq now]
          exact .of_eq rfl rfl
        · have confined := confinedTo_compacted h.ready e now
          refine ⟨⟨fun k hk => ?_, fun k hk => ?_⟩, .inl (mark_compacted_of_ne (Ne.symm he))⟩
          · refine confined.daily k fun heq => he ?_
            exact (heq ▸ Timestamp.onDay_midnight e : k.bucket.OnDay e).unique (not_not.mp hk)
          · exact confined.hourly k fun hon => he (hon.unique (not_not.mp hk))

theorem Covers.runAll (h : s.Covers d) {as : List Action}
    (facts : (s.runAll as).factsOn d = s.factsOn d) :
    SameRowsOn d s (s.runAll as) ∧ (s.runAll as).Covers d := by
  induction as generalizing s with
  | nil => exact ⟨.of_eq rfl rfl, h⟩
  | cons a as ih =>
      obtain ⟨hfirst, hrest⟩ := factsOn_run_of_cons facts
      obtain ⟨hrows, hcovers⟩ := h.run a hfirst
      obtain ⟨hrows', hcovers'⟩ := ih hcovers hrest
      exact ⟨hrows.trans hrows', hcovers'⟩

/-- **What comes of compacting a day again**, at `now'`, on the store `s'`.  The first
compaction, at `now`, left the store `s` and the answer `first`. -/
structure Repeats (d : Day) (now now' : Instant) (first : Except StatsError Report)
    (s s' : Store) : Prop where
  /-- After a success, the rows of the day are those that the first one left. -/
  rows : ∀ r, first = .ok r → SameRowsOn d s s'
  /-- The report is the same then, and nothing changes but the time in the
  watermark. -/
  again : ∀ r, first = .ok r → Compactable d now' →
    s'.compactInTransaction d now' = (s'.restamped d now'.toTimestamp, .ok r)
  /-- At a time at which the day cannot be compacted, nothing changes. -/
  refused : ¬ Compactable d now' → ∃ e, s'.compactInTransaction d now' = (s', .error e)
  /-- After a failure, the same time fails again, for the same reason. -/
  failed : ∀ e, first = .error e → s'.compactInTransaction d now = (s', .error e)

/-- **A compaction can be repeated**, if no fact of the day came in between. -/
theorem repeats_of_factsOn (s : Store) (d : Day) (now now' : Instant) {as : List Action}
    (h : ((s.compactInTransaction d now).1.runAll as).factsOn d = s.factsOn d) :
    Repeats d now now' (s.compactInTransaction d now).2 (s.compactInTransaction d now).1
      ((s.compactInTransaction d now).1.runAll as) := by
  have alike := AnswersAlike.compaction d s d now
  have alike' := AnswersAlike.runAll (h.trans alike.factsOn.symm)
  cases hday : s.compactDay d now with
  | ok result =>
      obtain ⟨ready, -, hstore, hreport⟩ := compactDay_eq_ok_iff.mp hday
      rw [compactInTransaction_of_ok hday, hstore] at h ⊢
      obtain ⟨hrows, hcovers⟩ := (covers_compacted ready d now).runAll h
      have hreport' : ((s.compacted d now).runAll as).report d = result.2 := by
        rw [hreport, report, report, h]
      generalize (s.compacted d now).runAll as = s' at hrows hcovers hreport'
      exact {
        rows := fun _ _ => hrows
        again := by
          intro r hr compactable
          have hday' := compactDay_eq_ok_iff.mpr ⟨hcovers.ready, compactable, rfl, rfl⟩
          rw [compactInTransaction_of_ok hday', hcovers.compacted_eq now', hreport']
          exact congrArg (Prod.mk _) hr
        refused := by
          intro refused
          obtain ⟨e, hday'⟩ := compactDay_of_not_compactable (s := s') refused
          exact ⟨e, compactInTransaction_of_error hday'⟩
        failed := by
          intro e he
          cases he }
  | error e =>
      rw [compactInTransaction_of_error hday] at alike' ⊢
      generalize s.runAll as = s' at alike'
      exact {
        rows := by
          intro r hr
          cases hr
        again := by
          intro r hr
          cases hr
        refused := by
          intro refused
          obtain ⟨e', hday'⟩ := compactDay_of_not_compactable (s := s') refused
          exact ⟨e', compactInTransaction_of_error hday'⟩
        failed := by
          intro e' he
          obtain rfl := Except.error.inj he
          exact compactInTransaction_of_error
            ((alike'.toStandsAlike.compactDay d now e).mpr hday) }

/-! ## The order of a pass -/

/-- A pass answers for each day what its compaction answers at the beginning. -/
theorem foldl_compactNext (days : List Day) (now : Instant) (s' : Store) (p : Pass)
    (alike : ∀ d, AnswersAlike d s s') :
    days.foldl (compactNext now) (s', p) =
      (days.foldl (fun s d => (s.compactInTransaction d now).1) s',
        p.after (days.map fun d => (d, (s.compactInTransaction d now).2))) := by
  induction days generalizing s' p with
  | nil => simp [Pass.after, Pass.of]
  | cons d days ih =>
      have hnext : compactNext now (s', p) d = ((s'.compactInTransaction d now).1,
          p.after [(d, (s.compactInTransaction d now).2)]) := by
        rw [← (alike d).answer_eq now]
        cases hday : s'.compactDay d now with
        | ok result =>
            rw [compactInTransaction_of_ok hday]
            exact compactNext_of_ok hday
        | error e =>
            rw [compactInTransaction_of_error hday]
            exact compactNext_of_error hday
      rw [List.foldl_cons, List.foldl_cons, List.map_cons, hnext,
        ih _ _ fun e => (alike e).trans (.compaction e s' d now)]
      exact congrArg (Prod.mk _) (Pass.after_cons _ _ _).symm

/-- **A pass compacts its days one after another**, and each of them answers as if it
were the first. -/
theorem compactEach_eq (s : Store) (days : List Day) (now : Instant) :
    s.compactEach days now =
      (days.foldl (fun s d => (s.compactInTransaction d now).1) s,
        .of (days.map fun d => (d, (s.compactInTransaction d now).2))) := by
  rw [compactEach, foldl_compactNext days now s {} fun d => .refl d s]
  rfl

end Store

/-- **Two passes did the same**, perhaps in another order. -/
structure SameWork (a b : Store × Pass) : Prop where
  /-- They left the same store. -/
  store : a.1 = b.1
  /-- They tell of the same compactions. -/
  compacted : a.2.compacted.Perm b.2.compacted
  /-- And of the same failures. -/
  failed : a.2.failed.Perm b.2.failed

namespace Store

variable {d e : Day} {days others : List Day}

/-- **A pass may take its days in any order.** -/
theorem sameWork_of_perm (s : Store) (now : Instant) (h : days.Perm others) :
    SameWork (s.compactEach days now) (s.compactEach others now) := by
  rw [compactEach_eq, compactEach_eq]
  refine ⟨h.foldl_eq' (fun d _ e _ t => ?_) s, ?_, ?_⟩
  · by_cases he : e = d
    · rw [he]
    · exact (commutes_compactions t he now now).store
  · exact (h.map _).filterMap _
  · exact (h.map _).filterMap _

/-- **Compactions are idempotent and independent.**  On every store, a compaction can be
repeated if no fact of its day came in between, and it commutes with the compactions
of other days and with the visits on them.  So the order in which a pass or a repair
takes its days does not matter. -/
theorem compactions_independent (s : Store) (d : Day) (now : Instant) :
    (∀ as now', ((s.compactInTransaction d now).1.runAll as).factsOn d = s.factsOn d →
        Repeats d now now' (s.compactInTransaction d now).2 (s.compactInTransaction d now).1
          ((s.compactInTransaction d now).1.runAll as)) ∧
      (∀ e now', e ≠ d →
        s.Commutes (·.compactInTransaction d now) (·.compactInTransaction e now')) ∧
      (∀ (v : Visit) (clock : Instant), (v.time clock).day ≠ d →
        s.Commutes (·.compactInTransaction d now)
          (·.record v.event v.attributes v.policy clock)) ∧
      (∀ lookback days, days.Perm (s.passDays now lookback) →
        SameWork (s.compactEach days now) (s.runPass now lookback)) ∧
      (∀ lookback days, days.Perm (s.repairDays now lookback) →
        SameWork (s.compactEach days now) (s.runRepair now lookback)) := by
  refine ⟨fun as now' => s.repeats_of_factsOn d now now', fun e now' he => ?_,
    fun v clock hv => ?_, fun lookback days hdays => ?_, fun lookback days hdays => ?_⟩
  · exact s.commutes_compactions he now now'
  · exact s.commutes_record hv now
  · exact s.sameWork_of_perm now hdays
  · rw [runRepair_eq]
    exact s.sameWork_of_perm now hdays

/-- The visitor's return three days later changes nothing in the day of the two
visitors, and a pass may take that day before yesterday. -/
theorem independent_on_twoVisitors :
    (∀ s', s' = (twoVisitors.compactInTransaction (sampleDay 0)
        (.midnight (sampleDay 3))).1.runAll [viewOn (sampleDay 3) "blog" "/"] →
      s'.compactInTransaction (sampleDay 0) (.midnight (sampleDay 4)) =
        (s'.restamped (sampleDay 0) (.midnight (sampleDay 4)), .ok ⟨sampleDay 0, 3, 2, 3⟩)) ∧
      twoVisitors.Commutes
        (·.compactInTransaction (sampleDay 0) (.midnight (sampleDay 3)))
        (·.compactInTransaction (sampleDay 1) (.midnight (sampleDay 2))) ∧
      SameWork (twoVisitors.compactEach [sampleDay 0, sampleDay 2] (.midnight (sampleDay 3)))
        (twoVisitors.runPass (.midnight (sampleDay 3)) 7) := by
  obtain ⟨hrepeat, hdays, -, hpass, -⟩ :=
    compactions_independent twoVisitors (sampleDay 0) (.midnight (sampleDay 3))
  have hfirst := compactInTransaction_of_ok compactDay_twoVisitors
  have hfacts : ((twoVisitors.compactInTransaction (sampleDay 0)
      (.midnight (sampleDay 3))).1.runAll [viewOn (sampleDay 3) "blog" "/"]).factsOn (sampleDay 0) =
        twoVisitors.factsOn (sampleDay 0) := by
    have hother : ((Visit.plain "blog" "/" (.midnight (sampleDay 3)) 7).time
        (.midnight (sampleDay 3))).day ≠ sampleDay 0 := by decide
    exact (factsOn_record _ hother).trans
      (AnswersAlike.compaction (sampleDay 0) twoVisitors _ _).factsOn
  refine ⟨?_, hdays _ _ (by decide), hpass 7 _ ?_⟩
  · rintro s' rfl
    have hagain := (hrepeat _ (.midnight (sampleDay 4)) hfacts).again _
      (congrArg Prod.snd hfirst) (by decide)
    rw [Instant.toTimestamp_midnight] at hagain
    exact hagain
  · have hyesterday : (Instant.midnight (sampleDay 3)).day.pred? = some (sampleDay 2) := by decide
    rw [passDays_eq hyesterday staleDays_twoVisitors]
    exact List.Perm.swap _ _ _

end Store

end Footfall
