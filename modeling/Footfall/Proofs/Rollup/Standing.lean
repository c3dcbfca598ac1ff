import Mathlib
import Footfall.Proofs.Rollup.Transaction
import Footfall.Proofs.Visit.Footprint

/-!
# What a compaction answers

A compaction answers by the facts of its day and by the tables that it finds.  No
call takes a table away or puts one up, not even a call that fails.  So as long as
no fact of its day is added, a compaction has the same answer after any calls.

## Main Definitions

* `FailsAlike` — two readings fail with the same error, or neither of them fails
* `Store.StandsAlike` — two stores have the same tables, whatever their rows
* `Store.AnswersAlike` — two stores whose compactions of a day answer the same

## Main Statements

* `Store.StandsAlike.run` — calls put up no table and take none away
* `Store.AnswersAlike.answer_eq` — compactions of a day that answer the same
* `Store.factsOn_isPrefix_runAll` — calls only add facts to a day
-/

namespace Footfall

/-! ## Failures -/

section Failures

variable {ε α β γ δ : Type}

/-- Two readings fail with the same error, or neither of them fails. -/
def FailsAlike (x : Except ε α) (y : Except ε β) : Prop :=
  ∀ e, x = .error e ↔ y = .error e

theorem FailsAlike.ok (a : α) (b : β) : FailsAlike (ε := ε) (.ok a) (.ok b) :=
  fun _ => iff_of_false (by simp) (by simp)

theorem FailsAlike.error (e : ε) : FailsAlike (.error e : Except ε α) (.error e : Except ε β) :=
  fun _ => by rw [Except.error.injEq, Except.error.injEq]

theorem FailsAlike.bind {x : Except ε α} {y : Except ε β} {f : α → Except ε γ}
    {g : β → Except ε δ} (h : FailsAlike x y) (hfg : ∀ a b, FailsAlike (f a) (g b)) :
    FailsAlike (x >>= f) (y >>= g) := by
  cases x with
  | error e =>
      rw [(h e).mp rfl]
      exact .error e
  | ok a =>
      cases y with
      | error e => exact absurd ((h e).mpr rfl) (by simp)
      | ok b => exact hfg a b

theorem FailsAlike.mapError {ε' : Type} {x : Except ε α} {y : Except ε β} (h : FailsAlike x y)
    (f : ε → ε') : FailsAlike (x.mapError f) (y.mapError f) := by
  cases x with
  | error e =>
      rw [(h e).mp rfl]
      exact .error (f e)
  | ok a =>
      cases y with
      | error e => exact absurd ((h e).mpr rfl) (by simp)
      | ok b => exact .ok a b

theorem FailsAlike.exists_ok {x : Except ε α} {y : Except ε β} (h : FailsAlike x y) {b : β}
    (hy : y = .ok b) : ∃ a, x = .ok a := by
  cases x with
  | error e => exact absurd (hy.symm.trans ((h e).mp rfl)) (by simp)
  | ok a => exact ⟨a, rfl⟩

end Failures

namespace Store

variable {s s' s'' : Store} {d : Day} {now : Instant}

/-! ## Tables -/

/-- **Two stores have the same tables** among those of a compaction. -/
structure StandsAlike (s s' : Store) : Prop where
  /-- Facts can be read in both of them, or in neither for the same reason. -/
  facts : FailsAlike s'.factRows s.factRows
  /-- So can the rollup by day. -/
  daily : FailsAlike s'.dailyRows s.dailyRows
  /-- And the rollup by hour. -/
  hourly : FailsAlike s'.hourlyRows s.hourlyRows
  /-- And the watermarks. -/
  watermarks : FailsAlike s'.watermarkRows s.watermarkRows

@[refl] theorem StandsAlike.refl (s : Store) : s.StandsAlike s where
  facts _ := Iff.rfl
  daily _ := Iff.rfl
  hourly _ := Iff.rfl
  watermarks _ := Iff.rfl

@[trans] theorem StandsAlike.trans (h : s.StandsAlike s') (h' : s'.StandsAlike s'') :
    s.StandsAlike s'' where
  facts e := (h'.facts e).trans (h.facts e)
  daily e := (h'.daily e).trans (h.daily e)
  hourly e := (h'.hourly e).trans (h.hourly e)
  watermarks e := (h'.watermarks e).trans (h.watermarks e)

theorem standsAlike_compacted (ready : s.Ready) (d : Day) (now : Instant) :
    s.StandsAlike (s.compacted d now) where
  facts _ := Iff.rfl
  daily := by
    rw [ready.dailyRows]
    exact .ok _ _
  hourly := by
    rw [ready.hourlyRows]
    exact .ok _ _
  watermarks := by
    rw [ready.watermarkRows]
    exact .ok _ _

/-- A compaction counts its day, or it changes nothing. -/
theorem compactInTransaction_fst_cases (s : Store) (d : Day) (now : Instant) :
    (s.compactInTransaction d now).1 = s ∨
      s.Ready ∧ (s.compactInTransaction d now).1 = s.compacted d now := by
  cases hday : s.compactDay d now with
  | ok result =>
      obtain ⟨ready, -, hstore, -⟩ := compactDay_eq_ok_iff.mp hday
      rw [compactInTransaction_of_ok hday]
      exact .inr ⟨ready, hstore⟩
  | error e =>
      rw [compactInTransaction_of_error hday]
      exact .inl rfl

/-- A compaction leaves the tables that it found, whether it succeeds or not. -/
theorem StandsAlike.compaction (s : Store) (d : Day) (now : Instant) :
    s.StandsAlike (s.compactInTransaction d now).1 := by
  rcases s.compactInTransaction_fst_cases d now with hstore | ⟨ready, hstore⟩
  · rw [hstore]
  · rw [hstore]
    exact standsAlike_compacted ready d now

theorem StandsAlike.resolve (s : Store) (k : NaturalKey) : s.StandsAlike (s.resolve k).1 := by
  rw [resolve_fst_eq]
  generalize (s.resolve k).1 = t
  exact ⟨fun _ => Iff.rfl, fun _ => Iff.rfl, fun _ => Iff.rfl, fun _ => Iff.rfl⟩

/-- A record call adds to facts that can be read. -/
theorem StandsAlike.record (s : Store) (v : Visit) (now : Instant) :
    s.StandsAlike (s.record v.event v.attributes v.policy now).1 := by
  have hrollups := record_fst_eq s v.event v.attributes v.policy now
  have hfacts := facts_record s v now
  generalize (s.record v.event v.attributes v.policy now).1 = s' at hrollups hfacts
  refine ⟨?_, ?_, ?_, ?_⟩
  · unfold factRows
    rcases hfacts with hfacts | ⟨rows, f, hbefore, -, -, hafter⟩
    · rw [hfacts]
      exact fun _ => Iff.rfl
    · rw [hbefore, hafter]
      exact .ok _ _
  all_goals
    rw [hrollups]
    exact fun _ => Iff.rfl

theorem run_compact_eq (s : Store) (d : Day) (now : Instant) :
    (Action.compact d now).run s = (s.compactInTransaction d now).1 := by
  rw [compactInTransaction_eq, Action.run]
  cases s.compactDay d now with
  | ok result => rfl
  | error e => rfl

/-- **Calls put up no table and take none away.** -/
theorem StandsAlike.run (s : Store) (a : Action) : s.StandsAlike (a.run s) := by
  cases a with
  | record v now => exact .record s v now
  | resolve k => exact .resolve s k
  | compact d now =>
      rw [run_compact_eq]
      exact .compaction s d now

/-! ## Facts -/

/-- A compaction adds no fact. -/
theorem facts_compaction (s : Store) (d : Day) (now : Instant) :
    (s.compactInTransaction d now).1.facts = s.facts := by
  rcases s.compactInTransaction_fst_cases d now with hstore | ⟨-, hstore⟩
  · rw [hstore]
  · rw [hstore]
    rfl

theorem factsOn_congr (h : s'.facts = s.facts) (d : Day) : s'.factsOn d = s.factsOn d := by
  rw [factsOn, factList, h, ← factList, ← factsOn]

/-- A record call adds a fact to the day of the visit at most. -/
theorem factsOn_record (s : Store) {v : Visit} {now : Instant} (h : (v.time now).day ≠ d) :
    (s.record v.event v.attributes v.policy now).1.factsOn d = s.factsOn d := by
  rcases facts_record s v now with hfacts | ⟨rows, f, hbefore, storable, htime, hafter⟩
  · exact factsOn_congr hfacts d
  · have hother : ¬ f.time.OnDay d := by
      rw [htime, Timestamp.OnDay, Instant.dayNumber_toTimestamp storable]
      exact fun heq => h (Day.eq_of_number heq)
    simp only [factsOn, factList, hafter, hbefore, Slot.rowsOr, List.filter_append,
      List.filter_cons, List.filter_nil, hother, decide_false, Bool.false_eq_true, if_false,
      List.append_nil]

/-- A call only adds facts to a day. -/
theorem factsOn_isPrefix_run (s : Store) (a : Action) (d : Day) :
    s.factsOn d <+: (a.run s).factsOn d := by
  cases a with
  | record v now =>
      rw [Action.run]
      rcases facts_record s v now with hfacts | ⟨rows, f, hbefore, -, -, hafter⟩
      · rw [factsOn_congr hfacts]
      · simp only [factsOn, factList, hafter, hbefore, Slot.rowsOr]
        exact (List.prefix_append rows [f]).filter _
  | resolve k =>
      rw [Action.run, resolve_fst_eq]
      exact List.prefix_refl _
  | compact e now => rw [run_compact_eq, factsOn_congr (facts_compaction s e now)]

/-- **Calls only add facts to a day.** -/
theorem factsOn_isPrefix_runAll (s : Store) (as : List Action) (d : Day) :
    s.factsOn d <+: (s.runAll as).factsOn d := by
  induction as generalizing s with
  | nil => exact List.prefix_refl _
  | cons a as ih => exact (factsOn_isPrefix_run s a d).trans (ih (a.run s))

/-- If calls add no fact to a day, the first of them does not. -/
theorem factsOn_run_of_cons {a : Action} {as : List Action}
    (h : (s.runAll (a :: as)).factsOn d = s.factsOn d) :
    (a.run s).factsOn d = s.factsOn d ∧
      ((a.run s).runAll as).factsOn d = (a.run s).factsOn d := by
  have hfirst := factsOn_isPrefix_run s a d
  have hrest := factsOn_isPrefix_runAll (a.run s) as d
  rw [← runAll_cons, h] at hrest
  have hsame : (a.run s).factsOn d = s.factsOn d :=
    hrest.eq_of_length_le hfirst.length_le
  exact ⟨hsame, h.trans hsame.symm⟩

/-! ## Answers -/

/-- **Two stores whose compactions of a day answer the same.** -/
structure AnswersAlike (d : Day) (s s' : Store) : Prop extends StandsAlike s s' where
  /-- The facts of the day are the same. -/
  factsOn : s'.factsOn d = s.factsOn d

theorem AnswersAlike.refl (d : Day) (s : Store) : AnswersAlike d s s :=
  ⟨.refl s, rfl⟩

theorem AnswersAlike.trans (h : AnswersAlike d s s') (h' : AnswersAlike d s' s'') :
    AnswersAlike d s s'' :=
  ⟨h.toStandsAlike.trans h'.toStandsAlike, h'.factsOn.trans h.factsOn⟩

/-- After a compaction, all days answer as they did before. -/
theorem AnswersAlike.compaction (d : Day) (s : Store) (e : Day) (now : Instant) :
    AnswersAlike d s (s.compactInTransaction e now).1 :=
  ⟨.compaction s e now, factsOn_congr (facts_compaction s e now) d⟩

theorem AnswersAlike.record (s : Store) {v : Visit} {now : Instant} (h : (v.time now).day ≠ d) :
    AnswersAlike d s (s.record v.event v.attributes v.policy now).1 :=
  ⟨.record s v now, factsOn_record s h⟩

/-- A day answers the same after calls that add no fact to it. -/
theorem AnswersAlike.runAll {as : List Action}
    (h : (s.runAll as).factsOn d = s.factsOn d) : AnswersAlike d s (s.runAll as) := by
  induction as generalizing s with
  | nil => exact .refl d s
  | cons a as ih =>
      obtain ⟨hfirst, hrest⟩ := factsOn_run_of_cons h
      exact .trans ⟨.run s a, hfirst⟩ (ih hrest)

theorem StandsAlike.ready (h : s.StandsAlike s') (ready : s.Ready) : s'.Ready := by
  obtain ⟨facts, hfacts⟩ := h.facts.exists_ok ready.factRows
  obtain ⟨daily, hdaily⟩ := h.daily.exists_ok ready.dailyRows
  obtain ⟨hourly, hhourly⟩ := h.hourly.exists_ok ready.hourlyRows
  obtain ⟨marks, hmarks⟩ := h.watermarks.exists_ok ready.watermarkRows
  exact ⟨⟨Slot.eq_table_of_read hfacts, Slot.eq_table_of_read hmarks⟩,
    Slot.eq_table_of_read hdaily, Slot.eq_table_of_read hhourly⟩

/-- Writing a day fails by the tables that it meets, in their order. -/
theorem StandsAlike.writeDay (h : s.StandsAlike s') (d : Day) (start stop now : Instant) :
    FailsAlike (s'.writeDay d start stop now) (s.writeDay d start stop now) := by
  unfold Store.writeDay factsBetween
  refine .bind (fun _ => Iff.rfl) fun first first' => ?_
  refine .bind (fun _ => Iff.rfl) fun last last' => ?_
  refine .bind (.bind h.facts fun _ _ => .ok _ _) fun facts facts' => ?_
  refine .bind h.daily fun daily daily' => ?_
  refine .bind h.hourly fun hourly hourly' => ?_
  refine .bind h.watermarks fun marks marks' => ?_
  exact .bind (fun _ => Iff.rfl) fun clock clock' => .ok _ _

theorem StandsAlike.compactDay (h : s.StandsAlike s') (d : Day) (now : Instant) :
    FailsAlike (s'.compactDay d now) (s.compactDay d now) := by
  by_cases hle : now.day ≤ d
  · rw [compactDay_of_le hle, compactDay_of_le hle]
    exact fun _ => Iff.rfl
  · obtain ⟨next, hnext, hday⟩ := compactDay_of_lt (s := s) (Day.not_le.mp hle)
    obtain ⟨next', hnext', hday'⟩ := compactDay_of_lt (s := s') (Day.not_le.mp hle)
    obtain rfl : next = next' := Option.some.inj (hnext.symm.trans hnext')
    rw [hday, hday']
    exact (h.writeDay d (.midnight d) (.midnight next) now).mapError _

/-- **Compactions of a day that answer the same.** -/
theorem AnswersAlike.answer_eq (h : AnswersAlike d s s') (now : Instant) :
    (s'.compactInTransaction d now).2 = (s.compactInTransaction d now).2 := by
  cases hday : s.compactDay d now with
  | error e =>
      have hday' := (h.toStandsAlike.compactDay d now e).mpr hday
      rw [compactInTransaction_of_error hday, compactInTransaction_of_error hday']
  | ok result =>
      obtain ⟨ready, compactable, -, hreport⟩ := compactDay_eq_ok_iff.mp hday
      have hday' := compactDay_eq_ok_iff.mpr
        ⟨h.toStandsAlike.ready ready, compactable, rfl, rfl⟩
      rw [compactInTransaction_of_ok hday, compactInTransaction_of_ok hday', hreport, report,
        report, h.factsOn]

end Store

end Footfall
