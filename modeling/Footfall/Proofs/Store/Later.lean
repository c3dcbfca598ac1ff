import Mathlib
import Footfall.Proofs.Rollup.Episodes
import Footfall.Proofs.Store.Migration
import Footfall.Proofs.Visit.Classification

/-!
# What becomes of reference rows

Rows are appended to a reference table and never changed or taken away, neither by calls
that succeed or fail nor by migrations.  A key is looked up from the first row on.  So a
key that was found once is found under the same id ever after.  Nothing is asked of the
store but that its tables stand; its rows may be numbered in any way.

## Main Definitions

* `Store.Later` — a store with all tables and the reference rows of an earlier one

## Main Statements

* `Store.later_step`, `Store.later_undergo` — what any episodes leave is such a store
* `Store.Later.resolve_eq` — keys that were found are found again, and no row is created
-/

namespace Footfall

namespace Store

/-- **A later store has the reference rows of an earlier one in front**, and all tables. -/
structure Later (s t : Store) : Prop where
  /-- Every table stands. -/
  complete : t.Complete
  /-- Rows stay, in their order. -/
  rows : ∀ d, s.rowsOf d <+: t.rowsOf d

variable {s t u : Store}

theorem later_refl (c : s.Complete) : s.Later s :=
  ⟨c, fun _ => List.prefix_refl _⟩

@[trans] theorem Later.trans (h : s.Later t) (h' : t.Later u) : s.Later u :=
  ⟨h'.complete, fun d => (h.rows d).trans (h'.rows d)⟩

/-! ## Calls -/

theorem later_withRow (c : s.Complete) (k : NaturalKey) : s.Later (s.withRow k) :=
  ⟨complete_withRow c, (grown_withRow s k).rows⟩

theorem later_withFact (c : s.Complete) (time : Timestamp) (site : String) (visitor : ℕ)
    (ids : PerDimension (Option ℤ)) : s.Later (s.withFact time site visitor ids) :=
  ⟨complete_withFact c time site visitor ids, fun _ => List.prefix_refl _⟩

/-- A resolution appends a row at most. -/
theorem later_resolve (c : s.Complete) (k : NaturalKey) : s.Later (s.resolve k).1 := by
  cases valid : k.validate with
  | error fault =>
      rw [resolve_of_invalid valid]
      exact later_refl c
  | ok u =>
      cases hfind : (s.rowsOf k.dimension).find? k.names with
      | some row =>
          rw [resolve_of_find (c.dimensions _) valid hfind]
          exact later_refl c
      | none =>
          rw [resolve_of_absent (c.dimensions _) valid hfind]
          exact later_withRow c k

/-- Resolving all dimensions appends a row to each table at most. -/
theorem later_run (c : s.Complete) {values : PerDimension (Option String)}
    (nonempty : ∀ d value, values.get d = some value → value ≠ "") :
    s.Later (Recording.run s values).store := by
  have classified := Recording.classifies_run s nonempty
  have hdimension : ∀ d, (Recording.run s values).store.dimensions.get d =
      .table ((Recording.run s values).store.rowsOf d) ∧
        s.rowsOf d <+: (Recording.run s values).store.rowsOf d := by
    intro d
    have hsame : (Recording.run s values).store.dimensions.get d = s.dimensions.get d →
        (Recording.run s values).store.dimensions.get d =
          .table ((Recording.run s values).store.rowsOf d) ∧
        s.rowsOf d <+: (Recording.run s values).store.rowsOf d := by
      intro h
      rw [rowsOf, rowsOf, h]
      exact ⟨c.dimensions d, List.prefix_refl _⟩
    cases hid : (Recording.run s values).ids.get d with
    | none => exact hsame (classified.untouched d hid).1
    | some id =>
        obtain ⟨value, -, -, hrows⟩ := classified.ids d id hid
        rcases hrows with h | ⟨rows, hbefore, hafter⟩
        · exact hsame h
        · rw [rowsOf, rowsOf, hafter, hbefore]
          exact ⟨rfl, List.prefix_append _ _⟩
  refine ⟨⟨fun d => (hdimension d).1, ?_, ?_, ?_, ?_⟩, fun d => (hdimension d).2⟩
  all_goals rw [Recording.store_run_eq]
  · exact c.facts
  · exact c.daily
  · exact c.hourly
  · exact c.watermarks

theorem later_record (c : s.Complete) (v : Visit) (now : Instant) :
    s.Later (s.record v.event v.attributes v.policy now).1 := by
  have hrun := later_run c v.values_ne_empty
  have ends := s.disposes_record v now
  generalize Recording.run s v.values = r at hrun ends
  generalize s.record v.event v.attributes v.policy now = result at ends
  cases ends with
  | refused invalid fault => exact later_refl c
  | dropped valid policy noted => exact hrun
  | unwritten valid kept unfit cause => exact hrun
  | written valid kept storable stands => exact hrun.trans (later_withFact hrun.complete _ _ _ _)

/-- **Every action keeps the reference rows.** -/
theorem later_step (c : s.Complete) (a : Action) : s.Later (a.run s) := by
  cases a with
  | record v now => exact later_record c v now
  | resolve k => exact later_resolve c k
  | compact d now =>
      simp only [Action.run]
      cases hday : s.compactDay d now with
      | ok result =>
          obtain ⟨-, -, hstore, -⟩ := compactDay_eq_ok_iff.mp hday
          dsimp only
          rw [hstore]
          exact ⟨complete_compacted c d now, fun _ => List.prefix_refl _⟩
      | error e => exact later_refl c

theorem later_runAll (c : s.Complete) (as : List Action) : s.Later (s.runAll as) := by
  induction as generalizing s with
  | nil => exact later_refl c
  | cons a as ih => exact (later_step c a).trans (ih (later_step c a).complete)

/-! ## Migrations -/

/-- The migrations take nothing away, however they end. -/
theorem extends_migrate (s : Store) : s.Extends s.migrate.1 := by
  have hcreate := extends_createVersions s
  cases hv : s.createVersions.version with
  | error e =>
      rw [migrate_of_unreadable hv]
      exact hcreate
  | ok v =>
      by_cases hle : v ≤ latestVersion
      · rw [migrate_of_le hv hle]
        rcases s.createVersions.exists_applied_applySteps (missing v) with
          ⟨t, hsteps, applied⟩ | ⟨t, e, done, m, rest, hsteps, hmissing, applied, -⟩
        · rw [hsteps]
          exact hcreate.trans (applied.extends (missing_subset v))
        · rw [hsteps]
          refine hcreate.trans (applied.extends fun m' hm' => missing_subset v ?_)
          rw [hmissing]
          exact List.mem_append_left _ hm'
      · rw [migrate]
        simp only [hv, if_pos (Nat.lt_of_not_le hle)]
        exact hcreate

/-- Where all tables stand, there is nothing to create. -/
theorem Extends.later (h : s.Extends t) (c : s.Complete) : s.Later t := by
  have hstays : ∀ {α : Type} {empty rows : α} {before after : Slot α}, before = .table rows →
      Slot.Stays empty before after → after = before := by
    rintro α empty rows before after htable (hsame | ⟨habsent, -⟩)
    · exact hsame
    · rw [htable] at habsent
      cases habsent
  have hdimensions : ∀ d, t.dimensions.get d = s.dimensions.get d := fun d =>
    hstays (c.dimensions d) (h.dimensions d)
  have hfacts := hstays c.facts h.facts
  have hdaily := hstays c.daily h.daily
  have hhourly := hstays c.hourly h.hourly
  have hwatermarks := hstays c.watermarks h.watermarks
  refine ⟨⟨fun d => ?_, ?_, ?_, ?_, ?_⟩, fun d => ?_⟩
  · rw [rowsOf, hdimensions]
    exact c.dimensions d
  · rw [factList, hfacts]
    exact c.facts
  · rw [dailyTable, hdaily]
    exact c.daily
  · rw [hourlyTable, hhourly]
    exact c.hourly
  · rw [marks, hwatermarks]
    exact c.watermarks
  · rw [rowsOf, rowsOf, hdimensions]

theorem later_episode (c : s.Complete) (e : Episode) : s.Later (e.run s) := by
  cases e with
  | operation op => exact later_runAll c (s.actions op)
  | migrate => exact (extends_migrate s).later c

/-- **Whatever happens to a store, it keeps its reference rows.** -/
theorem later_undergo (c : s.Complete) (es : List Episode) : s.Later (s.undergo es) := by
  induction es generalizing s with
  | nil => exact later_refl c
  | cons e es ih => exact (later_episode c e).trans (ih (later_episode c e).complete)

/-! ## Keys that were found -/

/-- **A key that was found is found again under the same id**, and no row is created. -/
theorem Later.resolve_eq (h : s.Later t) {k : NaturalKey} {row : DimensionRow}
    (valid : k.validate = .ok ()) (found : (s.rowsOf k.dimension).find? k.names = some row) :
    t.resolve k = (t, .ok row.id) :=
  resolve_of_find (h.complete.dimensions _) valid
    (List.IsPrefix.find?_eq_some (h.rows k.dimension) found)

end Store

end Footfall
