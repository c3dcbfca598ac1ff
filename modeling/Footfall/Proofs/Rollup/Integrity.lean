import Mathlib
import Footfall.Proofs.Rollup.Episodes
import Footfall.Proofs.Store.Resolvers

/-!
# References are intact

The schema declares no foreign keys.  That an id in a fact leads to a row, and a
city to a region of the country of the fact, follows from the order in which a
visit resolves its dimensions, and stays so because reference tables only grow.
Rollups take their ids from facts, with zero for an absent one, which is nobody's
id.

Anyone may resolve a region under the id of a country that does not exist yet.
Such a row is harmless: a fact refers to a region only under its own country.

## Main Definitions

* `Store.Anchored` — ids lead to one row each, with the chain of parents
* `RollupKey.references` — the ids of a row of a rollup, none for zero
* `Store.Intact` — the ids of all facts and rollup rows are anchored

## Main Statements

* `Store.Healthy.step` — every action keeps reference tables healthy
* `Store.Healthy.anchored` — in healthy tables, ids that lead to rows are anchored
* `Store.references_intact` — references are intact in every reachable state
-/

namespace Footfall

/-! ## Reference tables stay healthy -/

namespace Store

variable {s s' : Store}

/-- Health is a matter of the reference tables and their sequences. -/
theorem Healthy.congr (h : s.Healthy) (complete : s'.Complete)
    (dimensions : s'.dimensions = s.dimensions) (ids : s'.dimensionIds = s.dimensionIds) :
    s'.Healthy := by
  have hrows : ∀ d, s'.rowsOf d = s.rowsOf d := fun d => by
    rw [rowsOf, dimensions, rowsOf]
  refine ⟨complete, fun d => ?_, fun d => ?_, fun d => ?_⟩
  · rw [hrows, ids]
    exact h.numbered d
  · rw [hrows]
    exact h.once d
  · rw [hrows]
    exact h.parents d

theorem Healthy.resolve (h : s.Healthy) (k : NaturalKey) : (s.resolve k).1.Healthy := by
  cases valid : k.validate with
  | error fault =>
      rw [resolve_of_invalid valid]
      exact h
  | ok u =>
      cases hfind : (s.rowsOf k.dimension).find? k.names with
      | some r =>
          rw [resolve_of_find (h.complete.dimensions _) valid hfind]
          exact h
      | none =>
          rw [resolve_of_absent (h.complete.dimensions _) valid hfind]
          exact (Tried.created hfind).healthy h valid

end Store

namespace Recording

variable {r : Recording} {values : PerDimension (Option String)}

theorem healthy_resolve (h : r.store.Healthy) (k : NaturalKey) :
    (r.resolve k).store.Healthy := by
  have hstore : (r.resolve k).store = (r.store.resolve k).1 := by
    unfold Recording.resolve
    split
    · next heq => rw [heq]
    · next heq =>
      rw [heq]
      rfl
  rw [hstore]
  exact h.resolve k

/-- Whether a dimension is resolved, missed or passed over. -/
theorem healthy_advance (h : r.store.Healthy) (d : Dimension) :
    (r.advance values d).store.Healthy := by
  unfold advance
  split
  · exact h
  · split
    · exact healthy_resolve h _
    · split
      · exact healthy_resolve h _
      · exact h

theorem healthy_foldl (h : r.store.Healthy) (dimensions : List Dimension) :
    (dimensions.foldl (advance values) r).store.Healthy := by
  induction dimensions generalizing r with
  | nil => exact h
  | cons d dimensions ih => exact ih (healthy_advance h d)

theorem healthy_run {s : Store} (h : s.Healthy) (values : PerDimension (Option String)) :
    (run s values).store.Healthy :=
  healthy_foldl (r := start s) h Dimension.all

end Recording

namespace Store

variable {s : Store}

/-- A visit resolves its dimensions, and appends a fact at most. -/
theorem Healthy.record (h : s.Healthy) (e : Event) (attrs : Attributes) (policy : Policy)
    (now : Instant) : (s.record e attrs policy now).1.Healthy := by
  have hrun := Recording.healthy_run h (e.values attrs)
  unfold Store.record
  generalize Recording.run s (e.values attrs) = r at hrun
  split
  · exact h
  split
  · exact h
  dsimp only
  split
  · exact hrun
  split
  · exact hrun
  · next s' id hwrite =>
    by_cases storable : (e.time.getD now).Storable
    · rw [writeFact_of_storable hrun.complete.facts storable] at hwrite
      cases hwrite
      exact hrun.congr (complete_withFact hrun.complete _ _ _ _) rfl rfl
    · rw [writeFact_of_not_storable storable] at hwrite
      cases hwrite

/-- **Every action keeps reference tables healthy.** -/
theorem Healthy.step (h : s.Healthy) (a : Action) : (a.run s).Healthy := by
  cases a with
  | record v now => exact h.record v.event v.attributes v.policy now
  | resolve k => exact h.resolve k
  | compact d now =>
      simp only [Action.run]
      cases hday : s.compactDay d now with
      | ok result =>
          obtain ⟨s', r⟩ := result
          obtain ⟨-, -, rfl, -⟩ := compactDay_eq_ok_iff.mp hday
          exact h.congr (complete_compacted h.complete d now) rfl rfl
      | error e => exact h

theorem Healthy.runAll (h : s.Healthy) (as : List Action) : (s.runAll as).Healthy := by
  induction as generalizing s with
  | nil => exact h
  | cons a as ih => exact ih (h.step a)

/-! ## Anchored ids -/

/-- **Each id is positive and belongs to exactly one row.**  If the dimension has a
parent, there is an id of the parent too, and it is the one that scopes the row. -/
def Anchored (s : Store) (ids : PerDimension (Option ℤ)) : Prop :=
  ∀ d id, ids.get d = some id → 1 ≤ id ∧
    ∃ row, (s.rowsOf d).filter (·.id = id) = [row] ∧
      ∀ up, d.parent? = some up → ∃ above, ids.get up = some above ∧ row.parent = some above

/-- The row of an id, which no other row has. -/
theorem Healthy.filter_id (h : s.Healthy) {d : Dimension} {row : DimensionRow}
    (hrow : row ∈ s.rowsOf d) : (s.rowsOf d).filter (·.id = row.id) = [row] := by
  have honly : (s.rowsOf d).filter (·.id = row.id) = (s.rowsOf d).filter (· = row) := by
    refine List.filter_congr fun r hr => decide_eq_decide.mpr ⟨fun heq => ?_, fun heq => heq ▸ rfl⟩
    exact (h.numbered d).ids r hr row hrow heq
  rw [honly, List.filter_eq, List.count_eq_one_of_mem (h.once d) hrow, List.replicate_one]

/-- **In healthy tables, ids that lead to rows are anchored.** -/
theorem Healthy.anchored (h : s.Healthy) {ids : PerDimension (Option ℤ)} (holds : s.Holds ids) :
    s.Anchored ids := by
  intro d id hid
  obtain ⟨row, hrow, rfl, hparent⟩ := holds d id hid
  refine ⟨((h.numbered d).bounds row hrow).1, row, h.filter_id hrow, fun up hup => ?_⟩
  -- a row of a dimension with a parent has one, which is that of the ids
  have hsome := h.parents d row hrow
  rw [hup, Option.isSome_some, Option.isSome_iff_exists] at hsome
  obtain ⟨above, habove⟩ := hsome
  rw [habove, hup, Option.bind_some] at hparent
  exact ⟨above, hparent.symm, habove⟩

end Store

/-! ## Ids of rollups -/

/-- The ids of a row of a rollup, none where zero stands for none. -/
def RollupKey.references (k : RollupKey) : PerDimension (Option ℤ) :=
  k.ids.map fun id => if id = 0 then none else some id

/-- The row of a fact has the ids of the fact. -/
theorem Store.Anchored.references_key {s : Store} {f : Fact} (h : s.Anchored f.ids)
    (g : Granularity) : (f.key g).references = f.ids := by
  ext1 d
  rw [RollupKey.references, Fact.key, PerDimension.get_map, PerDimension.get_map]
  cases hid : f.ids.get d with
  | none => rfl
  | some id =>
      have hpos := (h d id hid).1
      rw [Option.getD_some, if_neg (by omega)]

/-! ## Reachable states -/

namespace Store

/-- **The ids of all facts and of all rows of the rollups are anchored.** -/
structure Intact (s : Store) : Prop where
  /-- Reference tables stand, and their ids and keys are unique. -/
  healthy : s.Healthy
  /-- The ids of facts. -/
  facts : ∀ f ∈ s.factList, s.Anchored f.ids
  /-- The ids of daily rows. -/
  daily : ∀ r ∈ s.dailyTable.rows, s.Anchored r.1.references
  /-- The ids of hourly rows. -/
  hourly : ∀ r ∈ s.hourlyTable.rows, s.Anchored r.1.references

/-- The rows of counted facts refer to what the facts refer to. -/
theorem anchored_of_mem_rows {x : Account} (h : x.Balanced) (healthy : x.store.Healthy)
    {g : Granularity} {t : Rollup} (rows : ∀ k, t.get? k = Rollup.row? g x.counted k)
    {r : RollupKey × Measures} (hr : r ∈ t.rows) : x.store.Anchored r.1.references := by
  obtain ⟨f, hf, hkey⟩ := Rollup.exists_fact_of_mem_rows rows hr
  have hanchored := healthy.anchored (h.holds f (h.known f hf))
  rw [← hkey, hanchored.references_key]
  exact hanchored

/-- **References are intact in every reachable state.** -/
theorem references_intact (es : List Episode) : (migrated.undergo es).Intact := by
  obtain ⟨as, has⟩ := Account.balanced_opening.exists_run_of_undergo current_migrated es
  have hbalanced := Account.balanced_run as
  have hhealthy : (Account.opening.run as).store.Healthy := by
    rw [Account.store_run_opening]
    exact healthy_migrated.runAll as
  rw [show migrated.undergo es = (Account.opening.run as).store from has]
  exact {
    healthy := hhealthy
    facts := fun f hf => hhealthy.anchored (hbalanced.holds f hf)
    daily := fun r hr => anchored_of_mem_rows hbalanced hhealthy hbalanced.daily hr
    hourly := fun r hr => anchored_of_mem_rows hbalanced hhealthy hbalanced.hourly hr }

end Store

end Footfall
