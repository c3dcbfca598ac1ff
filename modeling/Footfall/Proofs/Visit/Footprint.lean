import Mathlib
import Footfall.Proofs.Visit.Sighting

/-!
# The footprint of a visit

A record call resolves dimensions in the reference tables and appends a fact.  It
looks at no rollup and at no watermark, and it leaves both as they are.  To say so
once for reading and for writing, a call is compared with the same call on a store
in which the other tables are exchanged: it answers the same, and the exchange can
as well be made afterwards.

Nothing is asked of the store.  Tables may be missing, and reference tables may be
numbered in any way.

## Main Definitions

* `Store.withReferencesOf` — a store with the reference tables of another one
* `Store.withRollupsOf` — a store with the rollups and watermarks of another one
* `Outcome.fact` — the fact of which an outcome tells
* `Store.Records` — what a record call does to the facts

## Main Statements

* `Store.resolve_withReferencesOf` — a resolution touches reference tables only
* `Store.record_withRollupsOf` — a record call touches no rollup
* `Store.records`, `Store.facts_record` — it appends a fact at most, with the time of
  the visit
-/

namespace Footfall

namespace Store

variable {s t : Store}

/-! ## Resolutions -/

/-- The store `t` with the reference tables of `s`. -/
def withReferencesOf (t s : Store) : Store :=
  { t with dimensions := s.dimensions, dimensionIds := s.dimensionIds }

theorem facts_withReferencesOf (t s : Store) : (t.withReferencesOf s).facts = t.facts := rfl

theorem lookup_withReferencesOf (t s : Store) (k : NaturalKey) :
    (t.withReferencesOf s).lookup k = s.lookup k := rfl

theorem newRow_withReferencesOf (t s : Store) (k : NaturalKey) :
    (t.withReferencesOf s).newRow k =
      (s.newRow k).map fun r => (t.withReferencesOf r.1, r.2) := by
  have hrows : (t.withReferencesOf s).dimensionRows k.dimension = s.dimensionRows k.dimension :=
    rfl
  unfold newRow
  rw [hrows]
  cases s.dimensionRows k.dimension with
  | error e => rfl
  | ok rows =>
      simp only [ok_bind]
      split
      · rfl
      · rfl

theorem addRow_withReferencesOf (t s : Store) (d : Dimension) (row : DimensionRow) :
    (t.withReferencesOf s).addRow d row = (s.addRow d row).map t.withReferencesOf := by
  have hrows : (t.withReferencesOf s).dimensionRows d = s.dimensionRows d := rfl
  unfold addRow
  rw [hrows]
  cases s.dimensionRows d with
  | error e => rfl
  | ok rows => rfl

theorem insertIfAbsent_withReferencesOf (t s : Store) (k : NaturalKey) :
    (t.withReferencesOf s).insertIfAbsent k =
      (s.insertIfAbsent k).map fun r => (t.withReferencesOf r.1, r.2) := by
  unfold insertIfAbsent
  rw [newRow_withReferencesOf]
  cases s.newRow k with
  | error e => rfl
  | ok r =>
      obtain ⟨s', row⟩ := r
      cases row with
      | none => rfl
      | some row =>
          simp only [Except.map, ok_bind]
          rw [addRow_withReferencesOf]
          cases s'.addRow k.dimension row with
          | error e => rfl
          | ok s'' => rfl

theorem step_withReferencesOf (t s : Store) (k : NaturalKey) (r : Resolving) :
    r.step k (t.withReferencesOf s) = (t.withReferencesOf (r.step k s).1, (r.step k s).2) := by
  cases r with
  | looking n =>
      simp only [Resolving.step, lookup_withReferencesOf]
      split
      · rfl
      · rfl
      · rfl
  | inserting n =>
      simp only [Resolving.step, insertIfAbsent_withReferencesOf]
      cases s.insertIfAbsent k with
      | error e => rfl
      | ok result => rfl
  | rereading n =>
      simp only [Resolving.step, lookup_withReferencesOf]
      split
      · rfl
      · rfl
      · split
        · rfl
        · rfl
  | done result => rfl

theorem steps_withReferencesOf (t s : Store) (k : NaturalKey) (n : ℕ) (r : Resolving) :
    r.steps k n (t.withReferencesOf s) =
      (t.withReferencesOf (r.steps k n s).1, (r.steps k n s).2) := by
  induction n generalizing s r with
  | zero => rfl
  | succ n ih =>
      simp only [Resolving.steps, step_withReferencesOf]
      exact ih (r.step k s).1 (r.step k s).2

/-- **A resolution touches reference tables only.** -/
theorem resolve_withReferencesOf (t s : Store) (k : NaturalKey) :
    (t.withReferencesOf s).resolve k =
      (t.withReferencesOf (s.resolve k).1, (s.resolve k).2) := by
  unfold resolve
  cases k.validate with
  | error fault => rfl
  | ok u => simp only [steps_withReferencesOf]

/-- What a resolution leaves is the store with other reference tables. -/
theorem resolve_fst_eq (s : Store) (k : NaturalKey) :
    (s.resolve k).1 = s.withReferencesOf (s.resolve k).1 :=
  congrArg Prod.fst (resolve_withReferencesOf s s k)

end Store

namespace Recording

variable {values : PerDimension (Option String)}

/-- The same ids, found in the store `t` with the reference tables of this one. -/
def onto (r : Recording) (t : Store) : Recording :=
  { r with store := t.withReferencesOf r.store }

theorem resolve_onto (r : Recording) (t : Store) (k : NaturalKey) :
    (r.onto t).resolve k = (r.resolve k).onto t := by
  unfold Recording.resolve
  simp only [onto, Store.resolve_withReferencesOf]
  cases r.store.resolve k with
  | mk s' answer =>
      cases answer with
      | ok id => rfl
      | error e => rfl

theorem advance_onto (r : Recording) (t : Store) (d : Dimension) :
    (r.onto t).advance values d = (r.advance values d).onto t := by
  unfold advance
  split
  · rfl
  · split
    · exact resolve_onto r t _
    · simp only [show (r.onto t).ids = r.ids from rfl]
      split
      · exact resolve_onto r t _
      · rfl

theorem foldl_onto (r : Recording) (t : Store) (dimensions : List Dimension) :
    dimensions.foldl (advance values) (r.onto t) =
      (dimensions.foldl (advance values) r).onto t := by
  induction dimensions generalizing r with
  | nil => rfl
  | cons d dimensions ih =>
      rw [List.foldl_cons, List.foldl_cons, advance_onto]
      exact ih (r.advance values d)

/-- So do the resolutions of all dimensions. -/
theorem run_withReferencesOf (t s : Store) (values : PerDimension (Option String)) :
    run (t.withReferencesOf s) values = (run s values).onto t :=
  foldl_onto (start s) t Dimension.all

theorem store_run_eq (s : Store) (values : PerDimension (Option String)) :
    (run s values).store = s.withReferencesOf (run s values).store :=
  congrArg Recording.store (run_withReferencesOf s s values)

end Recording

namespace Store

/-! ## Record calls -/

/-- The store `s` with the rollups and watermarks of `t`. -/
def withRollupsOf (s t : Store) : Store :=
  { s with daily := t.daily, hourly := t.hourly, watermarks := t.watermarks }

theorem run_withRollupsOf (s t : Store) (values : PerDimension (Option String)) :
    Recording.run (s.withRollupsOf t) values =
      { Recording.run s values with store := (Recording.run s values).store.withRollupsOf t } := by
  have hrun := Recording.run_withReferencesOf (s.withRollupsOf t) s values
  have hstore := Recording.store_run_eq s values
  rw [show (s.withRollupsOf t).withReferencesOf s = s.withRollupsOf t from rfl] at hrun
  rw [hrun, Recording.onto]
  congr 1
  rw [hstore]
  rfl

theorem writeFact_withRollupsOf (s t : Store) (time : Instant) (e : Event)
    (ids : PerDimension (Option ℤ)) :
    (s.withRollupsOf t).writeFact time e ids =
      (s.writeFact time e ids).map fun w => (w.1.withRollupsOf t, w.2) := by
  have hrows : (s.withRollupsOf t).factRows = s.factRows := rfl
  unfold writeFact appendFact
  rw [hrows]
  cases time.stored with
  | error fault => rfl
  | ok stored =>
      simp only [ok_bind]
      cases s.factRows with
      | error fault => rfl
      | ok rows => rfl

/-- **A record call touches no rollup.** -/
theorem record_withRollupsOf (s t : Store) (e : Event) (attrs : Attributes) (policy : Policy)
    (now : Instant) :
    (s.withRollupsOf t).record e attrs policy now =
      ((s.record e attrs policy now).1.withRollupsOf t, (s.record e attrs policy now).2) := by
  unfold record
  rw [run_withRollupsOf]
  generalize Recording.run s (e.values attrs) = r
  split
  · rfl
  split
  · rfl
  obtain ⟨store, ids, unresolved⟩ := r
  dsimp only
  rw [writeFact_withRollupsOf]
  generalize store.writeFact (e.time.getD now) e ids = written
  cases policy with
  | record => cases written with
    | error cause => rfl
    | ok written => rfl
  | reject => cases unresolved with
    | cons first rest => rfl
    | nil => cases written with
      | error cause => rfl
      | ok written => rfl

theorem record_fst_eq (s : Store) (e : Event) (attrs : Attributes) (policy : Policy)
    (now : Instant) :
    (s.record e attrs policy now).1 = (s.record e attrs policy now).1.withRollupsOf s :=
  congrArg Prod.fst (record_withRollupsOf s s e attrs policy now)

end Store

/-! ## Facts -/

/-- The fact of which an outcome tells. -/
def Outcome.fact (o : Outcome) : Fact :=
  ⟨o.id, o.time.toTimestamp, o.site, o.visitor, o.ids⟩

namespace Store

/-- **What a record call does to the facts.**  It appends the one that it reports.  If
it fails it appends none, and then the event was refused, a dimension stayed
unresolved or the fact could not be written. -/
inductive Records (s : Store) (v : Visit) (now : Instant) :
    Store × Except StatsError Outcome → Prop where
  /-- The event was refused. -/
  | refused (fault : InputFault) : Records s v now (s, .error (.invalidInput fault))
  /-- The event was dropped. -/
  | dropped {s' : Store} (same : s'.facts = s.facts) (d : Dimension) (reason : String) :
      Records s v now (s', .error (.unresolved d reason))
  /-- The fact could not be written. -/
  | failed {s' : Store} (same : s'.facts = s.facts) (cause : StoreFault) :
      Records s v now (s', .error (.write cause))
  /-- The fact was written. -/
  | kept {s' : Store} {rows : List Fact} {o : Outcome} (storable : (v.time now).Storable)
      (time : o.time = v.time now) (before : s.facts = .table rows)
      (after : s'.facts = .table (rows ++ [o.fact])) : Records s v now (s', .ok o)

theorem records (s : Store) (v : Visit) (now : Instant) :
    s.Records v now (s.record v.event v.attributes v.policy now) := by
  have hfacts : (Recording.run s (v.event.values v.attributes)).store.facts = s.facts := by
    rw [Recording.store_run_eq, facts_withReferencesOf]
  unfold record
  generalize Recording.run s (v.event.values v.attributes) = r at hfacts
  split
  · exact .refused _
  split
  · exact .refused _
  dsimp only
  split
  · exact .dropped hfacts _ _
  split
  · exact .failed hfacts _
  · next s' id hwrite =>
    simp only [writeFact, appendFact, bind_eq_ok_iff] at hwrite
    obtain ⟨stored, hstored, rows, hrows, hwrite⟩ := hwrite
    obtain ⟨storable, rfl⟩ := Instant.stored_eq_ok_iff.mp hstored
    obtain ⟨rfl, rfl⟩ := Prod.mk.inj (Except.ok.inj hwrite)
    exact .kept storable rfl (hfacts ▸ Slot.read_eq_ok_iff.mp hrows) rfl

/-- **A record call appends a fact at most**, which bears the time of the visit. -/
theorem facts_record (s : Store) (v : Visit) (now : Instant) :
    (s.record v.event v.attributes v.policy now).1.facts = s.facts ∨
      ∃ rows f, s.facts = .table rows ∧ (v.time now).Storable ∧
        f.time = (v.time now).toTimestamp ∧
        (s.record v.event v.attributes v.policy now).1.facts = .table (rows ++ [f]) := by
  have hrecords := s.records v now
  generalize s.record v.event v.attributes v.policy now = result at hrecords
  cases hrecords with
  | refused fault => exact .inl rfl
  | dropped same d reason => exact .inl same
  | failed same cause => exact .inl same
  | kept storable time before after =>
      exact .inr ⟨_, _, before, storable, congrArg Instant.toTimestamp time, after⟩

end Store

end Footfall
