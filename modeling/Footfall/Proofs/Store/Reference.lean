import Mathlib
import Footfall.Proofs.Store.Complete
import Footfall.Stats.Breakdown
import Footfall.Store.Resolve

/-!
# Reference rows and their ids

Surrogate ids are given out in the order in which values are first seen, so the
id of a value tells when it came.  What survives a change of that order is the
chain of values behind an id.  On a store whose reference tables are numbered
soundly, the nine names of a fact and its nine ids determine each other, and
nothing that later happens to the tables changes a name.

## Main Definitions

* `Numbered` — ids of a reference table and the keys of its rows are distinct
* `Store.Referential` — every reference table is numbered soundly
* `Store.Grown` — reference tables grew and nothing else changed
* `Store.Holds` — ids lead to rows that are scoped by each other
* `Store.names` — the names behind some ids

## Main Statements

* `Store.resolve_of_find`, `Store.resolve_of_absent` — what a resolution does
  where its table stands
* `Store.names_eq_iff` — equal names are equal ids
* `Store.Grown.names` — names are stable
-/

namespace Footfall

/-! ## Numbered tables -/

/-- The ids of some rows are distinct and at most `count`, and so are their keys. -/
structure Numbered (rows : List DimensionRow) (count : ℕ) : Prop where
  /-- Ids were given out before, counting from one. -/
  bounds : ∀ r ∈ rows, 1 ≤ r.id ∧ r.id ≤ count
  /-- No two rows have one id. -/
  ids : ∀ r ∈ rows, ∀ r' ∈ rows, r.id = r'.id → r = r'
  /-- No two rows have one key. -/
  keys : ∀ r ∈ rows, ∀ r' ∈ rows, r.parent = r'.parent → r.value = r'.value → r = r'

theorem numbered_nil (count : ℕ) : Numbered [] count where
  bounds := by simp
  ids := by simp
  keys := by simp

section Numbered

variable {rows : List DimensionRow} {count : ℕ}

/-- More ids may have been given out than there are rows. -/
theorem Numbered.mono (h : Numbered rows count) {count' : ℕ} (le : count ≤ count') :
    Numbered rows count' where
  bounds r hr := by
    have := h.bounds r hr
    omega
  ids := h.ids
  keys := h.keys

/-- A row with a new id and a new key may be appended. -/
theorem Numbered.concat (h : Numbered rows count) {row : DimensionRow} (pos : 1 ≤ row.id)
    (le : row.id ≤ count) (newId : ∀ r ∈ rows, r.id ≠ row.id)
    (newKey : ∀ r ∈ rows, ¬ (r.parent = row.parent ∧ r.value = row.value)) :
    Numbered (rows ++ [row]) count where
  bounds := by
    simp only [List.forall_mem_append, List.forall_mem_singleton]
    exact ⟨h.bounds, pos, le⟩
  ids := by
    simp only [List.forall_mem_append, List.forall_mem_singleton]
    exact ⟨fun r hr => ⟨h.ids r hr, fun heq => absurd heq (newId r hr)⟩,
      fun r hr heq => absurd heq.symm (newId r hr), fun _ => trivial⟩
  keys := by
    simp only [List.forall_mem_append, List.forall_mem_singleton]
    exact ⟨fun r hr => ⟨h.keys r hr, fun hp hv => absurd ⟨hp, hv⟩ (newKey r hr)⟩,
      fun r hr hp hv => absurd ⟨hp.symm, hv.symm⟩ (newKey r hr), fun _ _ => trivial⟩

/-- A row of a new key may be appended under the next id. -/
theorem Numbered.append (h : Numbered rows count) {parent : Option ℤ} {value : String}
    (new : ∀ r ∈ rows, ¬ (r.parent = parent ∧ r.value = value)) :
    Numbered (rows ++ [⟨(count + 1 : ℕ), parent, value⟩]) (count + 1) := by
  refine (h.mono (Nat.le_succ count)).concat (by simp) le_rfl (fun r hr heq => ?_) new
  have := (h.bounds r hr).2
  dsimp only at heq
  omega

/-- The row of an id is found under it. -/
theorem Numbered.find?_id (h : Numbered rows count) {r : DimensionRow} (hr : r ∈ rows) :
    rows.find? (·.id == r.id) = some r := by
  cases hfind : rows.find? (·.id == r.id) with
  | none => simpa using List.find?_eq_none.mp hfind r hr
  | some r' =>
      have hid : r'.id = r.id := by simpa using List.find?_some hfind
      rw [h.ids r' (List.mem_of_find?_eq_some hfind) r hr hid]

theorem Numbered.nameOf (h : Numbered rows count) {r : DimensionRow} (hr : r ∈ rows) :
    nameOf rows (some r.id) = some r.value := by
  rw [Footfall.nameOf, Option.bind_some, h.find?_id hr, Option.map_some]

end Numbered

/-- A reference finds the value of a row with its id, if there is one. -/
theorem nameOf_cases (rows : List DimensionRow) (id : Option ℤ) :
    (∃ r ∈ rows, id = some r.id ∧ nameOf rows id = some r.value) ∨
      (∀ r ∈ rows, id ≠ some r.id) ∧ nameOf rows id = none := by
  cases id with
  | none => exact .inr ⟨fun r _ => (Option.some_ne_none r.id).symm, rfl⟩
  | some id =>
      rw [nameOf, Option.bind_some]
      cases hfind : rows.find? (·.id == id) with
      | none =>
          refine .inr ⟨fun r hr h => ?_, rfl⟩
          have hmiss := List.find?_eq_none.mp hfind r hr
          exact hmiss (beq_iff_eq.mpr (Option.some.inj h).symm)
      | some r =>
          have hid := List.find?_some hfind
          rw [beq_iff_eq] at hid
          exact .inl ⟨r, List.mem_of_find?_eq_some hfind, congrArg some hid.symm, rfl⟩

/-! ## Resolution -/

theorem Resolving.steps_succ {k : NaturalKey} {s s' : Store} {r r' : Resolving}
    (h : r.step k s = (s', r')) (n : ℕ) : r.steps k (n + 1) s = r'.steps k n s' := by
  simp only [steps, h]

theorem Resolving.steps_done (k : NaturalKey) (n : ℕ) (s : Store)
    (result : Except StoreFault ℤ) :
    (Resolving.done result).steps k n s = (s, .done result) := by
  induction n with
  | zero => rfl
  | succ n ih => exact ih

/-- A key that was not refused has a parent exactly if its dimension has one. -/
theorem NaturalKey.isSome_parent {k : NaturalKey} (valid : k.validate = .ok ()) :
    k.parent.isSome = k.dimension.parent?.isSome := by
  unfold validate at valid
  rw [show k.dimension.parentColumn? = k.dimension.parent?.map Dimension.factColumn from rfl]
    at valid
  split at valid
  · cases valid
  · cases hup : k.dimension.parent? <;> cases hparent : k.parent <;>
      simp [hup, hparent] at valid ⊢

theorem NaturalKey.scope_eq {k : NaturalKey} (valid : k.validate = .ok ()) :
    k.scope = k.parent := by
  have hsome := isSome_parent valid
  unfold scope
  split
  · rfl
  · next h =>
    rw [← hsome, Option.not_isSome_iff_eq_none] at h
    exact h.symm

namespace Store

variable {s : Store} {k : NaturalKey}

/-- The row that a resolution would create. -/
def nextRow (s : Store) (k : NaturalKey) : DimensionRow :=
  ⟨((s.dimensionIds.get k.dimension).getD 0 + 1 : ℕ), k.scope, k.value⟩

/-- The store after a resolution created a row. -/
def withRow (s : Store) (k : NaturalKey) : Store :=
  { s with
    dimensions := s.dimensions.set k.dimension
      (.table (s.rowsOf k.dimension ++ [s.nextRow k]))
    dimensionIds := s.dimensionIds.set k.dimension
      (some ((s.dimensionIds.get k.dimension).getD 0 + 1)) }

theorem rowsOf_withRow (d : Dimension) :
    (s.withRow k).rowsOf d =
      if k.dimension = d then s.rowsOf k.dimension ++ [s.nextRow k] else s.rowsOf d := by
  simp only [rowsOf, withRow, PerDimension.get_set]
  split
  · rfl
  · rfl

theorem stands_withRow (s : Store) (k : NaturalKey) :
    (s.withRow k).dimensions.get k.dimension = .table ((s.withRow k).rowsOf k.dimension) := by
  rw [rowsOf_withRow, if_pos rfl]
  simp only [withRow, PerDimension.get_set, if_true]

theorem complete_withRow (c : s.Complete) : (s.withRow k).Complete where
  dimensions d := by
    rw [rowsOf_withRow]
    simp only [withRow, PerDimension.get_set]
    split
    · rfl
    · exact c.dimensions d
  facts := c.facts
  daily := c.daily
  hourly := c.hourly
  watermarks := c.watermarks

/-! What a resolution does where the table of the key stands, whatever else is missing. -/

section Standing

variable (stands : s.dimensions.get k.dimension = .table (s.rowsOf k.dimension))

include stands

theorem dimensionRows_of_table : s.dimensionRows k.dimension = .ok (s.rowsOf k.dimension) := by
  rw [Store.dimensionRows, stands, Slot.read]

theorem lookup_eq (valid : k.validate = .ok ()) :
    s.lookup k = .ok (((s.rowsOf k.dimension).find? k.names).map (·.id)) := by
  rw [lookup, dimensionRows_of_table stands]
  simp only [bind, Except.bind, NaturalKey.isSome_parent valid, bne_self_eq_false,
    Bool.false_eq_true, if_false]

theorem insertIfAbsent_of_absent (valid : k.validate = .ok ())
    (absent : (s.rowsOf k.dimension).find? k.names = none) :
    s.insertIfAbsent k = .ok (s.withRow k, .created) := by
  have hany : (s.rowsOf k.dimension).any k.names = false := by
    rw [List.any_eq_false]
    exact List.find?_eq_none.mp absent
  have hsome : (k.dimension.parent?.isSome && k.parent.isNone) = false := by
    rw [← NaturalKey.isSome_parent valid]
    cases k.parent <;> rfl
  simp only [insertIfAbsent, newRow, dimensionRows_of_table stands, hsome, hany, bind,
    Except.bind, Bool.false_eq_true, if_false]
  simp only [addRow, dimensionRows, stands, Slot.read, bind, Except.bind]
  rfl

/-- **A known key resolves to the id of its row.** -/
theorem resolve_of_find (valid : k.validate = .ok ()) {r : DimensionRow}
    (h : (s.rowsOf k.dimension).find? k.names = some r) : s.resolve k = (s, .ok r.id) := by
  have hlookup : s.lookup k = .ok (some r.id) := by rw [lookup_eq stands valid, h, Option.map_some]
  have hstart : Resolving.start.steps k (3 * Resolving.rounds) s = (s, .done (.ok r.id)) := by
    have hlook : Resolving.start.step k s = (s, .done (.ok r.id)) := by
      simp only [Resolving.start, Resolving.step, hlookup]
    exact (Resolving.steps_succ hlook 23).trans (Resolving.steps_done k 23 s _)
  rw [resolve, valid]
  simp only [hstart]
  rfl

/-- **A new key resolves to the next id, under which its row is created.** -/
theorem resolve_of_absent (valid : k.validate = .ok ())
    (absent : (s.rowsOf k.dimension).find? k.names = none) :
    s.resolve k = (s.withRow k, .ok (s.nextRow k).id) := by
  have hlookup : s.lookup k = .ok none := by
    rw [lookup_eq stands valid, absent, Option.map_none]
  have hnames : k.names (s.nextRow k) = true := by simp [NaturalKey.names, nextRow]
  have hreread : (s.withRow k).lookup k = .ok (some (s.nextRow k).id) := by
    rw [lookup_eq (stands_withRow s k) valid, rowsOf_withRow, if_pos rfl, List.find?_append,
      absent, Option.none_or, List.find?_singleton, hnames, if_pos rfl, Option.map_some]
  -- no row, so one is inserted and read again
  have hlook : Resolving.start.step k s = (s, .inserting (Resolving.rounds - 1)) := by
    simp only [Resolving.start, Resolving.step, hlookup]
  have hinsert : (Resolving.inserting (Resolving.rounds - 1)).step k s =
      (s.withRow k, .rereading (Resolving.rounds - 1)) := by
    simp only [Resolving.step, insertIfAbsent_of_absent stands valid absent]
  have hread : (Resolving.rereading (Resolving.rounds - 1)).step k (s.withRow k) =
      (s.withRow k, .done (.ok (s.nextRow k).id)) := by
    simp only [Resolving.step, hreread]
  have hstart : Resolving.start.steps k (3 * Resolving.rounds) s =
      (s.withRow k, .done (.ok (s.nextRow k).id)) :=
    calc Resolving.start.steps k 24 s
        = (Resolving.inserting (Resolving.rounds - 1)).steps k 23 s :=
          Resolving.steps_succ hlook 23
      _ = (Resolving.rereading (Resolving.rounds - 1)).steps k 22 (s.withRow k) :=
          Resolving.steps_succ hinsert 22
      _ = (Resolving.done (.ok (s.nextRow k).id)).steps k 21 (s.withRow k) :=
          Resolving.steps_succ hread 21
      _ = (s.withRow k, .done (.ok (s.nextRow k).id)) := Resolving.steps_done k 21 _ _
  rw [resolve, valid]
  simp only [hstart]
  rfl

end Standing

theorem resolve_of_invalid {fault : InputFault} (h : k.validate = .error fault) :
    s.resolve k = (s, .error (.invalidInput fault)) := by
  rw [resolve, h]

/-! ## Growth -/

/-- Reference tables grew at their ends and nothing else changed. -/
structure Grown (s s' : Store) : Prop where
  /-- Rows stay, in their order. -/
  rows : ∀ d, s.rowsOf d <+: s'.rowsOf d
  /-- The facts are the same. -/
  facts : s'.facts = s.facts
  /-- So is their sequence. -/
  factIds : s'.factIds = s.factIds
  /-- The rollup by day is the same. -/
  daily : s'.daily = s.daily
  /-- The rollup by hour is the same. -/
  hourly : s'.hourly = s.hourly
  /-- The watermarks are the same. -/
  watermarks : s'.watermarks = s.watermarks
  /-- The schema versions are the same. -/
  versions : s'.versions = s.versions

@[refl] theorem Grown.refl (s : Store) : s.Grown s where
  rows _ := List.prefix_refl _
  facts := rfl
  factIds := rfl
  daily := rfl
  hourly := rfl
  watermarks := rfl
  versions := rfl

@[trans] theorem Grown.trans {s s' s'' : Store} (h : s.Grown s') (h' : s'.Grown s'') :
    s.Grown s'' where
  rows d := (h.rows d).trans (h'.rows d)
  facts := h'.facts.trans h.facts
  factIds := h'.factIds.trans h.factIds
  daily := h'.daily.trans h.daily
  hourly := h'.hourly.trans h.hourly
  watermarks := h'.watermarks.trans h.watermarks
  versions := h'.versions.trans h.versions

theorem Grown.factList {s s' : Store} (h : s.Grown s') : s'.factList = s.factList := by
  rw [Store.factList, h.facts, Store.factList]

theorem Grown.dailyTable {s s' : Store} (h : s.Grown s') : s'.dailyTable = s.dailyTable := by
  rw [Store.dailyTable, h.daily, Store.dailyTable]

theorem Grown.hourlyTable {s s' : Store} (h : s.Grown s') :
    s'.hourlyTable = s.hourlyTable := by
  rw [Store.hourlyTable, h.hourly, Store.hourlyTable]

theorem Grown.marks {s s' : Store} (h : s.Grown s') : s'.marks = s.marks := by
  rw [Store.marks, h.watermarks, Store.marks]

theorem grown_withRow (s : Store) (k : NaturalKey) : s.Grown (s.withRow k) where
  rows d := by
    rw [rowsOf_withRow]
    split
    · next h => exact h ▸ List.prefix_append _ _
    · exact List.prefix_refl _
  facts := rfl
  factIds := rfl
  daily := rfl
  hourly := rfl
  watermarks := rfl
  versions := rfl

/-! ## Sound references -/

/-- Every reference table is numbered soundly. -/
def Referential (s : Store) : Prop :=
  ∀ d, Numbered (s.rowsOf d) ((s.dimensionIds.get d).getD 0)

theorem referential_migrated : migrated.Referential := by
  intro d
  rw [rowsOf_migrated]
  exact numbered_nil _

theorem Referential.withRow (h : s.Referential)
    (absent : (s.rowsOf k.dimension).find? k.names = none) : (s.withRow k).Referential := by
  intro d
  rw [rowsOf_withRow]
  by_cases hd : k.dimension = d
  · subst hd
    rw [if_pos rfl]
    have hcount : ((s.withRow k).dimensionIds.get k.dimension).getD 0 =
        (s.dimensionIds.get k.dimension).getD 0 + 1 := by
      simp [Store.withRow, PerDimension.get_set]
    rw [hcount]
    refine (h k.dimension).append fun r hr hkey => ?_
    refine List.find?_eq_none.mp absent r hr ?_
    simp [NaturalKey.names, hkey]
  · rw [if_neg hd]
    have hcount : (s.withRow k).dimensionIds.get d = s.dimensionIds.get d := by
      simp [Store.withRow, PerDimension.get_set, hd]
    rw [hcount]
    exact h d

/-- **What a resolution does on a complete store.**  It only grows a reference
table, and a key that is not refused gets the id of a row of its own. -/
theorem resolve_spec (c : s.Complete) (sound : s.Referential) (k : NaturalKey) :
    s.Grown (s.resolve k).1 ∧ (s.resolve k).1.Complete ∧ (s.resolve k).1.Referential ∧
      (k.validate = .ok () → ∃ r ∈ (s.resolve k).1.rowsOf k.dimension,
        r.parent = k.parent ∧ r.value = k.value ∧ (s.resolve k).2 = .ok r.id) := by
  cases valid : k.validate with
  | error fault =>
      rw [resolve_of_invalid valid]
      exact ⟨.refl s, c, sound, fun h => by cases h⟩
  | ok u =>
      cases hfind : (s.rowsOf k.dimension).find? k.names with
      | some r =>
          rw [resolve_of_find (c.dimensions _) valid hfind]
          refine ⟨.refl s, c, sound, fun _ => ⟨r, List.mem_of_find?_eq_some hfind, ?_⟩⟩
          have hnames := List.find?_some hfind
          simp only [NaturalKey.names, Bool.and_eq_true, beq_iff_eq,
            NaturalKey.scope_eq valid] at hnames
          exact ⟨hnames.1, hnames.2, rfl⟩
      | none =>
          rw [resolve_of_absent (c.dimensions _) valid hfind]
          refine ⟨grown_withRow s k, complete_withRow c, sound.withRow hfind, fun _ => ?_⟩
          refine ⟨s.nextRow k, ?_, NaturalKey.scope_eq valid, rfl, rfl⟩
          rw [rowsOf_withRow, if_pos rfl]
          exact List.mem_append_right _ (List.mem_singleton_self _)

/-! ## Names behind ids -/

/-- Each id leads to a row, which is scoped by the id of the parent dimension. -/
def Holds (s : Store) (ids : PerDimension (Option ℤ)) : Prop :=
  ∀ d id, ids.get d = some id →
    ∃ r ∈ s.rowsOf d, r.id = id ∧ r.parent = d.parent?.bind ids.get

/-- The names behind some ids. -/
def names (s : Store) (ids : PerDimension (Option ℤ)) : PerDimension (Option String) :=
  .ofFn fun d => nameOf (s.rowsOf d) (ids.get d)

variable {ids others : PerDimension (Option ℤ)}

theorem Holds.of_grown {s s' : Store} (h : s.Holds ids) (grown : s.Grown s') :
    s'.Holds ids := by
  intro d id hid
  obtain ⟨r, hr, hrow⟩ := h d id hid
  exact ⟨r, (grown.rows d).subset hr, hrow⟩

/-- Names are stable. -/
theorem Grown.names {s s' : Store} (grown : s.Grown s') (sound : s.Referential)
    (sound' : s'.Referential) (h : s.Holds ids) : s'.names ids = s.names ids := by
  ext d
  simp only [Store.names, PerDimension.get_ofFn]
  cases hid : ids.get d with
  | none => rfl
  | some id =>
      obtain ⟨r, hr, rfl, -⟩ := h d id hid
      rw [(sound d).nameOf hr, (sound' d).nameOf ((grown.rows d).subset hr)]

/-- Within one dimension, equal names under one parent are equal ids. -/
theorem Holds.get_eq (sound : s.Referential) (h : s.Holds ids) (h' : s.Holds others)
    {d : Dimension} (scope : d.parent?.bind ids.get = d.parent?.bind others.get)
    (hname : nameOf (s.rowsOf d) (ids.get d) = nameOf (s.rowsOf d) (others.get d)) :
    ids.get d = others.get d := by
  cases hid : ids.get d with
  | none =>
      cases hid' : others.get d with
      | none => rfl
      | some id' =>
          obtain ⟨r', hr', rfl, -⟩ := h' d id' hid'
          rw [hid, hid', (sound d).nameOf hr'] at hname
          cases hname
  | some id =>
      obtain ⟨r, hr, rfl, hparent⟩ := h d id hid
      cases hid' : others.get d with
      | none =>
          rw [hid, hid', (sound d).nameOf hr] at hname
          cases hname
      | some id' =>
          obtain ⟨r', hr', rfl, hparent'⟩ := h' d id' hid'
          rw [hid, hid', (sound d).nameOf hr, (sound d).nameOf hr'] at hname
          have hrow := (sound d).keys r hr r' hr' (by rw [hparent, hparent', scope])
            (Option.some.inj hname)
          rw [hrow]

/-- **Equal names are equal ids.**  A region is compared after its country and a
city after its region. -/
theorem names_eq_iff (sound : s.Referential) (h : s.Holds ids) (h' : s.Holds others) :
    s.names ids = s.names others ↔ ids = others := by
  constructor
  · intro heq
    have hname : ∀ d, nameOf (s.rowsOf d) (ids.get d) = nameOf (s.rowsOf d) (others.get d) := by
      intro d
      simpa [names] using congrArg (PerDimension.get · d) heq
    have hget := fun d scope => Holds.get_eq sound h h' (d := d) scope (hname d)
    -- in the order of scopes, so that the parents are known to agree
    have hcountry := hget .country rfl
    have hregion := hget .region hcountry
    have hcity := hget .city hregion
    ext1 d
    cases d with
    | country => exact hcountry
    | region => exact hregion
    | city => exact hcity
    | browser | operatingSystem | deviceType | language | referrer | path => exact hget _ rfl
  · rintro rfl
    rfl

/-- An absent id counts as zero, which is nobody's id. -/
theorem Holds.getD_inj (sound : s.Referential) (h : s.Holds ids) (h' : s.Holds others) :
    ids.map (·.getD 0) = others.map (·.getD 0) ↔ ids = others := by
  have hpos : ∀ {ids : PerDimension (Option ℤ)}, s.Holds ids → ∀ d id,
      ids.get d = some id → 1 ≤ id := by
    intro ids h d id hid
    obtain ⟨r, hr, rfl, -⟩ := h d id hid
    exact ((sound d).bounds r hr).1
  constructor
  · intro heq
    ext1 d
    have hd : (ids.get d).getD 0 = (others.get d).getD 0 := by
      simpa using congrArg (PerDimension.get · d) heq
    cases hid : ids.get d with
    | none =>
        cases hid' : others.get d with
        | none => rfl
        | some id' =>
            have := hpos h' d id' hid'
            simp only [hid, hid', Option.getD_none, Option.getD_some] at hd
            omega
    | some id =>
        have := hpos h d id hid
        cases hid' : others.get d with
        | none =>
            simp only [hid, hid', Option.getD_none, Option.getD_some] at hd
            omega
        | some id' =>
            simp only [hid, hid', Option.getD_some] at hd
            rw [hd]
  · rintro rfl
    rfl

end Store

end Footfall
