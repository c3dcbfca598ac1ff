import Mathlib
import Footfall.Proofs.Rollup.Counts
import Footfall.Proofs.Visit.Footprint

/-!
# Every dimension is accounted for

A record call resolves nine dimensions, each of which may be absent, known, new or
beyond reach, and regions and cities only under what scopes them.  On any store,
whichever of its tables are missing, a dimension is absent, or it has the id under
which its table holds the value, or it is noted.  Which of these it is does not
depend on how the resolution went: a dimension can be resolved if its table stands
and what scopes it can be resolved.

## Main Definitions

* `Store.Resolvable` — a dimension is present, its table stands, and so above it
* `Store.Identifies` — an id is that of the row of a key
* `Recording.Classifies` — what is known of the dimensions resolved so far
* `Store.Disposes` — the four ways in which a record call ends
* `Outcome.Accounts` — what an outcome says of one dimension

## Main Statements

* `Store.exists_identifies_resolve` — where its table stands, a key gets an id
* `Recording.classifies_run` — each dimension is resolved or noted, in order
* `Store.disposes_record` — how a record call ends
* `Store.record_classifies_or_fails_cleanly` — all of it, for every store
-/

namespace Footfall

/-! ## What can be resolved -/

namespace Store

/-- **A dimension can be resolved**: the event says something of it, its table stands,
and what scopes it can be resolved. -/
inductive Resolvable (s : Store) (values : PerDimension (Option String)) : Dimension → Prop where
  /-- A dimension that nothing scopes. -/
  | root {d : Dimension} {value : String} (top : d.parent? = none)
      (present : values.get d = some value) (stands : (s.dimensions.get d).isTable = true) :
      Resolvable s values d
  /-- A dimension under another one. -/
  | under {d up : Dimension} {value : String} (scope : d.parent? = some up)
      (parent : Resolvable s values up) (present : values.get d = some value)
      (stands : (s.dimensions.get d).isTable = true) : Resolvable s values d

/-- **An id is that of the row of a key.**  Whoever looks the key up finds the id, and
the table has gained the row of the key at most. -/
structure Identifies (s s' : Store) (k : NaturalKey) (id : ℤ) : Prop where
  /-- The key is found. -/
  lookup : s'.lookup k = .ok (some id)
  /-- Its row was there, or is the last one now. -/
  rows : s'.dimensions.get k.dimension = s.dimensions.get k.dimension ∨
    ∃ rows, s.dimensions.get k.dimension = .table rows ∧
      s'.dimensions.get k.dimension = .table (rows ++ [⟨id, k.parent, k.value⟩])

/-- Two stores have the same rows of a dimension, and the same sequence. -/
def AlikeAt (d : Dimension) (s s' : Store) : Prop :=
  s'.dimensions.get d = s.dimensions.get d ∧ s'.dimensionIds.get d = s.dimensionIds.get d

variable {s s' s'' : Store} {values : PerDimension (Option String)} {d : Dimension}
  {k : NaturalKey}

theorem Resolvable.present (h : s.Resolvable values d) : ∃ value, values.get d = some value := by
  cases h with
  | root _ present _ => exact ⟨_, present⟩
  | under _ _ present _ => exact ⟨_, present⟩

theorem Resolvable.stands (h : s.Resolvable values d) :
    (s.dimensions.get d).isTable = true := by
  cases h with
  | root _ _ stands => exact stands
  | under _ _ _ stands => exact stands

theorem Resolvable.parent {up : Dimension} (h : s.Resolvable values d)
    (scope : d.parent? = some up) : s.Resolvable values up := by
  cases h with
  | root top _ _ =>
      rw [top] at scope
      cases scope
  | under scope' parent _ _ =>
      rw [scope, Option.some.injEq] at scope'
      exact scope' ▸ parent

theorem lookup_congr (h : s'.dimensions.get k.dimension = s.dimensions.get k.dimension) :
    s'.lookup k = s.lookup k := by
  rw [lookup, lookup, dimensionRows, dimensionRows, h]

/-- Only the table of the key matters, before and after. -/
theorem Identifies.congr {t t' : Store} {id : ℤ} (h : s.Identifies s' k id)
    (before : t.dimensions.get k.dimension = s.dimensions.get k.dimension)
    (after : t'.dimensions.get k.dimension = s'.dimensions.get k.dimension) :
    t.Identifies t' k id where
  lookup := (lookup_congr after).trans h.lookup
  rows := by
    rw [before, after]
    exact h.rows

theorem AlikeAt.trans (h : AlikeAt d s s') (h' : AlikeAt d s' s'') : AlikeAt d s s'' :=
  ⟨h'.1.trans h.1, h'.2.trans h.2⟩

/-! ## One resolution -/

/-- Without its table, a key is not resolved, and the store stays as it is. -/
theorem exists_resolve_eq_error (valid : k.validate = .ok ())
    (missing : (s.dimensions.get k.dimension).isTable = false) :
    ∃ cause, s.resolve k = (s, .error (.resolution k.dimension cause)) := by
  have hlookup : ∃ cause, s.lookup k = .error cause := by
    rw [lookup, dimensionRows]
    cases hslot : s.dimensions.get k.dimension with
    | absent => exact ⟨_, rfl⟩
    | view => exact ⟨_, rfl⟩
    | table rows => rw [hslot] at missing; cases missing
  obtain ⟨cause, hlookup⟩ := hlookup
  have hlook : Resolving.start.step k s = (s, .done (.error cause)) := by
    simp only [Resolving.start, Resolving.step, hlookup]
  have hstart : Resolving.start.steps k (3 * Resolving.rounds) s = (s, .done (.error cause)) :=
    (Resolving.steps_succ hlook 23).trans (Resolving.steps_done k 23 s _)
  refine ⟨cause, ?_⟩
  rw [resolve, valid]
  simp only [hstart]
  rfl

/-- **Where its table stands, a key gets an id**, and no other table is touched. -/
theorem exists_identifies_resolve (valid : k.validate = .ok ())
    (stands : (s.dimensions.get k.dimension).isTable = true) :
    ∃ id, (s.resolve k).2 = .ok id ∧ s.Identifies (s.resolve k).1 k id ∧
      ∀ d, d ≠ k.dimension → AlikeAt d s (s.resolve k).1 := by
  have htable : s.dimensions.get k.dimension = .table (s.rowsOf k.dimension) :=
    Slot.eq_table_of_isTable stands
  cases hfind : (s.rowsOf k.dimension).find? k.names with
  | some row =>
      rw [resolve_of_find htable valid hfind]
      refine ⟨row.id, rfl, ⟨?_, .inl rfl⟩, fun d _ => ⟨rfl, rfl⟩⟩
      rw [lookup_eq htable valid, hfind, Option.map_some]
  | none =>
      rw [resolve_of_absent htable valid hfind]
      have hnames : k.names (s.nextRow k) = true := by simp [NaturalKey.names, nextRow]
      refine ⟨(s.nextRow k).id, rfl, ⟨?_, .inr ⟨s.rowsOf k.dimension, htable, ?_⟩⟩,
        fun d hd => ⟨?_, ?_⟩⟩
      · rw [lookup_eq (stands_withRow s k) valid, rowsOf_withRow, if_pos rfl,
          List.find?_append, hfind, Option.none_or, List.find?_singleton, hnames, if_pos rfl,
          Option.map_some]
      · rw [stands_withRow, rowsOf_withRow, if_pos rfl, nextRow, NaturalKey.scope_eq valid]
      · simp only [withRow, PerDimension.get_set, if_neg (Ne.symm hd)]
      · simp only [withRow, PerDimension.get_set, if_neg (Ne.symm hd)]

end Store

/-! ## All dimensions -/

namespace Recording

/-- **What is known after the dimensions `before` were resolved on `s`.** -/
structure Classifies (s : Store) (values : PerDimension (Option String))
    (before : List Dimension) (r : Recording) : Prop where
  /-- The other dimensions have no id yet. -/
  pending : ∀ d, d ∉ before → r.ids.get d = none
  /-- Those that can be resolved have an id, and only those. -/
  resolved : ∀ d ∈ before, (r.ids.get d).isSome ↔ s.Resolvable values d
  /-- An id is that of the row of the value, under the id of what scopes it. -/
  ids : ∀ d id, r.ids.get d = some id → ∃ value, values.get d = some value ∧
    s.Identifies r.store ⟨d, d.parent?.bind r.ids.get, value⟩ id
  /-- The table of a dimension without an id is as it was. -/
  untouched : ∀ d, r.ids.get d = none → s.AlikeAt d r.store
  /-- What is present and has no id is noted, in order. -/
  noted : r.unresolved.map (·.dimension) =
    before.filter fun d => (values.get d).isSome && (r.ids.get d).isNone

variable {s : Store} {values : PerDimension (Option String)} {before after : List Dimension}
  {d : Dimension} {r : Recording}

theorem classifies_start (s : Store) (values : PerDimension (Option String)) :
    Classifies s values [] (start s) where
  pending := by simp [start]
  resolved := by simp
  ids := by simp [start]
  untouched _ _ := ⟨rfl, rfl⟩
  noted := rfl

/-- A dimension that cannot be resolved gets no id.  It is noted if it is present. -/
theorem Classifies.pass (h : Classifies s values before r) (fresh : d ∉ before)
    (beyond : ¬ s.Resolvable values d) {noted : List Unresolved}
    (hnoted : noted.map (·.dimension) = if (values.get d).isSome then [d] else []) :
    Classifies s values (before ++ [d]) { r with unresolved := r.unresolved ++ noted } where
  pending e he := h.pending e fun hmem => he (List.mem_append_left _ hmem)
  resolved e he := by
    rcases List.mem_append.mp he with he | he
    · exact h.resolved e he
    · obtain rfl := List.mem_singleton.mp he
      rw [h.pending e fresh]
      exact iff_of_false Bool.false_ne_true beyond
  ids := h.ids
  untouched := h.untouched
  noted := by
    rw [List.map_append, hnoted, List.filter_append, h.noted, List.filter_singleton,
      h.pending d fresh, Option.isNone_none, Bool.and_true, Bool.cond_eq_ite]

/-- A dimension that can be resolved gets the id of its row. -/
theorem Classifies.resolve (h : Classifies s values before r)
    (order : Dimension.all = before ++ d :: after) (within : s.Resolvable values d)
    {value : String} (hvalue : values.get d = some value) (nonempty : value ≠ "")
    {parent : Option ℤ} (hparent : parent = d.parent?.bind r.ids.get)
    (hsome : parent.isSome = d.parent?.isSome) :
    Classifies s values (before ++ [d]) (r.resolve ⟨d, parent, value⟩) := by
  have fresh := Dimension.notMem_before order
  have same : s.AlikeAt d r.store := h.untouched d (h.pending d fresh)
  have valid : (⟨d, parent, value⟩ : NaturalKey).validate = .ok () :=
    NaturalKey.validate_eq_ok nonempty hsome
  have stands : (r.store.dimensions.get d).isTable = true := by
    rw [same.1]
    exact within.stands
  obtain ⟨id, hid, identifies, others⟩ := Store.exists_identifies_resolve valid stands
  rw [resolve_of_ok hid]
  -- ids and scopes of the dimensions before are those from before
  have hget : ∀ e, e ≠ d → (r.ids.set d (some id)).get e = r.ids.get e := by
    intro e he
    rw [PerDimension.get_set, if_neg (Ne.symm he)]
  have hself : (r.ids.set d (some id)).get d = some id := by
    rw [PerDimension.get_set, if_pos rfl]
  have hne : ∀ e ∈ before, e ≠ d := by
    rintro e he rfl
    exact fresh he
  refine {
    pending := fun e he => ?_
    resolved := fun e he => ?_
    ids := fun e id' hid' => ?_
    untouched := fun e he => ?_
    noted := ?_ }
  · rw [List.mem_append, List.mem_singleton, not_or] at he
    rw [hget e he.2]
    exact h.pending e he.1
  · rcases List.mem_append.mp he with he | he
    · rw [hget e (hne e he)]
      exact h.resolved e he
    · obtain rfl := List.mem_singleton.mp he
      rw [hself]
      exact iff_of_true rfl within
  · by_cases hd : e = d
    · subst hd
      rw [hself, Option.some.injEq] at hid'
      subst hid'
      refine ⟨value, hvalue, ?_⟩
      rw [Dimension.bind_get_set order (.inr rfl), ← hparent]
      exact identifies.congr same.1.symm rfl
    · rw [hget e hd] at hid'
      have he : e ∈ before := by
        by_contra hout
        rw [h.pending e hout] at hid'
        cases hid'
      obtain ⟨value', hvalue', identifies'⟩ := h.ids e id' hid'
      refine ⟨value', hvalue', ?_⟩
      rw [Dimension.bind_get_set order (.inl he)]
      exact identifies'.congr rfl (others e hd).1
  · have hd : e ≠ d := by
      rintro rfl
      rw [hself] at he
      cases he
    rw [hget e hd] at he
    exact (h.untouched e he).trans (others e hd)
  · rw [List.filter_append, List.filter_singleton, hself, Option.isNone_some, Bool.and_false,
      cond_false, List.append_nil]
    refine h.noted.trans (List.filter_congr fun e he => ?_)
    rw [hget e (hne e he)]

theorem Classifies.advance (h : Classifies s values before r)
    (order : Dimension.all = before ++ d :: after)
    (nonempty : ∀ d value, values.get d = some value → value ≠ "") :
    Classifies s values (before ++ [d]) (r.advance values d) := by
  have fresh := Dimension.notMem_before order
  unfold Recording.advance
  cases hvalue : values.get d with
  | none =>
      have hnone : ([] : List Unresolved).map (·.dimension) =
          if (values.get d).isSome then [d] else [] := by
        rw [hvalue]
        rfl
      have hpass := h.pass fresh (fun within => ?_) hnone
      · rwa [List.append_nil] at hpass
      · obtain ⟨value, hvalue'⟩ := within.present
        rw [hvalue] at hvalue'
        cases hvalue'
  | some value =>
      have hnoted : ∀ reason, [(⟨d, reason⟩ : Unresolved)].map (·.dimension) =
          if (values.get d).isSome then [d] else [] := by
        intro reason
        rw [hvalue]
        rfl
      -- with a key of its own, it is the table that decides
      have hkey : ∀ parent : Option ℤ, parent = d.parent?.bind r.ids.get →
          parent.isSome = d.parent?.isSome →
          (∀ up, d.parent? = some up → s.Resolvable values up) →
          Classifies s values (before ++ [d]) (r.resolve ⟨d, parent, value⟩) := by
        intro parent hparent hsome above
        cases stands : (s.dimensions.get d).isTable with
        | true =>
            refine h.resolve order ?_ hvalue (nonempty d value hvalue) hparent hsome
            cases hup : d.parent? with
            | none => exact .root hup hvalue stands
            | some up => exact .under hup (above up hup) hvalue stands
        | false =>
            have hmissing : (r.store.dimensions.get d).isTable = false := by
              rw [(h.untouched d (h.pending d fresh)).1, stands]
            obtain ⟨cause, hresolve⟩ := Store.exists_resolve_eq_error
              (NaturalKey.validate_eq_ok (k := ⟨d, parent, value⟩) (nonempty d value hvalue) hsome)
              hmissing
            unfold Recording.resolve
            rw [hresolve]
            refine h.pass fresh (fun within => ?_) (hnoted _)
            rw [within.stands] at stands
            cases stands
      dsimp only
      cases hup : d.parent? with
      | none => exact hkey none (by rw [hup]; rfl) (by rw [hup]; rfl) (by rw [hup]; exact nofun)
      | some up =>
          have hmem := Dimension.parent_mem_before order hup
          dsimp only
          cases hid : r.ids.get up with
          | none =>
              refine h.pass fresh (fun within => ?_) (hnoted _)
              have hparent := (h.resolved up hmem).mpr (within.parent hup)
              rw [hid] at hparent
              cases hparent
          | some id =>
              refine hkey (some id) (by rw [hup]; exact hid.symm) (by rw [hup]; rfl) ?_
              rintro up' hup'
              rw [hup, Option.some.injEq] at hup'
              subst hup'
              refine (h.resolved up hmem).mp ?_
              rw [hid]
              rfl

/-- **Each dimension is resolved or noted, in order.** -/
theorem classifies_run (s : Store)
    (nonempty : ∀ d value, values.get d = some value → value ≠ "") :
    Classifies s values Dimension.all (run s values) :=
  run_induction (classifies_start s values) fun order h => h.advance order nonempty

end Recording

/-! ## Calls -/

namespace Store

/-- **The first dimension that stays unresolved**: it is present and cannot be resolved,
and those before it can be, or are absent. -/
structure FirstBeyond (s : Store) (values : PerDimension (Option String)) (d : Dimension) :
    Prop where
  /-- It is present. -/
  present : (values.get d).isSome
  /-- It cannot be resolved. -/
  beyond : ¬ s.Resolvable values d
  /-- It is the first. -/
  first : ∃ before after, Dimension.all = before ++ d :: after ∧
    ∀ e ∈ before, (values.get e).isSome → s.Resolvable values e

/-- **How a record call ends** after its dimensions were resolved as `r` tells. -/
inductive Disposes (s : Store) (v : Visit) (now : Instant) (r : Recording) :
    Store × Except StatsError Outcome → Prop where
  /-- The event is turned away. -/
  | refused (invalid : ¬ v.Valid) (fault : InputFault) :
      Disposes s v now r (s, .error (.invalidInput fault))
  /-- The event is dropped for the first dimension that was noted. -/
  | dropped (valid : v.Valid) (policy : v.policy = .reject) {first : Unresolved}
      {rest : List Unresolved} (noted : r.unresolved = first :: rest) :
      Disposes s v now r (r.store, .error (.unresolved first.dimension first.reason))
  /-- Its time cannot be stored, or there is no table of facts. -/
  | unwritten (valid : v.Valid) (kept : v.policy = .reject → r.unresolved = [])
      (unfit : ¬ ((v.time now).Storable ∧ s.facts.isTable = true)) (cause : StoreFault) :
      Disposes s v now r (r.store, .error (.write cause))
  /-- Its fact is appended. -/
  | written (valid : v.Valid) (kept : v.policy = .reject → r.unresolved = [])
      (storable : (v.time now).Storable) (stands : s.facts.isTable = true) :
      Disposes s v now r
        (r.store.withFact (v.time now).toTimestamp v.event.site v.event.visitor r.ids,
          .ok ⟨(r.store.factIds.getD 0 : ℕ) + 1, v.time now, v.event.site, v.event.visitor,
            r.ids, r.unresolved⟩)

end Store

/-- **What an outcome says of one dimension**, for a call that made `s'` of `s`. -/
structure Outcome.Accounts (s s' : Store) (values : PerDimension (Option String)) (o : Outcome)
    (d : Dimension) : Prop where
  /-- A dimension that is absent has no id and is not noted. -/
  absent : values.get d = none → o.ids.get d = none ∧ d ∉ o.unresolved.map (·.dimension)
  /-- One that is present has the id of its row, under the id of what scopes it, or it is
  noted once. -/
  present : ∀ value, values.get d = some value →
    (∃ id, o.ids.get d = some id ∧ s.Identifies s' ⟨d, d.parent?.bind o.ids.get, value⟩ id ∧
        d ∉ o.unresolved.map (·.dimension)) ∨
      (o.ids.get d = none ∧ (o.unresolved.map (·.dimension)).count d = 1)
  /-- Below one without an id it is noted, and no row is created. -/
  orphan : ∀ up, d.parent? = some up → o.ids.get up = none → (values.get d).isSome →
    d ∈ o.unresolved.map (·.dimension) ∧ s.AlikeAt d s'
  /-- It has an id if and only if it can be resolved. -/
  resolved : (o.ids.get d).isSome ↔ s.Resolvable values d

namespace Recording.Classifies

variable {s : Store} {values : PerDimension (Option String)} {r : Recording} {d : Dimension}

theorem sublist_noted (h : Classifies s values Dimension.all r) :
    (r.unresolved.map (·.dimension)).Sublist Dimension.all := by
  rw [h.noted]
  exact List.filter_sublist

/-- What is noted is present and cannot be resolved. -/
theorem mem_noted_iff (h : Classifies s values Dimension.all r) :
    d ∈ r.unresolved.map (·.dimension) ↔ (values.get d).isSome ∧ ¬ s.Resolvable values d := by
  rw [h.noted, List.mem_filter, and_iff_right (Dimension.mem_all d), Bool.and_eq_true,
    ← h.resolved d (Dimension.mem_all d), Bool.not_eq_true, Option.isSome_eq_false_iff]

/-- Nothing is noted twice. -/
theorem count_noted (h : Classifies s values Dimension.all r)
    (hd : d ∈ r.unresolved.map (·.dimension)) :
    (r.unresolved.map (·.dimension)).count d = 1 :=
  List.count_eq_one_of_mem (h.sublist_noted.nodup Dimension.nodup_all) hd

/-- What is noted first is the first dimension that stays unresolved. -/
theorem head?_noted_iff (h : Classifies s values Dimension.all r) :
    (r.unresolved.map (·.dimension)).head? = some d ↔ s.FirstBeyond values d := by
  have hmem : ∀ e, ((values.get e).isSome && (r.ids.get e).isNone) = true ↔
      (values.get e).isSome ∧ ¬ s.Resolvable values e := by
    intro e
    rw [← h.mem_noted_iff, h.noted, List.mem_filter, and_iff_right (Dimension.mem_all e)]
  rw [h.noted, List.head?_filter, List.find?_eq_some_iff_append, hmem]
  constructor
  · rintro ⟨⟨present, beyond⟩, before, after, order, hbefore⟩
    refine ⟨present, beyond, before, after, order, fun e he hpresent => ?_⟩
    by_contra hbeyond
    have hnoted := (hmem e).mpr ⟨hpresent, hbeyond⟩
    have hnot := hbefore e he
    rw [hnoted] at hnot
    cases hnot
  · rintro ⟨present, beyond, before, after, order, hbefore⟩
    refine ⟨⟨present, beyond⟩, before, after, order, fun e he => ?_⟩
    rw [Bool.not_eq_true', ← Bool.not_eq_true, hmem]
    exact fun ⟨hpresent, hbeyond⟩ => hbeyond (hbefore e he hpresent)

/-- Nothing is noted if and only if all that is present can be resolved. -/
theorem noted_eq_nil_iff (h : Classifies s values Dimension.all r) :
    r.unresolved = [] ↔ ∀ d, (values.get d).isSome → s.Resolvable values d := by
  rw [← List.map_eq_nil_iff (f := (·.dimension)), List.eq_nil_iff_forall_not_mem]
  simp only [h.mem_noted_iff, not_and, not_not]

/-- **What was found accounts for every dimension**, in any store with its reference
tables. -/
theorem accounts (h : Classifies s values Dimension.all r) {s' : Store} {o : Outcome}
    (dimensions : s'.dimensions = r.store.dimensions)
    (dimensionIds : s'.dimensionIds = r.store.dimensionIds) (ids : o.ids = r.ids)
    (noted : o.unresolved = r.unresolved) (d : Dimension) : o.Accounts s s' values d := by
  have hresolved := h.resolved d (Dimension.mem_all d)
  have huntouched : r.ids.get d = none → s.AlikeAt d s' := by
    intro hnone
    have halike := h.untouched d hnone
    exact ⟨dimensions ▸ halike.1, dimensionIds ▸ halike.2⟩
  have hbeyond : ¬ s.Resolvable values d → r.ids.get d = none := by
    rw [← hresolved, Option.not_isSome_iff_eq_none]
    exact id
  rw [← ids] at hresolved huntouched hbeyond
  have hmem := h.mem_noted_iff (d := d)
  have hcount := h.count_noted (d := d)
  rw [← noted] at hmem hcount
  refine ⟨fun habsent => ⟨hbeyond fun within => ?_, fun hd => ?_⟩, fun value hvalue => ?_,
    fun up scope hup hpresent => ?_, hresolved⟩
  · obtain ⟨value, hvalue⟩ := within.present
    rw [habsent] at hvalue
    cases hvalue
  · have hpresent := (hmem.mp hd).1
    rw [habsent] at hpresent
    cases hpresent
  · have hpresent : (values.get d).isSome := hvalue ▸ rfl
    by_cases within : s.Resolvable values d
    · obtain ⟨id, hid⟩ := Option.isSome_iff_exists.mp (hresolved.mpr within)
      obtain ⟨value', hvalue', identifies⟩ := h.ids d id (ids ▸ hid)
      rw [hvalue, Option.some.injEq] at hvalue'
      subst hvalue'
      refine .inl ⟨id, hid, ?_, fun hd => (hmem.mp hd).2 within⟩
      rw [ids]
      exact identifies.congr rfl (congrArg (·.get d) dimensions)
    · exact .inr ⟨hbeyond within, hcount (hmem.mpr ⟨hpresent, within⟩)⟩
  · have beyond : ¬ s.Resolvable values d := by
      intro within
      have hsome := (h.resolved up (Dimension.mem_all up)).mpr (within.parent scope)
      rw [← ids, hup] at hsome
      cases hsome
    exact ⟨hmem.mpr ⟨hpresent, beyond⟩, huntouched (hbeyond beyond)⟩

end Recording.Classifies

namespace Store

variable {s : Store} {v : Visit} {now : Instant}

/-- Resolving all dimensions leaves the facts alone. -/
theorem facts_run (s : Store) (values : PerDimension (Option String)) :
    (Recording.run s values).store.facts = s.facts ∧
      (Recording.run s values).store.factIds = s.factIds := by
  rw [Recording.store_run_eq]
  exact ⟨rfl, rfl⟩

/-- A fact is written where its time can be stored and the table of facts stands. -/
theorem writeFact_eq_error (e : Event) {time : Instant} (ids : PerDimension (Option ℤ))
    (unfit : ¬ (time.Storable ∧ s.facts.isTable = true)) :
    ∃ cause, s.writeFact time e ids = .error cause := by
  by_cases storable : time.Storable
  · have missing : s.facts.isTable ≠ true := fun stands => unfit ⟨storable, stands⟩
    rw [writeFact, Instant.stored_of_storable storable, ok_bind, appendFact, factRows]
    cases hfacts : s.facts with
    | absent => exact ⟨_, rfl⟩
    | view => exact ⟨_, rfl⟩
    | table rows => rw [hfacts] at missing; exact absurd rfl missing
  · exact ⟨_, writeFact_of_not_storable storable e ids⟩

/-- **How a record call ends.** -/
theorem disposes_record (s : Store) (v : Visit) (now : Instant) :
    s.Disposes v now (Recording.run s v.values)
      (s.record v.event v.attributes v.policy now) := by
  by_cases valid : v.Valid
  swap
  · obtain ⟨fault, heq⟩ := record_of_not_valid s valid now
    rw [heq]
    exact .refused valid fault
  have hfacts := (facts_run s v.values).1
  have hdropped := record_of_dropped (s := s) valid
  have hkept := record_of_kept (s := s) valid
  generalize Recording.run s v.values = r at hfacts hdropped hkept
  by_cases kept : v.policy = .reject → r.unresolved = []
  swap
  · obtain ⟨policy, hne⟩ := Classical.not_imp.mp kept
    obtain ⟨first, rest, noted⟩ := List.exists_cons_of_ne_nil hne
    rw [hdropped policy noted]
    exact .dropped valid policy noted
  rw [hkept kept]
  dsimp only
  by_cases fit : (v.time now).Storable ∧ s.facts.isTable = true
  · have stands : r.store.facts = .table r.store.factList :=
      Slot.eq_table_of_isTable (hfacts ▸ fit.2)
    rw [writeFact_of_storable stands fit.1]
    exact .written valid kept fit.1 fit.2
  · have unfit : ¬ ((v.time now).Storable ∧ r.store.facts.isTable = true) := hfacts ▸ fit
    obtain ⟨cause, hwrite⟩ := writeFact_eq_error v.event r.ids unfit
    rw [hwrite]
    exact .unwritten valid kept fit cause

namespace Disposes

variable {r : Recording} {s' : Store} {o : Outcome} {e : StatsError} {d : Dimension}

/-- A call that succeeds accounts for every dimension and appends its fact. -/
theorem of_ok (ends : s.Disposes v now r (s', .ok o))
    (classified : Recording.Classifies s v.values Dimension.all r)
    (facts : r.store.facts = s.facts) :
    (∀ d, o.Accounts s s' v.values d) ∧
      (o.unresolved.map (·.dimension)).Sublist Dimension.all ∧
      o.fact = ⟨o.id, (v.time now).toTimestamp, v.event.site, v.event.visitor, o.ids⟩ ∧
      ∃ rows, s.facts = .table rows ∧ s'.facts = .table (rows ++ [o.fact]) := by
  cases ends with
  | written valid kept storable stands =>
      refine ⟨classified.accounts rfl rfl rfl rfl, classified.sublist_noted, rfl,
        s.factList, Slot.eq_table_of_isTable stands, ?_⟩
      unfold withFact factList
      rw [facts]
      rfl

/-- A call that fails leaves the facts alone, and the whole store if the event is turned
away. -/
theorem of_error (ends : s.Disposes v now r (s', .error e)) (facts : r.store.facts = s.facts)
    (factIds : r.store.factIds = s.factIds) :
    s'.facts = s.facts ∧ s'.factIds = s.factIds ∧
      ((∃ fault, e = .invalidInput fault) ↔ ¬ v.Valid) ∧
      ((∃ fault, e = .invalidInput fault) → s' = s) := by
  cases ends with
  | refused invalid fault => exact ⟨rfl, rfl, iff_of_true ⟨fault, rfl⟩ invalid, fun _ => rfl⟩
  | dropped valid policy noted =>
      refine ⟨facts, factIds, iff_of_false ?_ (not_not_intro valid), ?_⟩
      · rintro ⟨fault, ⟨⟩⟩
      · rintro ⟨fault, ⟨⟩⟩
  | unwritten valid kept unfit cause =>
      refine ⟨facts, factIds, iff_of_false ?_ (not_not_intro valid), ?_⟩
      · rintro ⟨fault, ⟨⟩⟩
      · rintro ⟨fault, ⟨⟩⟩

variable {result : Store × Except StatsError Outcome}

/-- The dimension named is the first that stays unresolved. -/
theorem unresolved_iff (ends : s.Disposes v now r result)
    (classified : Recording.Classifies s v.values Dimension.all r) :
    (∃ s' reason, result = (s', .error (.unresolved d reason))) ↔
      v.Valid ∧ v.policy = .reject ∧ s.FirstBeyond v.values d := by
  rw [← classified.head?_noted_iff]
  constructor
  · rintro ⟨s', reason, rfl⟩
    cases ends with
    | dropped valid policy noted =>
        refine ⟨valid, policy, ?_⟩
        rw [noted]
        rfl
  · rintro ⟨valid, policy, hhead⟩
    cases ends with
    | refused invalid fault => exact absurd valid invalid
    | dropped valid policy noted =>
        rw [noted, List.map_cons, List.head?_cons, Option.some.injEq] at hhead
        subst hhead
        exact ⟨_, _, rfl⟩
    | unwritten valid kept unfit cause =>
        rw [kept policy] at hhead
        cases hhead
    | written valid kept storable stands =>
        rw [kept policy] at hhead
        cases hhead

/-- When a call succeeds. -/
theorem ok_iff (ends : s.Disposes v now r result)
    (classified : Recording.Classifies s v.values Dimension.all r) :
    (∃ s' o, result = (s', .ok o)) ↔
      v.Valid ∧ (v.time now).Storable ∧ s.facts.isTable = true ∧
        (v.policy = .reject → ∀ d, (v.values.get d).isSome → s.Resolvable v.values d) := by
  rw [← classified.noted_eq_nil_iff]
  constructor
  · rintro ⟨s', o, rfl⟩
    cases ends with
    | written valid kept storable stands => exact ⟨valid, storable, stands, kept⟩
  · rintro ⟨valid, storable, stands, kept⟩
    cases ends with
    | refused invalid fault => exact absurd valid invalid
    | dropped valid policy noted =>
        rw [kept policy] at noted
        cases noted
    | unwritten valid kept unfit cause => exact absurd ⟨storable, stands⟩ unfit
    | written valid kept storable stands => exact ⟨_, _, rfl⟩

end Disposes

/-- **A record call accounts for every dimension, or fails cleanly.**  One that
succeeds tells of each dimension that it is absent, has the id of its row, or is noted
once, in the order of all dimensions, and it appends one fact with those ids.  One that
fails leaves the facts alone; an event without a site or a path leaves the whole store
alone.  For a dimension that stays unresolved, exactly those events are dropped that
ask for it, and the first such dimension is named. -/
theorem record_classifies_or_fails_cleanly (s : Store) (v : Visit) (now : Instant) :
    (∀ s' o, s.record v.event v.attributes v.policy now = (s', .ok o) →
      (∀ d, o.Accounts s s' v.values d) ∧
        (o.unresolved.map (·.dimension)).Sublist Dimension.all ∧
        o.fact = ⟨o.id, (v.time now).toTimestamp, v.event.site, v.event.visitor, o.ids⟩ ∧
        ∃ rows, s.facts = .table rows ∧ s'.facts = .table (rows ++ [o.fact])) ∧
      (∀ s' e, s.record v.event v.attributes v.policy now = (s', .error e) →
        s'.facts = s.facts ∧ s'.factIds = s.factIds ∧
          ((∃ fault, e = .invalidInput fault) ↔ ¬ v.Valid) ∧
          ((∃ fault, e = .invalidInput fault) → s' = s)) ∧
      (∀ d, (∃ s' reason, s.record v.event v.attributes v.policy now =
          (s', .error (.unresolved d reason))) ↔
        v.Valid ∧ v.policy = .reject ∧ s.FirstBeyond v.values d) ∧
      ((∃ s' o, s.record v.event v.attributes v.policy now = (s', .ok o)) ↔
        v.Valid ∧ (v.time now).Storable ∧ s.facts.isTable = true ∧
          (v.policy = .reject → ∀ d, (v.values.get d).isSome → s.Resolvable v.values d)) := by
  have classified := Recording.classifies_run s v.values_ne_empty
  obtain ⟨hfacts, hfactIds⟩ := facts_run s v.values
  have ends := s.disposes_record v now
  refine ⟨?_, ?_, ?_, ends.ok_iff classified⟩
  · intro s' o h
    rw [h] at ends
    exact ends.of_ok classified hfacts
  · intro s' e h
    rw [h] at ends
    exact ends.of_error hfacts hfactIds
  · intro d
    exact ends.unresolved_iff classified

/-- A fresh store that lost its table of languages. -/
def withoutLanguages : Store :=
  { migrated with dimensions := migrated.dimensions.set .language .absent }

/-- A visit of which the country is not known, but the region and the language are. -/
def strayVisit (policy : Policy) : Visit where
  event := ⟨"blog", "/ ?q", none, none, 7⟩
  attributes := { region := some "Bavaria", language := some " de" }
  policy := policy

/-- Its region and its language are noted, in this order, for want of a country and of a
table, and no region is created.  It is dropped for the region if it asks for that. -/
theorem strayVisit_accounted :
    (∃ s' o, withoutLanguages.record (strayVisit .record).event (strayVisit .record).attributes
        .record (.midnight (sampleDay 0)) = (s', .ok o) ∧
      o.unresolved.map (·.dimension) = [.region, .language] ∧ s'.rowsOf .region = [] ∧
      o.ids.path = some 1 ∧ s'.lookup ⟨.path, none, "/"⟩ = .ok (some 1)) ∧
      ∃ s' reason, withoutLanguages.record (strayVisit .reject).event
          (strayVisit .reject).attributes .reject (.midnight (sampleDay 0)) =
            (s', .error (.unresolved .region reason)) ∧
        s'.facts = .table [] := by
  obtain ⟨accounts, -⟩ :=
    record_classifies_or_fails_cleanly withoutLanguages (strayVisit .record)
      (.midnight (sampleDay 0))
  obtain ⟨-, fails, -⟩ :=
    record_classifies_or_fails_cleanly withoutLanguages (strayVisit .reject)
      (.midnight (sampleDay 0))
  obtain ⟨hall, -⟩ := accounts _ _ rfl
  obtain ⟨id, hid, identifies, -⟩ | ⟨hnone, -⟩ := (hall .path).present "/" rfl
  · cases hid
    exact ⟨⟨_, _, rfl, rfl, rfl, rfl, identifies.lookup⟩, _, _, rfl, (fails _ _ rfl).1⟩
  · cases hnone

end Store

end Footfall
