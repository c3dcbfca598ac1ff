import Mathlib
import Footfall.Proofs.Store.Reference
import Footfall.Visit.Record

/-!
# What a visit leaves behind, without ids

A recorded event becomes a fact whose nine ids depend on everything that was
recorded before.  What does not depend on it is whether a fact is written at
all, and which names its ids lead to: both are functions of the visit alone,
collected in a `Sighting`.

## Main Definitions

* `Visit` — a call of `Store.record`, without the clock
* `settled` — the values that get an id: a region only in a country that has
  one, a city only in such a region
* `Sighting` — a fact with names in place of ids
* `Visit.sighting?` — the sighting of a visit, if it leaves one

## Main Statements

* `Recording.run_settles` — a resolution of all dimensions finds the settled
  values
* `Store.record_of_refused`, `Store.record_of_storable`,
  `Store.record_of_not_storable` — what a record call does
* `Store.record_spec` — it appends the fact of its sighting
-/

namespace Footfall

/-- An event with what is known of its client and what to do if a dimension
cannot be resolved. -/
structure Visit where
  /-- The page load. -/
  event : Event
  /-- What is known of the client. -/
  attributes : Attributes
  /-- What happens to the event if a dimension stays unresolved. -/
  policy : Policy

/-! ## Settled values -/

/-- The value of a dimension if all dimensions above it have one too. -/
def settledAt (values : PerDimension (Option String)) : Dimension → Option String
  | .region => values.country.bind fun _ => values.region
  | .city => values.country.bind fun _ => values.region.bind fun _ => values.city
  | d => values.get d

/-- The values that get an id. -/
def settled (values : PerDimension (Option String)) : PerDimension (Option String) :=
  .ofFn (settledAt values)

section Settled

variable {values : PerDimension (Option String)} {d : Dimension}

theorem get_settled_of_root (h : d.parent? = none) : (settled values).get d = values.get d := by
  cases d <;> first | rfl | cases h

theorem get_settled_of_parent {up : Dimension} (h : d.parent? = some up) :
    (settled values).get d = ((settled values).get up).bind fun _ => values.get d := by
  cases d <;> cases h
  · rfl
  · simp only [settled, PerDimension.get_ofFn, settledAt]
    cases values.country <;> rfl

theorem get_settled_of_none (h : values.get d = none) : (settled values).get d = none := by
  cases hup : d.parent? with
  | none => rw [get_settled_of_root hup, h]
  | some up => rw [get_settled_of_parent hup, h, Option.bind_fun_none]

/-- A value is settled, or it gets no id. -/
theorem get_settled_eq_or (values : PerDimension (Option String)) (d : Dimension) :
    (settled values).get d = values.get d ∨ (settled values).get d = none := by
  cases hup : d.parent? with
  | none => exact .inl (get_settled_of_root hup)
  | some up =>
      rw [get_settled_of_parent hup]
      cases (settled values).get up with
      | none => exact .inr rfl
      | some name => exact .inl rfl

end Settled

/-! ## The order of resolution -/

namespace Dimension

theorem nodup_all : all.Nodup := by
  decide

/-- What scopes a dimension comes before it. -/
theorem idxOf_parent {d up : Dimension} (h : d.parent? = some up) :
    all.idxOf up < all.idxOf d := by
  cases d <;> cases h <;> decide

variable {before after : List Dimension} {d : Dimension}

theorem notMem_before (h : all = before ++ d :: after) : d ∉ before := by
  have hnodup := nodup_all
  rw [h] at hnodup
  exact fun hd => (List.disjoint_of_nodup_append hnodup) hd List.mem_cons_self

theorem parent_mem_before (h : all = before ++ d :: after) {up : Dimension}
    (hup : d.parent? = some up) : up ∈ before := by
  have hlt := idxOf_parent hup
  rw [h, List.idxOf_append_of_notMem (notMem_before h), List.idxOf_cons_self] at hlt
  by_contra hmem
  rw [List.idxOf_append_of_notMem hmem] at hlt
  omega

/-- No dimension up to `d` is scoped by `d`. -/
theorem parent_ne (h : all = before ++ d :: after) {e : Dimension} (he : e ∈ before ∨ e = d) :
    e.parent? ≠ some d := by
  intro hup
  rcases he with he | rfl
  · obtain ⟨pre, post, rfl⟩ := List.append_of_mem he
    have hsplit : all = pre ++ e :: (post ++ d :: after) := by
      rw [h, List.append_assoc, List.cons_append]
    exact notMem_before h (List.mem_append_left _ (parent_mem_before hsplit hup))
  · exact notMem_before h (parent_mem_before h hup)

/-- So what scopes a dimension up to `d` does not change with the value for `d`. -/
theorem bind_get_set {α : Type} (h : all = before ++ d :: after) {e : Dimension}
    (he : e ∈ before ∨ e = d) (ids : PerDimension (Option α)) (id : Option α) :
    e.parent?.bind (ids.set d id).get = e.parent?.bind ids.get := by
  have hne := parent_ne h he
  cases hup : e.parent? with
  | none => rfl
  | some up =>
      rw [hup, Ne, Option.some.injEq] at hne
      simp [PerDimension.get_set, Ne.symm hne]

end Dimension

/-- A key with a value, and with a parent exactly if its dimension has one, is not refused. -/
theorem NaturalKey.validate_eq_ok {k : NaturalKey} (nonempty : k.value ≠ "")
    (scope : k.parent.isSome = k.dimension.parent?.isSome) : k.validate = .ok () := by
  have hempty : k.value.isEmpty = false := by simpa using nonempty
  simp only [validate, hempty, Dimension.parentColumn?, Bool.false_eq_true, if_false]
  cases hup : k.dimension.parent? <;> cases hp : k.parent <;> simp [hup, hp] at scope ⊢

/-! ## Resolving all dimensions -/

namespace Recording

/-- What holds at the start, and after each dimension if it held before it, holds in the
end. -/
theorem run_induction {s : Store} {values : PerDimension (Option String)}
    {P : List Dimension → Recording → Prop} (start : P [] (start s))
    (advance : ∀ {before d after r}, Dimension.all = before ++ d :: after → P before r →
      P (before ++ [d]) (r.advance values d)) : P Dimension.all (run s values) := by
  have hfold : ∀ rest before r, Dimension.all = before ++ rest → P before r →
      P Dimension.all (rest.foldl (Recording.advance values) r) := by
    intro rest
    induction rest with
    | nil =>
        intro before r order h
        rwa [order, List.append_nil]
    | cons d rest ih =>
        intro before r order h
        refine ih _ _ ?_ (advance order h)
        rw [order, List.append_assoc, List.singleton_append]
  exact hfold Dimension.all [] _ rfl start

/-- What holds after the dimensions `before` were resolved on `s`. -/
structure Settles (s : Store) (values : PerDimension (Option String))
    (before : List Dimension) (r : Recording) : Prop where
  /-- Reference tables grew, and nothing else changed. -/
  grown : s.Grown r.store
  /-- Every table stands. -/
  complete : r.store.Complete
  /-- The reference tables are numbered soundly. -/
  referential : r.store.Referential
  /-- The ids lead to rows scoped by each other. -/
  holds : r.store.Holds r.ids
  /-- The other dimensions have no id yet. -/
  pending : ∀ d, d ∉ before → r.ids.get d = none
  /-- The names found are the settled values. -/
  names : ∀ d ∈ before, nameOf (r.store.rowsOf d) (r.ids.get d) = (settled values).get d
  /-- A dimension is noted as unresolved if it has a value that is not settled. -/
  unresolved : ∀ d, d ∈ r.unresolved.map (·.dimension) ↔
    d ∈ before ∧ (settled values).get d ≠ values.get d

variable {s : Store} {values : PerDimension (Option String)} {before after : List Dimension}
  {d : Dimension} {r : Recording}

theorem settles_start (c : s.Complete) (sound : s.Referential) :
    Settles s values [] (start s) where
  grown := .refl s
  complete := c
  referential := sound
  holds := by
    intro d id hid
    simp [start] at hid
  pending := by simp [start]
  names := by simp
  unresolved := by simp [start]

/-- A dimension whose value is settled is not noted. -/
theorem Settles.noted_concat (h : Settles s values before r)
    (hsettled : (settled values).get d = values.get d) (e : Dimension) :
    e ∈ r.unresolved.map (·.dimension) ↔
      e ∈ before ++ [d] ∧ (settled values).get e ≠ values.get e := by
  rw [h.unresolved, List.mem_append, List.mem_singleton]
  constructor
  · rintro ⟨he, hne⟩
    exact ⟨.inl he, hne⟩
  · rintro ⟨he | rfl, hne⟩
    · exact ⟨he, hne⟩
    · exact absurd hsettled hne

/-- A dimension without a value is passed over. -/
theorem Settles.skip (h : Settles s values before r) (fresh : d ∉ before)
    (absent : values.get d = none) : Settles s values (before ++ [d]) r where
  grown := h.grown
  complete := h.complete
  referential := h.referential
  holds := h.holds
  pending := by
    intro e he
    exact h.pending e fun hmem => he (List.mem_append_left _ hmem)
  names := by
    intro e he
    rcases List.mem_append.mp he with he | he
    · exact h.names e he
    · obtain rfl := List.mem_singleton.mp he
      rw [h.pending e fresh, get_settled_of_none absent]
      rfl
  unresolved := h.noted_concat (by rw [absent, get_settled_of_none absent])

/-- A dimension under a parent without an id stays unresolved. -/
theorem Settles.miss (h : Settles s values before r) (fresh : d ∉ before) {value reason : String}
    (hvalue : values.get d = some value) (unsettled : (settled values).get d = none) :
    Settles s values (before ++ [d]) (r.miss d reason) where
  grown := h.grown
  complete := h.complete
  referential := h.referential
  holds := h.holds
  pending := by
    intro e he
    exact h.pending e fun hmem => he (List.mem_append_left _ hmem)
  names := by
    intro e he
    rcases List.mem_append.mp he with he | he
    · exact h.names e he
    · obtain rfl := List.mem_singleton.mp he
      rw [show (r.miss e reason).ids.get e = none from h.pending e fresh, unsettled]
      rfl
  unresolved := by
    intro e
    simp only [Recording.miss, List.map_append, List.map_cons, List.map_nil, List.mem_append,
      List.mem_singleton, h.unresolved]
    constructor
    · rintro (⟨he, hne⟩ | rfl)
      · exact ⟨.inl he, hne⟩
      · exact ⟨.inr rfl, by rw [hvalue, unsettled]; exact (Option.some_ne_none value).symm⟩
    · rintro ⟨he | rfl, hne⟩
      · exact .inl ⟨he, hne⟩
      · exact .inr rfl

theorem resolve_of_ok {k : NaturalKey} {id : ℤ} (h : (r.store.resolve k).2 = .ok id) :
    r.resolve k =
      { r with store := (r.store.resolve k).1, ids := r.ids.set k.dimension (some id) } := by
  unfold Recording.resolve
  rw [show r.store.resolve k = ((r.store.resolve k).1, .ok id) from Prod.ext rfl h]

/-- With the id of a row of its own, ids still lead to rows scoped by each other. -/
theorem Settles.holds_set (h : Settles s values before r)
    (order : Dimension.all = before ++ d :: after) {s' : Store} (grown : r.store.Grown s')
    {row : DimensionRow} (mem : row ∈ s'.rowsOf d)
    (parent : row.parent = d.parent?.bind r.ids.get) :
    s'.Holds (r.ids.set d (some row.id)) := by
  intro e id hid
  simp only [PerDimension.get_set] at hid
  split at hid
  · next heq =>
    subst heq
    exact ⟨row, mem, Option.some.inj hid,
      by rw [parent, Dimension.bind_get_set order (.inr rfl)]⟩
  · have he : e ∈ before := by
      by_contra hout
      rw [h.pending e hout] at hid
      cases hid
    obtain ⟨row', hmem', hid', hparent'⟩ := h.holds e id hid
    exact ⟨row', (grown.rows e).subset hmem', hid',
      by rw [hparent', Dimension.bind_get_set order (.inl he)]⟩

/-- A dimension whose parent, if it has one, has an id gets the id of its row. -/
theorem Settles.resolve (h : Settles s values before r)
    (order : Dimension.all = before ++ d :: after)
    {value : String} (hvalue : values.get d = some value) (nonempty : value ≠ "")
    {parent : Option ℤ} (hparent : parent = d.parent?.bind r.ids.get)
    (hsome : parent.isSome = d.parent?.isSome)
    (hsettled : (settled values).get d = some value) :
    Settles s values (before ++ [d]) (r.resolve ⟨d, parent, value⟩) := by
  obtain ⟨grown, complete, sound, hrow⟩ :=
    Store.resolve_spec h.complete h.referential ⟨d, parent, value⟩
  obtain ⟨row, hmem, hrowParent, hrowValue, hresult⟩ :=
    hrow (NaturalKey.validate_eq_ok nonempty hsome)
  rw [resolve_of_ok hresult]
  exact {
    grown := h.grown.trans grown
    complete := complete
    referential := sound
    holds := h.holds_set order grown hmem (hrowParent.trans hparent)
    pending := by
      intro e he
      simp only [List.mem_append, List.mem_singleton, not_or] at he
      simp only [PerDimension.get_set, if_neg (Ne.symm he.2)]
      exact h.pending e he.1
    names := by
      intro e he
      by_cases hd : d = e
      · subst hd
        simp only [PerDimension.get_set, if_true]
        rw [(sound d).nameOf hmem, hrowValue, hsettled]
      · -- the rows of the names found so far are still there
        have hname := congrArg (PerDimension.get · e) (grown.names h.referential sound h.holds)
        simp only [Store.names, PerDimension.get_ofFn] at hname
        simp only [PerDimension.get_set, if_neg hd]
        rw [hname]
        rcases List.mem_append.mp he with he | he
        · exact h.names e he
        · exact absurd (List.mem_singleton.mp he).symm hd
    unresolved := h.noted_concat (by rw [hvalue, hsettled]) }

theorem Settles.advance (h : Settles s values before r)
    (order : Dimension.all = before ++ d :: after)
    (nonempty : ∀ d value, values.get d = some value → value ≠ "") :
    Settles s values (before ++ [d]) (r.advance values d) := by
  have fresh := Dimension.notMem_before order
  unfold Recording.advance
  cases hvalue : values.get d with
  | none => exact h.skip fresh hvalue
  | some value =>
      dsimp only
      cases hup : d.parent? with
      | none =>
          exact h.resolve order hvalue (nonempty d value hvalue) (by rw [hup, Option.bind_none])
            (by rw [hup]; rfl) (by rw [get_settled_of_root hup, hvalue])
      | some up =>
          have hmem := Dimension.parent_mem_before order hup
          have hname := h.names up hmem
          dsimp only
          -- the name of the parent tells whether it was given an id
          cases hid : r.ids.get up with
          | none =>
              rw [hid] at hname
              refine h.miss fresh hvalue ?_
              rw [get_settled_of_parent hup, ← hname]
              rfl
          | some id =>
              obtain ⟨row, hrow, rfl, -⟩ := h.holds up id hid
              rw [hid, (h.referential up).nameOf hrow] at hname
              refine h.resolve order hvalue (nonempty d value hvalue)
                (by rw [hup, Option.bind_some, hid]) (by rw [hup]; rfl) ?_
              rw [get_settled_of_parent hup, ← hname, Option.bind_some, hvalue]

/-- **A resolution of all dimensions finds the settled values.** -/
theorem run_settles (c : s.Complete) (sound : s.Referential)
    (nonempty : ∀ d value, values.get d = some value → value ≠ "") :
    Settles s values Dimension.all (run s values) :=
  run_induction (settles_start c sound) fun order h => h.advance order nonempty

/-- The names behind the ids found. -/
theorem Settles.names_eq (h : Settles s values Dimension.all r) :
    r.store.names r.ids = settled values := by
  ext1 d
  rw [Store.names, PerDimension.get_ofFn, h.names d (Dimension.mem_all d)]

theorem Settles.unresolved_eq_nil (h : Settles s values Dimension.all r) :
    r.unresolved = [] ↔ settled values = values := by
  rw [← List.map_eq_nil_iff (f := (·.dimension)), List.eq_nil_iff_forall_not_mem]
  simp only [h.unresolved, Dimension.mem_all, true_and, not_not]
  constructor
  · intro heq
    ext1 d
    exact heq d
  · intro heq d
    rw [heq]

end Recording

/-! ## Sightings -/

/-- A fact with names in place of ids. -/
structure Sighting where
  /-- When the page was viewed. -/
  time : Timestamp
  /-- Site of the page. -/
  site : String
  /-- Fingerprint of the visitor. -/
  visitor : ℕ
  /-- The value of each dimension. -/
  names : PerDimension (Option String)
  deriving DecidableEq

/-- A fact as its names show it. -/
def Store.sight (s : Store) (f : Fact) : Sighting :=
  ⟨f.time, f.site, f.visitor, s.names f.ids⟩

/-- What a choice of facts by what they show shows. -/
theorem Store.map_sight_filter (s : Store) (p : Sighting → Bool) (facts : List Fact) :
    (facts.filter fun f => p (s.sight f)).map s.sight = (facts.map s.sight).filter p := by
  rw [List.filter_map]
  rfl

namespace Visit

/-- A visit of which nothing is known but site, path, time and visitor. -/
def plain (site path : String) (time : Instant) (visitor : ℕ) : Visit where
  event := ⟨site, path, none, some time, visitor⟩
  attributes := {}
  policy := .record

/-- The value of each dimension, if it is present. -/
def values (v : Visit) : PerDimension (Option String) :=
  v.event.values v.attributes

/-- When the page was viewed. -/
def time (v : Visit) (now : Instant) : Instant :=
  v.event.time.getD now

/-- The visit has a site, and a path of which something is left. -/
def Valid (v : Visit) : Prop :=
  v.event.site.isEmpty = false ∧ (withoutQuery v.event.path).isEmpty = false

/-- Whether the visit is refused, whatever the store holds: it has no site or no
path, or it asks to be dropped if a dimension stays unresolved and one does. -/
def Refused (v : Visit) : Prop :=
  v.event.site.isEmpty ∨ (withoutQuery v.event.path).isEmpty ∨
    (v.policy = .reject ∧ settled v.values ≠ v.values)

instance (v : Visit) : Decidable v.Refused :=
  inferInstanceAs (Decidable (_ ∨ _ ∨ _))

/-- **The sighting of a visit**, if it leaves one. -/
def sighting? (v : Visit) (now : Instant) : Option Sighting :=
  if v.Refused ∨ ¬ (v.time now).Storable then none
  else some ⟨(v.time now).toTimestamp, v.event.site, v.event.visitor, settled v.values⟩

/-- A present value is not empty. -/
theorem values_ne_empty (v : Visit) (d : Dimension) (value : String)
    (h : v.values.get d = some value) : value ≠ "" := by
  rintro rfl
  simp only [values, Event.values, PerDimension.get_ofFn, present] at h
  have := (Option.filter_eq_some_iff.mp h).2
  simp at this

end Visit

namespace Store

variable {s : Store}

/-- The store with one more fact. -/
def withFact (s : Store) (time : Timestamp) (site : String) (visitor : ℕ)
    (ids : PerDimension (Option ℤ)) : Store :=
  { s with
    facts := .table (s.factList ++ [⟨(s.factIds.getD 0 : ℕ) + 1, time, site, visitor, ids⟩])
    factIds := some (s.factIds.getD 0 + 1) }

theorem appendFact_eq (stands : s.facts = .table s.factList) (time : Timestamp) (site : String)
    (visitor : ℕ) (ids : PerDimension (Option ℤ)) :
    s.appendFact time site visitor ids =
      .ok (s.withFact time site visitor ids, (s.factIds.getD 0 : ℕ) + 1) := by
  rw [appendFact, factRows, stands]
  rfl

theorem complete_withFact (c : s.Complete) (time : Timestamp) (site : String) (visitor : ℕ)
    (ids : PerDimension (Option ℤ)) : (s.withFact time site visitor ids).Complete where
  dimensions := c.dimensions
  facts := rfl
  daily := c.daily
  hourly := c.hourly
  watermarks := c.watermarks

/-- What a record call made of a store: reference tables grew first, and then
the fact of the sighting was appended, if there is one. -/
inductive Recorded (s : Store) : Option Sighting → Store → Prop where
  /-- No fact was written. -/
  | nothing {s' : Store} (grown : s.Grown s') (complete : s'.Complete)
      (sound : s'.Referential) : Recorded s none s'
  /-- The fact of a sighting was written. -/
  | fact {s' : Store} (grown : s.Grown s') (complete : s'.Complete)
      (sound : s'.Referential) (time : Timestamp) (site : String) (visitor : ℕ)
      {ids : PerDimension (Option ℤ)} (holds : s'.Holds ids) :
      Recorded s (some ⟨time, site, visitor, s'.names ids⟩) (s'.withFact time site visitor ids)

theorem writeFact_of_storable (stands : s.facts = .table s.factList) {time : Instant}
    (h : time.Storable) (e : Event) (ids : PerDimension (Option ℤ)) :
    s.writeFact time e ids = .ok (s.withFact time.toTimestamp e.site e.visitor ids,
      (s.factIds.getD 0 : ℕ) + 1) := by
  rw [writeFact, Instant.stored_of_storable h]
  exact appendFact_eq stands _ _ _ _

theorem writeFact_of_not_storable {time : Instant} (h : ¬ time.Storable) (e : Event)
    (ids : PerDimension (Option ℤ)) :
    s.writeFact time e ids = .error (.notTimestamp time.storedText) := by
  rw [writeFact, Instant.stored_of_not_storable h]
  rfl

/-- A visit without a site or a path is turned away before the store is touched. -/
theorem record_of_not_valid (s : Store) {v : Visit} (invalid : ¬ v.Valid) (now : Instant) :
    ∃ fault, s.record v.event v.attributes v.policy now = (s, .error (.invalidInput fault)) := by
  unfold record
  by_cases hsite : v.event.site.isEmpty
  · rw [if_pos hsite]
    exact ⟨_, rfl⟩
  by_cases hpath : (withoutQuery v.event.path).isEmpty
  · rw [if_neg hsite, if_pos hpath]
    exact ⟨_, rfl⟩
  · exact absurd ⟨Bool.not_eq_true _ ▸ hsite, Bool.not_eq_true _ ▸ hpath⟩ invalid

/-- It is dropped if it asks for that and a dimension stays unresolved. -/
theorem record_of_dropped {v : Visit} (valid : v.Valid) (policy : v.policy = .reject)
    {first : Unresolved} {rest : List Unresolved}
    (h : (Recording.run s v.values).unresolved = first :: rest) (now : Instant) :
    s.record v.event v.attributes v.policy now =
      ((Recording.run s v.values).store, .error (.unresolved first.dimension first.reason)) := by
  rw [record, ← Visit.values, valid.1, valid.2, if_neg Bool.false_ne_true,
    if_neg Bool.false_ne_true]
  simp only [policy, h]

/-- Otherwise its fact is written. -/
theorem record_of_kept {v : Visit} (valid : v.Valid)
    (kept : v.policy = .reject → (Recording.run s v.values).unresolved = []) (now : Instant) :
    s.record v.event v.attributes v.policy now =
      let r := Recording.run s v.values
      match r.store.writeFact (v.time now) v.event r.ids with
      | .error cause => (r.store, .error (.write cause))
      | .ok (s', id) => (s', .ok ⟨id, v.time now, v.event.site, v.event.visitor, r.ids,
          r.unresolved⟩) := by
  rw [record, ← Visit.values, ← Visit.time, valid.1, valid.2, if_neg Bool.false_ne_true,
    if_neg Bool.false_ne_true]
  dsimp only
  split
  · next first rest hpolicy hunresolved =>
    rw [kept hpolicy] at hunresolved
    cases hunresolved
  · rfl

/-- A visit that is refused leaves an error and no fact. -/
theorem record_of_refused (c : s.Complete) (sound : s.Referential) {v : Visit}
    (refused : v.Refused) (now : Instant) :
    ∃ s' e, s.record v.event v.attributes v.policy now = (s', .error e) ∧ s.Grown s' ∧
      s'.Complete ∧ s'.Referential := by
  have hrun := Recording.run_settles c sound v.values_ne_empty
  by_cases valid : v.Valid
  · obtain ⟨hpolicy, hne⟩ := refused.resolve_left (valid.1 ▸ Bool.false_ne_true) |>.resolve_left
      (valid.2 ▸ Bool.false_ne_true)
    rw [Ne, ← hrun.unresolved_eq_nil] at hne
    obtain ⟨first, rest, hunresolved⟩ := List.exists_cons_of_ne_nil hne
    exact ⟨_, _, record_of_dropped valid hpolicy hunresolved now, hrun.grown, hrun.complete,
      hrun.referential⟩
  · obtain ⟨fault, heq⟩ := record_of_not_valid s valid now
    exact ⟨_, _, heq, .refl s, c, sound⟩

/-- Any other visit is written with the ids of its settled values. -/
theorem record_of_not_refused (c : s.Complete) (sound : s.Referential) {v : Visit}
    (kept : ¬ v.Refused) (now : Instant) :
    s.record v.event v.attributes v.policy now =
      let r := Recording.run s v.values
      match r.store.writeFact (v.time now) v.event r.ids with
      | .error cause => (r.store, .error (.write cause))
      | .ok (s', id) => (s', .ok ⟨id, v.time now, v.event.site, v.event.visitor, r.ids,
          r.unresolved⟩) := by
  have hrun := Recording.run_settles c sound v.values_ne_empty
  obtain ⟨hsite, hpath, hresolved⟩ := not_or.mp kept |>.imp_right not_or.mp
  refine record_of_kept ⟨Bool.not_eq_true _ ▸ hsite, Bool.not_eq_true _ ▸ hpath⟩ ?_ now
  intro hpolicy
  rw [hrun.unresolved_eq_nil]
  by_contra hne
  exact hresolved ⟨hpolicy, hne⟩

/-- A visit that is not refused and bears a time that the store can keep leaves a fact. -/
theorem record_of_storable (c : s.Complete) (sound : s.Referential) {v : Visit} {now : Instant}
    (kept : ¬ v.Refused) (storable : (v.time now).Storable) :
    s.record v.event v.attributes v.policy now =
      let r := Recording.run s v.values
      (r.store.withFact (v.time now).toTimestamp v.event.site v.event.visitor r.ids,
        .ok ⟨(r.store.factIds.getD 0 : ℕ) + 1, v.time now, v.event.site, v.event.visitor, r.ids,
          r.unresolved⟩) := by
  have hrun := Recording.run_settles c sound v.values_ne_empty
  rw [record_of_not_refused c sound kept]
  simp only [writeFact_of_storable hrun.complete.facts storable]

/-- At any other time it leaves an error. -/
theorem record_of_not_storable (c : s.Complete) (sound : s.Referential) {v : Visit}
    {now : Instant} (kept : ¬ v.Refused) (late : ¬ (v.time now).Storable) :
    s.record v.event v.attributes v.policy now =
      ((Recording.run s v.values).store,
        .error (.write (.notTimestamp (v.time now).storedText))) := by
  rw [record_of_not_refused c sound kept]
  simp only [writeFact_of_not_storable late]

/-- **A record call appends the fact of its sighting.** -/
theorem record_spec (c : s.Complete) (sound : s.Referential) (v : Visit) (now : Instant) :
    s.Recorded (v.sighting? now) (s.record v.event v.attributes v.policy now).1 := by
  have hrun := Recording.run_settles c sound v.values_ne_empty
  by_cases refused : v.Refused
  · obtain ⟨s', e, heq, grown, complete, sound'⟩ := record_of_refused c sound refused now
    rw [heq, Visit.sighting?, if_pos (.inl refused)]
    exact .nothing grown complete sound'
  by_cases storable : (v.time now).Storable
  · rw [record_of_storable c sound refused storable, Visit.sighting?,
      if_neg (by simp [refused, storable]), ← hrun.names_eq]
    exact .fact hrun.grown hrun.complete hrun.referential _ _ _ hrun.holds
  · rw [record_of_not_storable c sound refused storable, Visit.sighting?, if_pos (.inr storable)]
    generalize Recording.run s v.values = r at hrun
    exact .nothing hrun.grown hrun.complete hrun.referential

end Store

end Footfall
