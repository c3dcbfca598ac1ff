import Mathlib
import Footfall.Proofs.Store.Later
import Footfall.Proofs.Visit.Canonical

/-!
# Values that are restated

What a visit stores is trimmed, cut and in lower case, and a visit that restates it is
not changed any further.  So it resolves to the rows that are there, under whatever the
visits before it have left, and no source is split over two rows.  Values without an id
are not stored; a visit that leaves them out leaves out nothing that was found.

## Main Definitions

* `CanonicalValues` — values that are kept as they are
* `Visit.Restates` — a visit says what was stored
* `Recording.RowAt` — the row that a dimension was resolved to
* `Store.StoresValues`, `Store.Recognizes` — what a record call stored, and a store that
  finds it again

## Main Statements

* `Visit.Restates.values_eq` — a visit that restates canonical values has these values
* `Recording.run_of_rows` — values with rows resolve to these rows
* `Store.record_canonical` — what is stored is canonical, and found again ever after
-/

namespace Footfall

/-! ## Canonical values -/

/-- **Values that are kept as they are.** -/
structure CanonicalValues (values : PerDimension (Option String)) : Prop where
  /-- None is empty or has blanks around it. -/
  trimmed : ∀ d text, values.get d = some text → Trimmed text
  /-- There is a page, without query and fragment. -/
  path : ∃ text, values.get .path = some text ∧ ∀ c ∈ text.toList, c ≠ '?' ∧ c ≠ '#'
  /-- The referrer is a host, without marks and capitals. -/
  referrer : ∀ text, values.get .referrer = some text →
    ∀ c ∈ text.toList, c ≠ '/' ∧ c ≠ '?' ∧ c ≠ '#' ∧ c ≠ '@' ∧ c ≠ ':' ∧ c.isUpper = false

/-- **A visit restates some values**: its path, its referrer and its attributes are these,
each absent where there is none. -/
structure Visit.Restates (v : Visit) (values : PerDimension (Option String)) : Prop where
  /-- The path is the page. -/
  path : values.get .path = some v.event.path
  /-- The referrer is the host, if there is one. -/
  referrer : v.event.referrer = values.get .referrer
  /-- What is known of the client is the same. -/
  attributes : ∀ d, d ≠ .referrer → d ≠ .path → v.attributes.get d = values.get d

/-- The marks of a path and of a host, one by one. -/
theorem startsTail_eq_false_iff {c : Char} : startsTail c = false ↔ c ≠ '?' ∧ c ≠ '#' := by
  simp only [startsTail, Bool.or_eq_false_iff, beq_eq_false_iff_ne]

theorem isHostChar_iff_ne {c : Char} :
    isHostChar c = true ↔
      c ≠ '/' ∧ c ≠ '?' ∧ c ≠ '#' ∧ c ≠ '@' ∧ c ≠ ':' ∧ c.isUpper = false := by
  simp only [isHostChar_eq_true_iff, endsAuthority, Bool.or_eq_false_iff, beq_eq_false_iff_ne,
    and_assoc]

/-- **A visit that restates canonical values has these values.** -/
theorem Visit.Restates.values_eq {v : Visit} {values : PerDimension (Option String)}
    (h : v.Restates values) (canonical : CanonicalValues values) : v.values = values := by
  have hkept : ∀ d, present (values.get d) = values.get d := by
    intro d
    cases hd : values.get d with
    | none => rfl
    | some text => exact (canonical.trimmed d text hd).present_eq
  ext1 d
  rw [Visit.values, Event.get_values]
  by_cases hreferrer : d = .referrer
  · subst hreferrer
    have hhost : v.event.referrer.bind referrerHost = values.get .referrer := by
      rw [h.referrer]
      cases hd : values.get .referrer with
      | none => rfl
      | some host =>
          rw [Option.bind_some]
          exact referrerHost_eq_self (canonical.trimmed _ host hd) fun c hc =>
            isHostChar_iff_ne.mpr (canonical.referrer host hd c hc)
    rw [Event.given, hhost, hkept]
  by_cases hpath : d = .path
  · subst hpath
    obtain ⟨text, htext, hplain⟩ := canonical.path
    obtain rfl : text = v.event.path := Option.some.inj (htext.symm.trans h.path)
    rw [Event.given, withoutQuery_eq_self (canonical.trimmed _ _ htext) fun c hc =>
      startsTail_eq_false_iff.mpr (hplain c hc), ← htext, hkept]
  · have hgiven : v.event.given v.attributes d = v.attributes.get d := by
      cases d <;> first | rfl | contradiction
    rw [hgiven, h.attributes d hreferrer hpath, hkept]

/-- **The values of a visit are canonical**, however many of them are left out. -/
theorem Visit.canonicalValues {v : Visit} {values : PerDimension (Option String)}
    (some_of : ∀ d text, values.get d = some text → v.values.get d = some text)
    (path : (values.get .path).isSome) : CanonicalValues values := by
  have hpresent : ∀ d text, values.get d = some text →
      present (v.event.given v.attributes d) = some text := by
    intro d text h
    rw [← Event.get_values]
    exact some_of d text h
  refine ⟨fun d text h => (present_eq_some_iff.mp (hpresent d text h)).1, ?_, ?_⟩
  · obtain ⟨text, htext⟩ := Option.isSome_iff_exists.mp path
    have hvalue := hpresent _ text htext
    rw [Event.given] at hvalue
    exact ⟨text, htext, fun c hc => startsTail_eq_false_iff.mp
      (not_startsTail_of_mem_withoutQuery (mem_of_present hvalue hc))⟩
  · intro text h c hc
    have hvalue := hpresent _ text h
    rw [Event.given] at hvalue
    cases hhost : v.event.referrer.bind referrerHost with
    | none =>
        rw [hhost] at hvalue
        cases hvalue
    | some host =>
        rw [hhost] at hvalue
        obtain ⟨raw, -, hraw⟩ := Option.bind_eq_some_iff.mp hhost
        exact isHostChar_iff_ne.mp (isHostChar_of_referrerHost hraw (mem_of_present hvalue hc))

/-! ## Rows behind ids -/

namespace Recording

/-- **The row that a dimension was resolved to**, which is the first one of its key. -/
structure RowAt (r : Recording) (values : PerDimension (Option String)) (d : Dimension)
    (row : DimensionRow) : Prop where
  /-- The id is that of the row. -/
  id : r.ids.get d = some row.id
  /-- It is scoped by the id of the dimension above. -/
  parent : row.parent = d.parent?.bind r.ids.get
  /-- It has the value. -/
  value : values.get d = some row.value
  /-- Its key is in order. -/
  valid : NaturalKey.validate ⟨d, row.parent, row.value⟩ = .ok ()
  /-- Whoever looks the key up finds the row. -/
  found : (r.store.rowsOf d).find? (NaturalKey.names ⟨d, row.parent, row.value⟩) = some row

variable {s t : Store} {values others : PerDimension (Option String)} {r : Recording}
  {d : Dimension}

/-- **The values that have an id.** -/
def kept (r : Recording) (values : PerDimension (Option String)) : PerDimension (Option String) :=
  .ofFn fun d => (r.ids.get d).bind fun _ => values.get d

theorem get_kept : (r.kept values).get d = (r.ids.get d).bind fun _ => values.get d :=
  PerDimension.get_ofFn _ d

theorem get_of_get_kept {text : String} (h : (r.kept values).get d = some text) :
    values.get d = some text := by
  rw [get_kept, Option.bind_eq_some_iff] at h
  exact h.choose_spec.2

/-- **Behind each id there is such a row**, if all tables stand. -/
theorem Classifies.exists_rowAt (h : Classifies s values Dimension.all r)
    (nonempty : ∀ d value, values.get d = some value → value ≠ "")
    (stands : ∀ d, r.store.dimensions.get d = .table (r.store.rowsOf d)) {id : ℤ}
    (hid : r.ids.get d = some id) : ∃ row, r.RowAt values d row := by
  obtain ⟨value, hvalue, identifies⟩ := h.ids d id hid
  have hscope : (d.parent?.bind r.ids.get).isSome = d.parent?.isSome := by
    cases hup : d.parent? with
    | none => rfl
    | some up =>
        have within := (h.resolved d (Dimension.mem_all d)).mp (hid ▸ rfl)
        exact (h.resolved up (Dimension.mem_all up)).mpr (within.parent hup)
  have valid := NaturalKey.validate_eq_ok (k := ⟨d, d.parent?.bind r.ids.get, value⟩)
    (nonempty d value hvalue) hscope
  have hlookup := identifies.lookup
  rw [Store.lookup_eq (stands d) valid, Except.ok.injEq, Option.map_eq_some_iff] at hlookup
  obtain ⟨row, hfound, rfl⟩ := hlookup
  have hnames := List.find?_some hfound
  simp only [NaturalKey.names, Bool.and_eq_true, beq_iff_eq, NaturalKey.scope_eq valid] at hnames
  obtain ⟨hparent, rfl⟩ := hnames
  exact ⟨row, hid, hparent, hvalue, hparent ▸ valid, hparent ▸ hfound⟩

/-- Each dimension has such a row, or neither an id nor a value that is kept. -/
theorem Classifies.rowAt_or_none (h : Classifies s values Dimension.all r)
    (nonempty : ∀ d value, values.get d = some value → value ≠ "")
    (stands : ∀ d, r.store.dimensions.get d = .table (r.store.rowsOf d)) (d : Dimension) :
    (r.ids.get d = none ∧ (r.kept values).get d = none) ∨
      ∃ row, r.RowAt values d row ∧ (r.kept values).get d = some row.value := by
  rw [get_kept]
  cases hid : r.ids.get d with
  | none => exact .inl ⟨rfl, rfl⟩
  | some id =>
      obtain ⟨row, hrow⟩ := h.exists_rowAt nonempty stands hid
      exact .inr ⟨row, hrow, hrow.value⟩

/-- A table has gained the row of the value that is kept at most. -/
theorem Classifies.rowsOf_eq_or (h : Classifies s values Dimension.all r) (d : Dimension) :
    r.store.rowsOf d = s.rowsOf d ∨ ∃ row, r.store.rowsOf d = s.rowsOf d ++ [row] ∧
      r.ids.get d = some row.id ∧ (r.kept values).get d = some row.value := by
  rw [Store.rowsOf, Store.rowsOf, get_kept]
  cases hid : r.ids.get d with
  | none => exact .inl (by rw [(h.untouched d hid).1])
  | some id =>
      obtain ⟨value, hvalue, identifies⟩ := h.ids d id hid
      rcases identifies.rows with hsame | ⟨rows, hbefore, hafter⟩
      · exact .inl (by rw [hsame])
      · rw [hafter, hbefore]
        exact .inr ⟨_, rfl, rfl, hvalue⟩

/-- The page of a visit that is not turned away is kept, for no other dimension scopes it. -/
theorem Classifies.isSome_page {v : Visit} (h : Classifies s v.values Dimension.all r)
    (complete : s.Complete) (valid : v.Valid) : ((r.kept v.values).get .path).isSome := by
  have hvalue : v.values.get .path = some (trim (withoutQuery v.event.path)) :=
    (v.event.get_values v.attributes .path).trans (present_withoutQuery valid.2)
  have within : s.Resolvable v.values .path :=
    .root rfl hvalue (by rw [complete.dimensions]; rfl)
  obtain ⟨id, hid⟩ := Option.isSome_iff_exists.mp
    ((h.resolved .path (Dimension.mem_all _)).mpr within)
  rw [get_kept, hid, Option.bind_some, hvalue]
  rfl

/-- What is known of a second resolution of the same rows after some dimensions. -/
structure Follows (t : Store) (ids : PerDimension (Option ℤ)) (before : List Dimension)
    (q : Recording) : Prop where
  /-- The store is as it was. -/
  store : q.store = t
  /-- Nothing is noted. -/
  noted : q.unresolved = []
  /-- The ids so far are the same. -/
  ids : ∀ e ∈ before, q.ids.get e = ids.get e
  /-- The others are open. -/
  pending : ∀ e, e ∉ before → q.ids.get e = none

/-- A dimension without an id stays without one. -/
theorem Follows.skip {ids : PerDimension (Option ℤ)} {before : List Dimension} {q : Recording}
    (h : Follows t ids before q) (fresh : d ∉ before) (missing : ids.get d = none) :
    Follows t ids (before ++ [d]) q := by
  refine ⟨h.store, h.noted, fun e he => ?_, fun e he => ?_⟩
  · rcases List.mem_append.mp he with he | he
    · exact h.ids e he
    · obtain rfl := List.mem_singleton.mp he
      rw [h.pending e fresh, missing]
  · exact h.pending e fun hmem => he (List.mem_append_left _ hmem)

/-- A dimension with a row gets its id again. -/
theorem Follows.resolve {before : List Dimension} {q : Recording}
    (h : Follows t r.ids before q) (fresh : d ∉ before) (later : r.store.Later t)
    {row : DimensionRow} (hrow : r.RowAt values d row) :
    Follows t r.ids (before ++ [d]) (q.resolve ⟨d, row.parent, row.value⟩) := by
  have hresolve := later.resolve_eq hrow.valid hrow.found
  have hnext : q.resolve ⟨d, row.parent, row.value⟩ =
      { q with ids := q.ids.set d (some row.id) } := by
    unfold Recording.resolve
    rw [h.store, hresolve, ← h.store]
  rw [hnext]
  have hget : ∀ e, e ≠ d → (q.ids.set d (some row.id)).get e = q.ids.get e := by
    intro e he
    rw [PerDimension.get_set, if_neg (Ne.symm he)]
  refine ⟨h.store, h.noted, fun e he => ?_, fun e he => ?_⟩
  · by_cases hd : e = d
    · subst hd
      rw [PerDimension.get_set, if_pos rfl, hrow.id]
    · rw [hget e hd]
      exact h.ids e ((List.mem_append.mp he).resolve_right fun hmem =>
        hd (List.mem_singleton.mp hmem))
  · rw [List.mem_append, List.mem_singleton, not_or] at he
    rw [hget e he.2]
    exact h.pending e he.1

/-- **Values with rows resolve to these rows**, whatever else has come into the store. -/
theorem run_of_rows (later : r.store.Later t)
    (rows : ∀ d, (r.ids.get d = none ∧ others.get d = none) ∨
      ∃ row, r.RowAt values d row ∧ others.get d = some row.value) :
    run t others = ⟨t, r.ids, []⟩ := by
  have hstart : Follows t r.ids [] (start t) :=
    ⟨rfl, rfl, fun e he => (List.not_mem_nil he).elim, fun e _ => PerDimension.get_replicate _ e⟩
  have hrun : Follows t r.ids Dimension.all (run t others) := by
    refine run_induction (P := Follows t r.ids) hstart ?_
    intro before d after q order h
    have fresh := Dimension.notMem_before order
    unfold Recording.advance
    rcases rows d with ⟨hid, hvalue⟩ | ⟨row, hrow, hvalue⟩
    · rw [hvalue]
      exact h.skip fresh hid
    rw [hvalue]
    have hkey := h.resolve fresh later hrow
    have hparent := hrow.parent
    have hsome := NaturalKey.isSome_parent hrow.valid
    dsimp only at hsome ⊢
    cases hup : d.parent? with
    | none =>
        rw [hup] at hparent
        rwa [show row.parent = none from hparent] at hkey
    | some up =>
        -- the id above was found before, and is the one that scopes the row
        rw [hup, Option.bind_some] at hparent
        rw [hup] at hsome
        obtain ⟨id, hid⟩ := Option.isSome_iff_exists.mp hsome
        dsimp only
        rw [h.ids up (Dimension.parent_mem_before order hup), ← hparent, hid]
        rwa [hid] at hkey
  generalize run t others = q at hrun
  obtain ⟨store, ids, unresolved⟩ := q
  have hids : ids = r.ids := PerDimension.ext fun d => hrun.ids d (Dimension.mem_all d)
  rw [hids, show store = t from hrun.store, show unresolved = [] from hrun.noted]

end Recording

/-! ## Record calls -/

namespace Store

/-- **What a record call stored**, if it made `s'` of `s`. -/
structure StoresValues (s s' : Store) (o : Outcome) (stored : PerDimension (Option String)) :
    Prop where
  /-- An id is that of a row with the value, under the id of the dimension above.  Without
  an id there is no value. -/
  rows : ∀ d, (o.ids.get d = none ∧ stored.get d = none) ∨
    ∃ row ∈ s'.rowsOf d, o.ids.get d = some row.id ∧
      row.parent = d.parent?.bind o.ids.get ∧ stored.get d = some row.value
  /-- A table has gained the row of its value at most. -/
  gained : ∀ d, s'.rowsOf d = s.rowsOf d ∨
    ∃ row, s'.rowsOf d = s.rowsOf d ++ [row] ∧ o.ids.get d = some row.id ∧
      stored.get d = some row.value
  /-- Values are kept as they are. -/
  canonical : CanonicalValues stored

/-- **A store finds again what was stored.** -/
structure Recognizes (t : Store) (o : Outcome) (stored : PerDimension (Option String)) :
    Prop where
  /-- A visit that restates it resolves to the same ids, and no row is created. -/
  resolves : ∀ v : Visit, v.Restates stored → Recording.run t v.values = ⟨t, o.ids, []⟩
  /-- So the call creates none, whether it succeeds or fails. -/
  quiet : ∀ (v : Visit) (now : Instant), v.Restates stored →
    (t.record v.event v.attributes v.policy now).1.dimensions = t.dimensions ∧
      (t.record v.event v.attributes v.policy now).1.dimensionIds = t.dimensionIds
  /-- It succeeds if there is a site and a time that can be stored. -/
  records : ∀ (v : Visit) (now : Instant), v.Restates stored → v.event.site ≠ "" →
    (v.time now).Storable → ∃ t' o', t.record v.event v.attributes v.policy now = (t', .ok o') ∧
      o'.ids = o.ids ∧ o'.unresolved = []

variable {s t : Store}

/-- A visit that resolves to rows that are there is recorded with their ids. -/
theorem recognizes_of_run {o : Outcome} {stored : PerDimension (Option String)}
    (complete : t.Complete) (canonical : CanonicalValues stored)
    (run : Recording.run t stored = ⟨t, o.ids, []⟩) : t.Recognizes o stored := by
  have hrun : ∀ v : Visit, v.Restates stored → Recording.run t v.values = ⟨t, o.ids, []⟩ :=
    fun v h => by rw [h.values_eq canonical, run]
  refine ⟨hrun, fun v now h => ?_, fun v now h site storable => ?_⟩
  · have ends := t.disposes_record v now
    rw [hrun v h] at ends
    generalize t.record v.event v.attributes v.policy now = result at ends
    cases ends <;> exact ⟨rfl, rfl⟩
  · have valid : v.Valid := by
      have htrimmed := canonical.trimmed _ _ h.path
      obtain ⟨text, htext, hplain⟩ := canonical.path
      obtain rfl : text = v.event.path := Option.some.inj (htext.symm.trans h.path)
      refine ⟨by simpa using site, ?_⟩
      rw [withoutQuery_eq_self htrimmed fun c hc => startsTail_eq_false_iff.mpr (hplain c hc)]
      simpa using htrimmed.nonempty
    have hrecord := record_of_kept (s := t) valid (fun _ => by rw [hrun v h]) now
    rw [hrun v h] at hrecord
    simp only [writeFact_of_storable complete.facts storable] at hrecord
    exact ⟨_, _, hrecord, rfl, rfl⟩

/-- What a record call stores is canonical, and whatever comes later finds it again. -/
theorem exists_storesValues_of_record (c : s.Complete) {v : Visit} {now : Instant} {s' : Store}
    {o : Outcome} (h : s.record v.event v.attributes v.policy now = (s', .ok o)) :
    ∃ stored, s.StoresValues s' o stored ∧
      (∀ t, s'.Later t → t.Recognizes o stored) ∧ ∀ es, s'.Later (s'.undergo es) := by
  have classified := Recording.classifies_run s v.values_ne_empty
  have hrun := later_run c v.values_ne_empty
  have ends := s.disposes_record v now
  rw [h] at ends
  generalize Recording.run s v.values = r at classified hrun ends
  cases ends with
  | written valid kept storable stands =>
      have hrows := classified.rowAt_or_none v.values_ne_empty hrun.complete.dimensions
      have canonical := v.canonicalValues (fun _ _ => Recording.get_of_get_kept)
        (classified.isSome_page c valid)
      have hfact := later_withFact hrun.complete (v.time now).toTimestamp v.event.site
        v.event.visitor r.ids
      refine ⟨r.kept v.values, ⟨fun d => ?_, classified.rowsOf_eq_or, canonical⟩,
        fun t later => ?_, later_undergo hfact.complete⟩
      · refine (hrows d).imp_right fun ⟨row, hrow, hvalue⟩ => ?_
        exact ⟨row, List.mem_of_find?_eq_some hrow.found, hrow.id, hrow.parent, hvalue⟩
      · exact recognizes_of_run later.complete canonical
          (Recording.run_of_rows (hfact.trans later) hrows)

/-- **What a record call stores is canonical, and it is found again ever after.**  What a
header tells of the language is canonical, too. -/
theorem record_canonical :
    (∀ (s : Store) (v : Visit) (now : Instant) (s' : Store) (o : Outcome), s.Complete →
      s.record v.event v.attributes v.policy now = (s', .ok o) →
      ∃ stored, s.StoresValues s' o stored ∧
        (∀ t, s'.Later t → t.Recognizes o stored) ∧ ∀ es, s'.Later (s'.undergo es)) ∧
      ∀ header tag, primaryLanguage header = some tag → CanonicalTag tag :=
  ⟨fun _ _ _ _ _ c h => exists_storesValues_of_record c h, fun _ _ => primaryLanguage_canonical⟩

/-- A view of the news, with blanks that are laid bare where the path and the referrer are
cut, and a region without its country. -/
def untidyVisit : Visit where
  event := ⟨"blog", " /news ?id=7", some "https://me@ Example.com :80/x", none, 9⟩
  attributes := { region := some "Bavaria", language := some "de " }
  policy := .record

/-- The same view, as it is stored. -/
def tidyVisit : Visit where
  event := ⟨"blog", "/news", some "example.com", none, 7⟩
  attributes := { language := some "de" }
  policy := .reject

/-- What is stored of it. -/
def tidyValues : PerDimension (Option String) :=
  { PerDimension.replicate none with
    language := some "de"
    referrer := some "example.com"
    path := some "/news" }

theorem tidyVisit_restates : tidyVisit.Restates tidyValues where
  path := rfl
  referrer := rfl
  attributes d hreferrer hpath := by cases d <;> first | rfl | contradiction

/-- The store after the call that records it. -/
def untidyStore : Store :=
  (migrated.record untidyVisit.event untidyVisit.attributes .record
    (.midnight (sampleDay 0))).1

/-- What that call reports. -/
def untidyOutcome : Outcome where
  id := 1
  time := .midnight (sampleDay 0)
  site := "blog"
  visitor := 9
  ids := { PerDimension.replicate none with
    language := some 1
    referrer := some 1
    path := some 1 }
  unresolved := [⟨.region, "region requires a resolved parent"⟩]

set_option maxRecDepth 20000 in
theorem record_untidyVisit :
    migrated.record untidyVisit.event untidyVisit.attributes .record (.midnight (sampleDay 0)) =
      (untidyStore, .ok untidyOutcome) := rfl

set_option maxRecDepth 20000 in
theorem rowsOf_untidyStore : untidyStore.rowsOf = fun d =>
    match tidyValues.get d with
    | none => []
    | some value => [⟨1, none, value⟩] := by
  funext d
  cases d <;> rfl

/-- So a view that tells it in its stored form is the same view. -/
theorem tidyVisit_recognized :
    migrated.record untidyVisit.event untidyVisit.attributes .record (.midnight (sampleDay 0)) =
        (untidyStore, .ok untidyOutcome) ∧
      (∀ es, Recording.run (untidyStore.undergo es) tidyVisit.values =
        ⟨untidyStore.undergo es, untidyOutcome.ids, []⟩) ∧
      CanonicalTag "de-de" := by
  obtain ⟨records, tags⟩ := record_canonical
  obtain ⟨stored, stores, recognizes, later⟩ :=
    records _ untidyVisit _ _ _ complete_migrated record_untidyVisit
  obtain rfl : stored = tidyValues := by
    ext1 d
    rcases stores.rows d with ⟨hid, hvalue⟩ | ⟨row, hrow, hid, -, hvalue⟩
    · rw [hvalue]
      cases d <;> first | rfl | cases hid
    · rw [hvalue]
      rw [rowsOf_untidyStore] at hrow
      cases d <;> first | cases hid | rw [List.mem_singleton.mp hrow]; rfl
  refine ⟨record_untidyVisit, fun es => ?_, tags "de-DE, en;q=0.8" "de-de" (by decide)⟩
  exact (recognizes _ (later es)).resolves tidyVisit tidyVisit_restates

end Store

end Footfall
