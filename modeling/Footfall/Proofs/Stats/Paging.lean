import Mathlib
import Footfall.Proofs.Rollup.Integrity
import Footfall.Proofs.Stats.Additivity
import Footfall.Proofs.Stats.RoundTrip

/-!
# Turning pages

A listing joins every fact with the nine reference tables and is read page by page, each page by
a query of its own.  A left join drops no fact, but it repeats one whose reference finds two rows.
Pages overlap, or miss a fact, if two facts may change places between the queries.  In a reachable
state neither happens, since no two rows and no two facts share an id, although for facts the
schema does not say so.

A page may have fewer rows than were asked for.  Whoever turns the pages therefore steps by what
a page can hold, and not by the limit of the request.

## Main Definitions

* `joinedNames`, `Store.joins`, `Store.joined` — the joins with the reference tables
* `TurnsPages` — reading page after page until one is empty
* `ListsFacts` — a listing of some facts
* `Store.Paged` — what the pages of a listing hold

## Main Statements

* `Store.Healthy.joined_eq` — healthy tables make one row of every fact
* `TurnsPages.eq_drop`, `turnsPages_drop` — the pages of some rows hold each of them once
* `Store.paged` — so do the pages of the facts of a site in a range
-/

namespace Footfall

/-! ## Joins -/

/-- **The left join of a reference with a reference table**: the values of all rows with its id,
or nothing in their place if there are none. -/
def joinedNames (rows : List DimensionRow) (id : Option ℤ) : List (Option String) :=
  match rows.filter fun r => id = some r.id with
  | [] => [none]
  | found => found.map fun r => some r.value

namespace Store

variable {s : Store}

/-- The left joins with several reference tables, one after the other. -/
def joins (s : Store) (ids : PerDimension (Option ℤ)) :
    List Dimension → PerDimension (Option String) → List (PerDimension (Option String))
  | [], names => [names]
  | d :: ds, names =>
    (joinedNames (s.rowsOf d) (ids.get d)).flatMap fun name => s.joins ids ds (names.set d name)

/-- The rows that the joins with all reference tables make of some facts. -/
def joined (s : Store) (facts : List Fact) : List Pageview :=
  facts.flatMap fun f => (s.joins f.ids Dimension.all (.replicate none)).map fun names =>
    ⟨f.id, f.time.exact, f.visitor, names⟩

/-- A healthy table pairs a reference with one name. -/
theorem Healthy.joinedNames_eq (h : s.Healthy) (d : Dimension) (id : Option ℤ) :
    joinedNames (s.rowsOf d) id = [nameOf (s.rowsOf d) id] := by
  rcases nameOf_cases (s.rowsOf d) id with ⟨r, hr, rfl, hname⟩ | ⟨hnone, hname⟩
  · have hfound : (s.rowsOf d).filter (fun r' => some r.id = some r'.id) = [r] := by
      rw [← h.filter_id hr]
      exact List.filter_congr fun r' _ => by simp [eq_comm]
    rw [joinedNames, hfound, hname]
    rfl
  · have hnothing : (s.rowsOf d).filter (fun r => id = some r.id) = [] := by
      rw [List.filter_eq_nil_iff]
      exact fun r hr => by simpa using hnone r hr
    rw [joinedNames, hnothing, hname]

/-- Joins with healthy tables set one name after the other. -/
theorem Healthy.joins_eq (h : s.Healthy) (ids : PerDimension (Option ℤ)) (ds : List Dimension)
    (names : PerDimension (Option String)) :
    s.joins ids ds names =
      [ds.foldl (fun names d => names.set d (nameOf (s.rowsOf d) (ids.get d))) names] := by
  induction ds generalizing names with
  | nil => rfl
  | cons d ds ih => rw [joins, h.joinedNames_eq, List.flatMap_singleton, ih, List.foldl_cons]

/-- **Healthy tables make one row of every fact.** -/
theorem Healthy.joined_eq (h : s.Healthy) (facts : List Fact) :
    s.joined facts = facts.map s.pageview := by
  rw [joined, List.map_eq_flatMap]
  refine congrArg facts.flatMap (funext fun f => ?_)
  rw [h.joins_eq, List.map_singleton]
  rfl

end Store

/-! ## Page after page -/

section Turning

variable {read : ℕ → Except StatsError (List Pageview)} {k offset : ℕ} {rows found : List Pageview}

/-- **Turning the pages** from an offset on, in steps of `k`, until one is empty.  What was read
by then are the rows of all pages together. -/
inductive TurnsPages (read : ℕ → Except StatsError (List Pageview)) (k : ℕ) :
    ℕ → List Pageview → Prop where
  /-- The page is empty. -/
  | last {offset : ℕ} (empty : read offset = .ok []) : TurnsPages read k offset []
  /-- The page has rows, and the next one is turned to. -/
  | next {offset : ℕ} {page found : List Pageview} (has : read offset = .ok page)
      (nonempty : page ≠ []) (rest : TurnsPages read k (offset + k) found) :
      TurnsPages read k offset (page ++ found)

/-- **The pages of some rows**: what is answered at an offset are the rows from there on, at most
`k` of them, unless the store cannot skip as many. -/
structure CutsPages (read : ℕ → Except StatsError (List Pageview)) (k : ℕ)
    (rows : List Pageview) : Prop where
  /-- A page is a slice. -/
  page : ∀ offset ≤ maxOffset, read offset = .ok ((rows.drop offset).take k)
  /-- A larger offset is refused before the store is asked. -/
  refused : ∀ offset, maxOffset < offset →
    read offset = .error (.invalidInput (.offsetOutOfRange offset))

/-- An answered page is a slice. -/
theorem CutsPages.eq_of_ok (h : CutsPages read k rows) {page : List Pageview}
    (hpage : read offset = .ok page) : page = (rows.drop offset).take k := by
  rcases Nat.lt_or_ge maxOffset offset with hlt | hle
  · rw [h.refused offset hlt] at hpage
    cases hpage
  · rw [h.page offset hle] at hpage
    exact (Except.ok.inj hpage).symm

/-- **Whoever turned all pages has read every row once**, in order. -/
theorem TurnsPages.eq_drop (hcuts : CutsPages read k rows) (hk : 0 < k)
    (h : TurnsPages read k offset found) : found = rows.drop offset := by
  induction h with
  | @last offset empty =>
      -- a slice of a page's size is empty at the end only
      have hslice := hcuts.eq_of_ok empty
      rcases List.take_eq_nil_iff.mp hslice.symm with hzero | hend
      · omega
      · exact hend.symm
  | @next offset page found has _ _ ih =>
      rw [hcuts.eq_of_ok has, ih, ← List.drop_drop, List.take_append_drop]

/-- Behind the last row, the first page is empty. -/
theorem CutsPages.turnsPages_of_le (h : CutsPages read k rows) (le : rows.length ≤ offset)
    (skips : offset ≤ maxOffset) : TurnsPages read k offset (rows.drop offset) := by
  have hpage := h.page offset skips
  rw [List.drop_eq_nil_of_le le, List.take_nil] at hpage
  rw [List.drop_eq_nil_of_le le]
  exact .last hpage

/-- **All pages can be turned**, if the store can skip to one behind the last row. -/
theorem turnsPages_drop (hcuts : CutsPages read k rows) (hk : 0 < k) (n : ℕ)
    (covers : rows.length ≤ offset + n * k) (skips : offset + n * k ≤ maxOffset) :
    TurnsPages read k offset (rows.drop offset) := by
  induction n generalizing offset with
  | zero => exact hcuts.turnsPages_of_le (by omega) (by omega)
  | succ n ih =>
      rw [Nat.succ_mul] at covers skips
      rcases Nat.lt_or_ge offset rows.length with hlt | hge
      · have hnonempty : (rows.drop offset).take k ≠ [] := by
          rw [Ne, List.take_eq_nil_iff, List.drop_eq_nil_iff]
          omega
        rw [← List.take_append_drop k (rows.drop offset), List.drop_drop]
        exact .next (hcuts.page offset (by omega)) hnonempty (ih (by omega) (by omega))
      · exact hcuts.turnsPages_of_le hge (by omega)

end Turning

/-! ## Listings -/

section Listings

variable {facts listing others : List Fact}

/-- **A listing of some facts**: each of them once, the newest first, and those of one moment by
descending id. -/
structure ListsFacts (facts listing : List Fact) : Prop where
  /-- The facts are listed. -/
  perm : listing.Perm facts
  /-- No id is listed twice. -/
  once : (listing.map (·.id)).Nodup
  /-- A fact comes before those that follow. -/
  order : listing.Pairwise fun a b => b.time < a.time ∨ b.time = a.time ∧ b.id < a.id

/-- Some facts have one listing. -/
theorem ListsFacts.eq (h : ListsFacts facts listing) (h' : ListsFacts facts others) :
    listing = others := by
  refine (h.perm.trans h'.perm.symm).eq_of_pairwise (fun a b _ _ hab hba => ?_) h.order h'.order
  simp only [Timestamp.lt_iff, Timestamp.eq_iff] at hab hba
  omega

/-- Facts with ids of their own are listed. -/
theorem listsFacts_mergeSort (increasing : facts.Pairwise fun a b => a.id < b.id) :
    ListsFacts facts (facts.mergeSort Fact.listedBefore) := by
  have hsorted := List.pairwise_mergeSort Fact.listedBefore_trans Fact.listedBefore_total facts
  have hids := Fact.pairwise_id_mergeSort increasing
  refine ⟨List.mergeSort_perm _ _, List.pairwise_map.mpr hids, (hsorted.and hids).imp ?_⟩
  rintro a b ⟨hbefore, hne⟩
  exact (Fact.listedBefore_iff.mp hbefore).imp_right fun ⟨heq, hle⟩ =>
    ⟨heq, lt_of_le_of_ne hle hne.symm⟩

end Listings

/-! ## The pages of a site -/

namespace Store

variable {s : Store} {site : String} {start stop : Instant} {limit : ℕ} {listing : List Fact}

/-- **The pages of the facts of a site** in a range.  However many rows are asked for, a page holds
`min limit maxRows` of them. -/
structure Paged (s : Store) (site : String) (start stop : Instant) (limit : ℕ)
    (listing : List Fact) : Prop where
  /-- The facts are listed. -/
  lists : ListsFacts (s.siteFactsWithin site ⟨start, stop⟩) listing
  /-- They are counted. -/
  total : s.countPageviews site start stop = .ok listing.length
  /-- Joins make one row of each. -/
  joined : s.joined listing = listing.map s.pageview
  /-- The pages are those of these rows. -/
  cuts : CutsPages (s.listPageviews site start stop limit) (min limit maxRows) (s.joined listing)
  /-- A page has as many rows as it holds, or those that are left. -/
  length : ∀ offset page, s.listPageviews site start stop limit offset = .ok page →
    page.length = min (min limit maxRows) (listing.length - offset)
  /-- Whoever turned the pages has read every row once. -/
  turned : ∀ rows, TurnsPages (s.listPageviews site start stop limit) (min limit maxRows) 0 rows →
    rows = s.joined listing
  /-- They can be turned, if the store can skip to one behind the last row. -/
  turns : ∀ n, listing.length ≤ n * min limit maxRows → n * min limit maxRows ≤ maxOffset →
    TurnsPages (s.listPageviews site start stop limit) (min limit maxRows) 0 (s.joined listing)

/-- Pages are cut from the listing. -/
theorem cutsPages (c : s.Complete) (order : start ≤ stop) (hstart : start.FourDigit)
    (hstop : stop.FourDigit) :
    CutsPages (s.listPageviews site start stop limit) (min limit maxRows)
      (((s.siteFactsWithin site ⟨start, stop⟩).mergeSort Fact.listedBefore).map s.pageview) := by
  have hfacts : s.siteFacts site ⟨start, stop⟩ = .ok (s.siteFactsWithin site ⟨start, stop⟩) :=
    siteFacts_of_storable c.facts ⟨hstart.storable, hstop.storable⟩
  have years := fourDigit_of_siteFactsWithin s site order hstart.storable hstart.year_nonneg
    hstop.storable
  refine ⟨fun offset hle => ?_, fun offset hlt => ?_⟩
  · rw [listPageviews, checkRange_eq_ok_iff.mpr order, if_neg (Nat.not_lt.mpr hle),
      readListing_of_siteFacts c hfacts years, ← List.map_drop, ← List.map_take]
    rfl
  · rw [listPageviews, checkRange_eq_ok_iff.mpr order, if_pos hlt]
    rfl

/-- **The facts of a site in a range are paged**, each on one page. -/
theorem Healthy.paged (h : s.Healthy) (increasing : s.factList.Pairwise fun a b => a.id < b.id)
    (site : String) (order : start ≤ stop) (hstart : start.FourDigit) (hstop : stop.FourDigit)
    (pos : 1 ≤ limit) : ∃ listing, s.Paged site start stop limit listing := by
  have hlists : ListsFacts (s.siteFactsWithin site ⟨start, stop⟩) _ :=
    listsFacts_mergeSort (increasing.filter _)
  have hcuts : CutsPages (s.listPageviews site start stop limit) (min limit maxRows) _ :=
    cutsPages h.complete order hstart hstop
  rw [← h.joined_eq] at hcuts
  have hk : 0 < min limit maxRows := by
    rw [maxRows]
    omega
  refine ⟨_, hlists, ?_, h.joined_eq _, hcuts, fun offset page hpage => ?_, fun rows hturned => ?_,
    fun n covers skips => ?_⟩
  · rw [hlists.perm.length_eq]
    exact countPageviews_of_storable h.complete.facts order hstart.storable hstop.storable
  · rw [hcuts.eq_of_ok hpage, List.length_take, List.length_drop, h.joined_eq, List.length_map]
  · rw [hturned.eq_drop hcuts hk, List.drop_zero]
  · rw [← Nat.zero_add (n * _)] at covers skips
    rw [← List.length_map (f := s.pageview), ← h.joined_eq] at covers
    have hall := turnsPages_drop hcuts hk n covers skips
    rwa [List.drop_zero] at hall

end Store

end Footfall
