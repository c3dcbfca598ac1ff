import Mathlib
import Footfall.Proofs.Stats.Answers
import Footfall.Stats.Listing

/-!
# Listings up to ids

A listing shows the ids of its facts and orders the facts of one moment by them.
With ids erased, facts that came in the same order are listed in the same order,
and facts that came in another order are listed as often, page for page taken
together.

## Main Definitions

* `Pageview.content` — a pageview without its id
* `Store.fullListing` — all pages of a listing together
* `SameContents` — two listings have the same contents, each as often

## Main Statements

* `Store.readListing_of_siteFacts` — a page of a listing, on a complete store
* `Store.listPageviews_contents_eq` — facts in one order are listed in one order
* `Store.SeenAlike.sameContents` — alike facts have one full listing
-/

namespace Footfall

/-- The instant of a moment; every moment of the years 0 to 9999 has one. -/
def Timestamp.exact (t : Timestamp) : Instant :=
  if h : t.FourDigit then t.toInstant h else .midnight .first

theorem Timestamp.readExact_eq {t : Timestamp} (h : t.FourDigit) : t.readExact = .ok t.exact := by
  rw [readExact_of_fourDigit h, exact, dif_pos h]

/-- A pageview without its id. -/
def Pageview.content (p : Pageview) : Instant × ℕ × PerDimension (Option String) :=
  (p.time, p.visitor, p.names)

/-- What a listing shows of a sighting. -/
def Sighting.content (σ : Sighting) : Instant × ℕ × PerDimension (Option String) :=
  (σ.time.exact, σ.visitor, σ.names)

/-! ## Reading a page -/

/-- If every member is read to a value or refused, all of them are, or the first
one that is refused decides. -/
theorem mapM_eq_of_ite {α β ε : Type} {f : α → Except ε β} {bad : α → Prop} [DecidablePred bad]
    {fault : α → ε} {g : α → β} {as : List α}
    (h : ∀ a ∈ as, f a = if bad a then .error (fault a) else .ok (g a)) :
    as.mapM f =
      match as.find? (decide <| bad ·) with
      | some a => .error (fault a)
      | none => .ok (as.map g) := by
  induction as with
  | nil => rfl
  | cons a as ih =>
      rw [List.mapM_cons, h a List.mem_cons_self, ih fun b hb => h b (List.mem_cons_of_mem a hb),
        List.find?_cons]
      by_cases ha : bad a
      · simp only [ha, if_true, decide_true, error_bind]
      · simp only [ha, if_false, decide_false, ok_bind]
        cases as.find? (decide <| bad ·) <;> rfl

theorem mapM_eq_map {α β ε : Type} {f : α → Except ε β} {g : α → β} {as : List α}
    (h : ∀ a ∈ as, f a = .ok (g a)) : as.mapM f = .ok (as.map g) := by
  induction as with
  | nil => rfl
  | cons a as ih =>
      rw [List.mapM_cons, h a List.mem_cons_self, ih fun b hb => h b (List.mem_cons_of_mem a hb)]
      rfl

namespace Store

/-- A fact as it is listed. -/
def pageview (s : Store) (f : Fact) : Pageview :=
  ⟨f.id, f.time.exact, f.visitor, s.names f.ids⟩

/-- A list of facts shows what its sightings show. -/
theorem map_content_pageview (s : Store) (facts : List Fact) :
    (facts.map s.pageview).map Pageview.content = (facts.map s.sight).map Sighting.content := by
  rw [List.map_map, List.map_map]
  refine List.map_congr_left fun f _ => ?_
  rw [Function.comp, Function.comp, Pageview.content, pageview, Sighting.content, sight]

/-- A page of the listing of some facts. -/
def page (facts : List Fact) (limit offset : ℕ) : List Fact :=
  ((facts.mergeSort Fact.listedBefore).drop offset).take limit

theorem mem_of_mem_page {facts : List Fact} {limit offset : ℕ} {f : Fact}
    (h : f ∈ page facts limit offset) : f ∈ facts :=
  List.mem_mergeSort.mp (List.mem_of_mem_drop (List.mem_of_mem_take h))

theorem allDimensionRows_eq {s : Store} (c : s.Complete) :
    s.allDimensionRows = .ok (.ofFn s.rowsOf) := by
  simp only [allDimensionRows, c.dimensionRows, ok_bind]
  rfl

/-- For a page without rows the facts are not looked at. -/
theorem listedFacts_zero {s : Store} (c : s.Complete) (site : String) (range : Span) :
    s.listedFacts site range 0 = .ok [] := by
  rw [listedFacts, if_pos rfl, c.factRows]
  rfl

theorem listedFacts_of_ne_zero {s : Store} {limit : ℕ} (h : limit ≠ 0) (site : String)
    (range : Span) : s.listedFacts site range limit = s.siteFacts site range :=
  if_neg h

/-- **A page of a listing**, on a complete store. -/
theorem readListing_of_siteFacts {s : Store} (c : s.Complete) {site : String} {range : Span}
    {facts : List Fact} (hfacts : s.siteFacts site range = .ok facts)
    (years : ∀ f ∈ facts, f.time.FourDigit) (limit offset : ℕ) :
    s.readListing site range limit offset = .ok ((page facts limit offset).map s.pageview) := by
  by_cases hlimit : limit = 0
  · rw [readListing, allDimensionRows_eq c, hlimit, listedFacts_zero c, page, List.take_zero]
    rfl
  · rw [readListing, allDimensionRows_eq c, listedFacts_of_ne_zero hlimit, hfacts]
    refine mapM_eq_map fun f hf => ?_
    rw [Timestamp.readExact_eq (years f (mem_of_mem_page hf))]
    simp only [ok_bind, PerDimension.get_ofFn]
    rfl

/-- A range that fails has pages without rows only. -/
theorem readListing_of_error {s : Store} (c : s.Complete) {site : String} {range : Span}
    {e : StoreFault} (hfacts : s.siteFacts site range = .error e) (limit offset : ℕ) :
    s.readListing site range limit offset = if limit = 0 then .ok [] else .error e := by
  by_cases hlimit : limit = 0
  · rw [readListing, allDimensionRows_eq c, hlimit, listedFacts_zero c, if_pos rfl]
    simp only [ok_bind, List.take_zero]
    rfl
  · rw [readListing, allDimensionRows_eq c, listedFacts_of_ne_zero hlimit, hfacts, if_neg hlimit]
    rfl

/-- What can be read of a site whose facts are of the years 0 to 9999 is of these years. -/
theorem fourDigit_of_siteFacts {s : Store} {site : String}
    (years : ∀ f ∈ s.factList, f.site = site → f.time.FourDigit) {range : Span} :
    ∀ f ∈ s.siteFactsWithin site range, f.time.FourDigit := by
  intro f hf
  obtain ⟨hlist, hsite, -⟩ := mem_siteFactsWithin.mp hf
  exact years f hlist hsite

/-! ## Facts in one order -/

/-- Facts that show the same in one order, and are numbered in that order, are
listed in one order. -/
theorem map_sight_mergeSort {s₁ s₂ : Store} {facts₁ facts₂ : List Fact}
    (same : facts₁.map s₁.sight = facts₂.map s₂.sight)
    (increasing₁ : facts₁.Pairwise fun a b => a.id < b.id)
    (increasing₂ : facts₂.Pairwise fun a b => a.id < b.id) :
    (facts₁.mergeSort Fact.listedBefore).map s₁.sight =
      (facts₂.mergeSort Fact.listedBefore).map s₂.sight := by
  have hlength : facts₁.length = facts₂.length := by simpa using congrArg List.length same
  -- the facts of one place form pairs, which are ordered alike by both members
  obtain ⟨pairs, rfl, rfl⟩ : ∃ pairs : List (Fact × Fact),
      pairs.map Prod.fst = facts₁ ∧ pairs.map Prod.snd = facts₂ :=
    ⟨facts₁.zip facts₂, List.map_fst_zip hlength.le, List.map_snd_zip hlength.ge⟩
  rw [List.map_map, List.map_map, List.map_inj_left] at same
  rw [List.pairwise_map] at increasing₁ increasing₂
  have hboth := increasing₁.and increasing₂
  have horder : ∀ ⦃a⦄, a ∈ pairs → ∀ ⦃b⦄, b ∈ pairs → (b.1.id ≤ a.1.id ↔ b.2.id ≤ a.2.id) := by
    refine List.Pairwise.forall_of_forall_of_flip ?_ (hboth.imp ?_) (hboth.imp ?_)
    · exact fun _ _ => by simp
    · rintro a b ⟨h₁, h₂⟩
      omega
    · rintro a b ⟨h₁, h₂⟩
      dsimp only [flip]
      omega
  have hlisted : ∀ a ∈ pairs, ∀ b ∈ pairs,
      Fact.listedBefore a.1 b.1 = Fact.listedBefore a.2 b.2 := by
    intro a ha b hb
    have hta : a.1.time = a.2.time := congrArg Sighting.time (same a ha)
    have htb : b.1.time = b.2.time := congrArg Sighting.time (same b hb)
    rw [Fact.listedBefore, Fact.listedBefore, hta, htb,
      decide_eq_decide.mpr (horder ha hb)]
  rw [← List.map_mergeSort (r := fun a b => Fact.listedBefore a.1 b.1) fun _ _ _ _ => rfl,
    ← List.map_mergeSort (r := fun a b => Fact.listedBefore a.1 b.1) hlisted, List.map_map,
    List.map_map]
  exact List.map_congr_left fun a ha => same a (List.mem_mergeSort.mp ha)

/-- **Facts in one order are listed in one order**, page for page. -/
theorem listPageviews_contents_eq {s₁ s₂ : Store} {site : String} (c₁ : s₁.Complete)
    (c₂ : s₂.Complete) (years₁ : ∀ f ∈ s₁.factList, f.site = site → f.time.FourDigit)
    (years₂ : ∀ f ∈ s₂.factList, f.site = site → f.time.FourDigit)
    (increasing₁ : s₁.factList.Pairwise fun a b => a.id < b.id)
    (increasing₂ : s₂.factList.Pairwise fun a b => a.id < b.id)
    (same : (s₁.factList.filter (·.ofSite site)).map s₁.sight =
      (s₂.factList.filter (·.ofSite site)).map s₂.sight)
    (start stop : Instant) (limit offset : ℕ) :
    (s₁.listPageviews site start stop limit offset).map (·.map Pageview.content) =
      (s₂.listPageviews site start stop limit offset).map (·.map Pageview.content) := by
  have hseen : SeenAlike s₁ s₂ site := by
    rw [SeenAlike, Alike, same]
  have hwithin : (s₁.siteFactsWithin site ⟨start, stop⟩).map s₁.sight =
      (s₂.siteFactsWithin site ⟨start, stop⟩).map s₂.sight := by
    have hfilter := fun (s : Store) (facts : List Fact) => s.map_sight_filter
      (fun σ => σ.time.within start.toTimestamp stop.toTimestamp) facts
    rw [siteFactsWithin_eq_filter, siteFactsWithin_eq_filter]
    exact (hfilter s₁ _).trans ((congrArg _ same).trans (hfilter s₂ _).symm)
  have hpage : ∀ limit, (page (s₁.siteFactsWithin site ⟨start, stop⟩) limit offset).map s₁.sight =
      (page (s₂.siteFactsWithin site ⟨start, stop⟩) limit offset).map s₂.sight := by
    intro limit
    rw [page, page, List.map_take, List.map_drop, map_sight_mergeSort hwithin
      (increasing₁.filter _) (increasing₂.filter _), List.map_take, List.map_drop]
  rw [listPageviews, listPageviews]
  rcases hseen.siteFacts_cases c₁ c₂ ⟨start, stop⟩ with ⟨e, h₁, h₂⟩ | ⟨h₁, h₂⟩
  · rw [readListing_of_error c₁ h₁, readListing_of_error c₂ h₂]
  · rw [readListing_of_siteFacts c₁ h₁ (fourDigit_of_siteFacts years₁),
      readListing_of_siteFacts c₂ h₂ (fourDigit_of_siteFacts years₂)]
    cases checkRange start stop with
    | error e => rfl
    | ok u =>
        simp only [Except.mapError, ok_bind]
        split
        · rfl
        · simp only [Except.map, map_content_pageview, hpage]

/-! ## Whole listings -/

/-- All pages of a listing together. -/
def fullListing (s : Store) (site : String) (start stop : Instant) (limit : ℕ) :
    Except StatsError (List Pageview) := do
  let total ← s.countPageviews site start stop
  let pages ← (List.range (total / min limit maxRows + 1)).mapM fun i =>
    s.listPageviews site start stop limit (i * min limit maxRows)
  .ok pages.flatten

theorem flatten_pages (as : List Fact) (k n : ℕ) :
    ((List.range n).map fun i => (as.drop (i * k)).take k).flatten = as.take (n * k) := by
  induction n with
  | zero => simp
  | succ n ih =>
      rw [List.range_succ, List.map_append, List.flatten_append, ih, Nat.succ_mul, List.take_add]
      simp

/-- The pages of a listing are all of it, unless they are empty. -/
theorem flatten_pages_perm (facts : List Fact) {k : ℕ} (hk : 0 < k) :
    ((List.range (facts.length / k + 1)).map fun i => page facts k (i * k)).flatten.Perm facts := by
  -- one page more than there are full ones reaches the end
  have hlength : (facts.mergeSort Fact.listedBefore).length ≤ (facts.length / k + 1) * k := by
    rw [List.length_mergeSort]
    rw [Nat.mul_comm]
    exact (Nat.lt_mul_div_succ facts.length hk).le
  rw [show (fun i => page facts k (i * k)) = fun i =>
    ((facts.mergeSort Fact.listedBefore).drop (i * k)).take k from rfl, flatten_pages,
    List.take_of_length_le hlength]
  exact List.mergeSort_perm _ _

end Store

/-- Two listings are refused alike, or they have the same contents, each as
often. -/
def SameContents (r₁ r₂ : Except StatsError (List Pageview)) : Prop :=
  (∃ e, r₁ = .error e ∧ r₂ = .error e) ∨
    ∃ l₁ l₂, r₁ = .ok l₁ ∧ r₂ = .ok l₂ ∧
      (l₁.map Pageview.content).Perm (l₂.map Pageview.content)

namespace Store

/-- The pages of a listing are refused or read by their number alone. -/
theorem fullListing_eq {s : Store} (c : s.Complete) {site : String} {facts : List Fact}
    (years : ∀ f ∈ facts, f.time.FourDigit) (start stop : Instant) (limit : ℕ)
    (hrange : checkRange start stop = .ok ())
    (hfacts : s.siteFacts site ⟨start, stop⟩ = .ok facts) :
    s.fullListing site start stop limit =
      let k := min limit maxRows
      match (List.range (facts.length / k + 1)).find? fun i => maxOffset < i * k with
      | some i => .error (.invalidInput (.offsetOutOfRange (i * k)))
      | none => .ok (((List.range (facts.length / k + 1)).map fun i =>
          page facts k (i * k)).flatten.map s.pageview) := by
  have hcount : s.countPageviews site start stop = .ok facts.length := by
    rw [countPageviews, hrange, hfacts]
    rfl
  have hpage : ∀ offset, s.listPageviews site start stop limit offset =
      if maxOffset < offset then .error (.invalidInput (.offsetOutOfRange offset))
      else .ok ((page facts (min limit maxRows) offset).map s.pageview) := by
    intro offset
    rw [listPageviews, readListing_of_siteFacts c hfacts years, hrange]
    rfl
  dsimp only
  rw [fullListing, hcount]
  simp only [ok_bind]
  rw [mapM_eq_of_ite fun i _ => hpage (i * min limit maxRows)]
  generalize List.find? _ _ = refused
  cases refused with
  | some i => rfl
  | none =>
      simp only [ok_bind, List.map_flatten, List.map_map]
      rfl

/-- **Alike facts of a site have one listing**, all pages together. -/
theorem SeenAlike.sameContents {s₁ s₂ : Store} {site : String} (h : SeenAlike s₁ s₂ site)
    (c₁ : s₁.Complete) (c₂ : s₂.Complete)
    (years₁ : ∀ f ∈ s₁.factList, f.site = site → f.time.FourDigit)
    (years₂ : ∀ f ∈ s₂.factList, f.site = site → f.time.FourDigit)
    (start stop : Instant) (limit : ℕ) :
    SameContents (s₁.fullListing site start stop limit)
      (s₂.fullListing site start stop limit) := by
  cases hrange : checkRange start stop with
  | error e =>
      have hrefused : ∀ s : Store, s.fullListing site start stop limit =
          .error (.invalidInput e) := by
        intro s
        rw [fullListing, countPageviews, hrange]
        rfl
      exact .inl ⟨_, hrefused s₁, hrefused s₂⟩
  | ok u =>
      rcases h.siteFacts_cases c₁ c₂ ⟨start, stop⟩ with ⟨e, h₁, h₂⟩ | ⟨h₁, h₂⟩
      · have hrefused : ∀ {s : Store}, s.siteFacts site ⟨start, stop⟩ = .error e →
            s.fullListing site start stop limit = .error (.query e) := by
          intro s hs
          rw [fullListing, countPageviews, hs, hrange]
          rfl
        exact .inl ⟨_, hrefused h₁, hrefused h₂⟩
      · have halike := h.siteFactsWithin ⟨start, stop⟩
        rw [fullListing_eq c₁ (fourDigit_of_siteFacts years₁) start stop limit hrange h₁,
          fullListing_eq c₂ (fourDigit_of_siteFacts years₂) start stop limit hrange h₂]
        dsimp only
        rw [halike.length_eq]
        generalize min limit maxRows = k
        generalize List.find? _ _ = refused
        cases refused with
        | some i => exact .inl ⟨_, rfl, rfl⟩
        | none =>
            refine .inr ⟨_, _, rfl, rfl, ?_⟩
            -- a limit of zero makes every page empty
            rcases Nat.eq_zero_or_pos k with rfl | hk
            · simp [page]
            · have hperm₁ := flatten_pages_perm (s₁.siteFactsWithin site ⟨start, stop⟩) hk
              have hperm₂ := flatten_pages_perm (s₂.siteFactsWithin site ⟨start, stop⟩) hk
              rw [halike.length_eq] at hperm₁
              rw [map_content_pageview, map_content_pageview]
              exact ((hperm₁.map _).trans (halike.trans (hperm₂.map _).symm)).map _

end Store

end Footfall
