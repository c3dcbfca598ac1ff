import Mathlib
import Footfall.Proofs.Stats.Additivity
import Footfall.Proofs.Text.ByteOrder

/-!
# The ranking of pages

Every fact has a label: the path that its reference finds, or a word for those without one.
A path may be that very word, and its facts then share a label with those.  What is ranked
are the labels that occur, by the number of their facts and then by their bytes, and this
fixes the ranking.  A query answers the front of it.

Nothing is asked of the store but that the two tables stand.  The references of facts may
lead nowhere.

## Main Definitions

* `Fact.OnPage` — the label of a fact, told by the rows
* `PageCount.Outranks` — one page comes before another
* `RanksPages` — the ranking of the pages of some facts
* `Store.AnswersRanking` — what is answered is the front of a ranking

## Main Statements

* `RanksPages.eq` — some facts have one ranking
* `Store.top_pages_ranked` — every limit is answered with the front of it
-/

namespace Footfall

/-! ## Labels -/

/-- **The label of a fact** is the value of a row that it refers to, or the label of facts
without one. -/
def Fact.OnPage (rows : List DimensionRow) (f : Fact) (l : String) : Prop :=
  (∃ r ∈ rows, f.ids.path = some r.id ∧ r.value = l) ∨
    (∀ r ∈ rows, f.ids.path ≠ some r.id) ∧ l = unknownLabel

/-- The label under which a fact is counted. -/
def pageOf (rows : List DimensionRow) (f : Fact) : String :=
  labelOf rows (f.ids.get .path)

section Labels

variable {rows : List DimensionRow} {f : Fact}

theorem onPage_pageOf (rows : List DimensionRow) (f : Fact) : f.OnPage rows (pageOf rows f) := by
  rcases nameOf_cases rows f.ids.path with ⟨r, hr, hid, hname⟩ | ⟨hnone, hname⟩
  · refine .inl ⟨r, hr, hid, ?_⟩
    show r.value = (nameOf rows f.ids.path).getD unknownLabel
    rw [hname, Option.getD_some]
  · refine .inr ⟨hnone, ?_⟩
    show (nameOf rows f.ids.path).getD unknownLabel = unknownLabel
    rw [hname, Option.getD_none]

/-- Where no two rows share an id, a fact has one label. -/
theorem Fact.OnPage.eq (distinct : (rows.map (·.id)).Nodup) {l l' : String}
    (h : f.OnPage rows l) (h' : f.OnPage rows l') : l = l' := by
  rcases h with ⟨r, hr, hid, rfl⟩ | ⟨hnone, rfl⟩ <;>
    rcases h' with ⟨r', hr', hid', rfl⟩ | ⟨hnone', rfl⟩
  · rw [List.inj_on_of_nodup_map distinct hr hr' (Option.some.inj (hid.symm.trans hid'))]
  · exact absurd hid (hnone' r hr)
  · exact absurd hid' (hnone r' hr')
  · rfl

end Labels

/-! ## Rankings -/

/-- **One page comes before another**: it has more facts, or as many and a lesser label. -/
def PageCount.Outranks (p q : PageCount) : Prop :=
  q.count < p.count ∨ p.count = q.count ∧ utf8 p.path < utf8 q.path

theorem PageCount.Outranks.asymm {p q : PageCount} (h : p.Outranks q) : ¬ q.Outranks p := by
  rintro (hlt | ⟨heq, hlt⟩)
  · rcases h with h | ⟨h, -⟩ <;> omega
  · rcases h with h | ⟨-, h⟩
    · omega
    · exact List.lt_asymm h hlt

/-- **The ranking of the pages of some facts.** -/
structure RanksPages (rows : List DimensionRow) (facts : List Fact)
    (ranked : List PageCount) : Prop where
  /-- Each page stands once. -/
  once : (ranked.map (·.path)).Nodup
  /-- The pages are the labels that occur. -/
  path_iff : ∀ l, (∃ p ∈ ranked, p.path = l) ↔ ∃ f ∈ facts, pageOf rows f = l
  /-- A page has the number of its facts ... -/
  count : ∀ p ∈ ranked, p.count = facts.countP (pageOf rows · = p.path)
  /-- ... and of their visitors. -/
  visitors : ∀ p ∈ ranked, p.visitors = (visitorSet (facts.filter (pageOf rows · = p.path))).card
  /-- A page comes before those that follow. -/
  order : ranked.Pairwise PageCount.Outranks

namespace RanksPages

variable {rows : List DimensionRow} {facts : List Fact} {ranked others : List PageCount}

/-- There is a visitor, and no more of them than facts. -/
theorem visitors_mem (h : RanksPages rows facts ranked) {p : PageCount} (hp : p ∈ ranked) :
    1 ≤ p.visitors ∧ p.visitors ≤ p.count := by
  obtain ⟨f, hf, hpage⟩ := (h.path_iff p.path).mp ⟨p, hp, rfl⟩
  have hmem : f.visitor ∈ visitorSet (facts.filter (pageOf rows · = p.path)) := by
    rw [visitorSet, List.mem_toFinset]
    exact List.mem_map_of_mem (List.mem_filter.mpr ⟨hf, decide_eq_true hpage⟩)
  rw [h.visitors p hp, h.count p hp]
  refine ⟨Finset.card_pos.mpr ⟨_, hmem⟩, ?_⟩
  calc _ ≤ ((facts.filter (pageOf rows · = p.path)).map (·.visitor)).length :=
        List.toFinset_card_le _
    _ = facts.countP (pageOf rows · = p.path) := by
        rw [List.length_map, List.countP_eq_length_filter]

/-- What one ranking holds, another holds too. -/
theorem subset (h : RanksPages rows facts ranked) (h' : RanksPages rows facts others) :
    ranked ⊆ others := by
  intro p hp
  obtain ⟨q, hq, hpath⟩ := (h'.path_iff p.path).mpr ((h.path_iff p.path).mp ⟨p, hp, rfl⟩)
  have hcount : q.count = p.count := by
    rw [h'.count q hq, h.count p hp, hpath]
  have hvisitors : q.visitors = p.visitors := by
    rw [h'.visitors q hq, h.visitors p hp, hpath]
  obtain ⟨path, count, visitors⟩ := p
  obtain rfl : q = ⟨path, count, visitors⟩ := by
    cases q
    simp only [PageCount.mk.injEq]
    exact ⟨hpath, hcount, hvisitors⟩
  exact hq

/-- **Some facts have one ranking.** -/
theorem eq (h : RanksPages rows facts ranked) (h' : RanksPages rows facts others) :
    ranked = others := by
  have hperm : ranked.Perm others :=
    (List.perm_ext_iff_of_nodup (List.Nodup.of_map _ h.once) (List.Nodup.of_map _ h'.once)).mpr
      fun p => ⟨fun hp => h.subset h' hp, fun hp => h'.subset h hp⟩
  exact hperm.eq_of_pairwise (fun p q _ _ hpq hqp => absurd hqp hpq.asymm) h.order h'.order

end RanksPages

/-- A row of a ranking as it is answered. -/
def pageCount (row : String × List Fact) : PageCount :=
  ⟨row.1, row.2.length, (visitorsOf row.2).length⟩

/-- The labels of some facts, those of most facts first. -/
def rankedLabels (label : Fact → String) (facts : List Fact) : List String :=
  (distinct (facts.map label)).mergeSort (labelBefore fun l => (ofLabel label facts l).length)

section Ranking

variable {label : Fact → String} {facts : List Fact}

theorem nodup_rankedLabels : (rankedLabels label facts).Nodup :=
  ((List.mergeSort_perm _ _).nodup_iff).mpr (nodup_distinct _)

theorem mem_rankedLabels {l : String} :
    l ∈ rankedLabels label facts ↔ ∃ f ∈ facts, label f = l := by
  rw [rankedLabels, List.mem_mergeSort, mem_distinct, List.mem_map]

theorem length_ofLabel (l : String) :
    (ofLabel label facts l).length = facts.countP (label · = l) := by
  rw [ofLabel, ← List.countP_eq_length_filter]
  simp only [beq_eq_decide]

/-- Labels that stand once each and in order outrank one another strictly. -/
theorem pairwise_rankedLabels : (rankedLabels label facts).Pairwise fun l l' =>
    (pageCount (l, ofLabel label facts l)).Outranks (pageCount (l', ofLabel label facts l')) := by
  have hsorted : (rankedLabels label facts).Pairwise fun l l' =>
      labelBefore (fun l => (ofLabel label facts l).length) l l' = true :=
    List.pairwise_mergeSort labelBefore_trans labelBefore_total _
  refine (hsorted.and nodup_rankedLabels).imp ?_
  rintro l l' ⟨hbefore, hne⟩
  rcases labelBefore_iff.mp hbefore with hlt | ⟨heq, hle⟩
  · exact .inl hlt
  · exact .inr ⟨heq.symm, lt_iff_utf8_lt.mp (lt_of_le_of_ne hle hne)⟩

end Ranking

/-- **What is read is the ranking of the pages.** -/
theorem ranksPages_ranking (rows : List DimensionRow) (facts : List Fact) :
    RanksPages rows facts ((ranking (pageOf rows) facts).map pageCount) := by
  have hranked : (ranking (pageOf rows) facts).map pageCount =
      (rankedLabels (pageOf rows) facts).map fun l =>
        pageCount (l, ofLabel (pageOf rows) facts l) := by
    rw [ranking_eq_map, List.map_map]
    rfl
  rw [hranked]
  refine ⟨?_, fun l => ?_, fun p hp => ?_, fun p hp => ?_, ?_⟩
  · rw [List.map_map]
    exact (List.map_id _).symm ▸ nodup_rankedLabels
  · rw [← mem_rankedLabels]
    constructor
    · rintro ⟨p, hp, rfl⟩
      obtain ⟨l, hl, rfl⟩ := List.mem_map.mp hp
      exact hl
    · exact fun hl => ⟨_, List.mem_map_of_mem hl, rfl⟩
  · obtain ⟨l, -, rfl⟩ := List.mem_map.mp hp
    exact length_ofLabel l
  · obtain ⟨l, -, rfl⟩ := List.mem_map.mp hp
    show (visitorsOf (ofLabel (pageOf rows) facts l)).length = _
    rw [length_visitorsOf, visitorSet, ofLabel]
    simp only [beq_eq_decide]
    rfl
  · rw [List.pairwise_map]
    exact pairwise_rankedLabels

/-! ## Answers -/

namespace Store

variable {s : Store} {site : String} {start stop : Instant}

/-- **What is answered is the front of a ranking**: that of the labels of the facts of a site
in a range. -/
structure AnswersRanking (s : Store) (site : String) (start stop : Instant)
    (ranked : List PageCount) : Prop where
  /-- A fact has the label that its reference finds ... -/
  labels : ∀ f ∈ s.siteFactsWithin site ⟨start, stop⟩,
    f.OnPage (s.rowsOf .path) (pageOf (s.rowsOf .path) f)
  /-- ... and no other, if ids are those of one row each. -/
  labels_unique : ((s.rowsOf .path).map (·.id)).Nodup → ∀ (f : Fact) l,
    f.OnPage (s.rowsOf .path) l → l = pageOf (s.rowsOf .path) f
  /-- The pages are ranked ... -/
  ranks : RanksPages (s.rowsOf .path) (s.siteFactsWithin site ⟨start, stop⟩) ranked
  /-- ... in the only way there is. -/
  unique : ∀ others, RanksPages (s.rowsOf .path) (s.siteFactsWithin site ⟨start, stop⟩) others →
    others = ranked
  /-- A page has a visitor, and no more of them than facts. -/
  visitors : ∀ p ∈ ranked, 1 ≤ p.visitors ∧ p.visitors ≤ p.count
  /-- Every limit is answered with as many of the first pages. -/
  answer : ∀ limit, s.topPages site start stop limit = .ok (ranked.take (min limit maxRows))
  /-- None that is left out outranks one that is answered. -/
  omitted : ∀ limit, ∀ p ∈ ranked.take (min limit maxRows), ∀ q ∈ ranked,
    q ∉ ranked.take (min limit maxRows) → p.Outranks q
  /-- A smaller limit answers the front of what a larger one answers. -/
  front : ∀ limit limit' pages pages', limit ≤ limit' →
    s.topPages site start stop limit = .ok pages →
    s.topPages site start stop limit' = .ok pages' → pages <+: pages'

/-- Of some pages in order, those cut off do not outrank those kept. -/
theorem outranks_of_notMem_take {ranked : List PageCount}
    (order : ranked.Pairwise PageCount.Outranks) {n : ℕ} {p q : PageCount}
    (hp : p ∈ ranked.take n) (hq : q ∈ ranked) (cut : q ∉ ranked.take n) : p.Outranks q := by
  rw [← List.take_append_drop n ranked] at order hq
  have hdrop := (List.mem_append.mp hq).resolve_left cut
  exact (List.pairwise_append.mp order).2.2 p hp q hdrop

/-- **Every limit is answered with the front of the ranking** of the pages. -/
theorem top_pages_ranked (s : Store) (facts : s.hasTable .facts = true)
    (paths : s.hasTable (.dimension .path) = true) (site : String) (start stop : Instant)
    (hstart : start.Storable) (hstop : stop.Storable) (order : start ≤ stop) :
    ∃ ranked, s.AnswersRanking site start stop ranked := by
  have hfacts : s.siteFacts site ⟨start, stop⟩ = .ok (s.siteFactsWithin site ⟨start, stop⟩) :=
    siteFacts_of_storable (Slot.eq_table_of_isTable facts) ⟨hstart, hstop⟩
  have hread : s.readRanking .path site ⟨start, stop⟩ = .ok (ranking
      (pageOf (s.rowsOf .path)) (s.siteFactsWithin site ⟨start, stop⟩)) := by
    rw [readRanking, dimensionRows, Slot.eq_table_of_isTable paths, hfacts]
    rfl
  have hanswer : ∀ limit, s.topPages site start stop limit =
      .ok (((ranking (pageOf (s.rowsOf .path)) (s.siteFactsWithin site ⟨start, stop⟩)).map
        pageCount).take (min limit maxRows)) := by
    intro limit
    rw [topPages, checkRange_eq_ok_iff.mpr order, readTopPages_of_readRanking hread,
      ← List.map_take]
    rfl
  have hranks := ranksPages_ranking (s.rowsOf .path) (s.siteFactsWithin site ⟨start, stop⟩)
  refine ⟨_, fun f _ => onPage_pageOf _ f, fun distinct f l h => h.eq distinct (onPage_pageOf _ f),
    hranks, fun others h => h.eq hranks, fun p hp => hranks.visitors_mem hp, hanswer,
    fun limit p hp q hq cut => outranks_of_notMem_take hranks.order hp hq cut, ?_⟩
  intro limit limit' pages pages' hle hpages hpages'
  rw [hanswer] at hpages hpages'
  obtain rfl := Except.ok.inj hpages
  obtain rfl := Except.ok.inj hpages'
  exact List.take_prefix_take_left (by omega)

/-- A page has the label of facts without one.  One view is of the home page, one is of that
page, and of two the page is not known. -/
def namesakePages : Store :=
  { migrated with
    dimensions := migrated.dimensions.set .path
      (.table [⟨1, none, "/"⟩, ⟨2, none, unknownLabel⟩])
    facts := .table [sampleFact 1 8 7 1, sampleFact 2 9 7 2,
      { sampleFact 3 9 8 1 with ids := .replicate none }, sampleFact 4 10 7 9] }

theorem pages_of_namesakePages :
    namesakePages.hasTable .facts = true ∧ namesakePages.hasTable (.dimension .path) = true ∧
      (Instant.midnight (sampleDay 0)).Storable ∧ (Instant.endOfDay (sampleDay 0)).Storable ∧
      Instant.midnight (sampleDay 0) ≤ .endOfDay (sampleDay 0) ∧
      ∃ ranked, namesakePages.AnswersRanking "blog" (.midnight (sampleDay 0))
          (.endOfDay (sampleDay 0)) ranked ∧
        ⟨unknownLabel, 3, 2⟩ ∈ ranked := by
  obtain ⟨ranked, h⟩ := top_pages_ranked namesakePages rfl rfl "blog" (.midnight (sampleDay 0))
    (.endOfDay (sampleDay 0)) (by decide) (by decide) (by decide)
  obtain ⟨p, hp, hpath⟩ := (h.ranks.path_iff unknownLabel).mpr
    ⟨sampleFact 2 9 7 2, by decide +kernel, by decide⟩
  have hcount := h.ranks.count p hp
  have hvisitors := h.ranks.visitors p hp
  rw [hpath] at hcount hvisitors
  obtain rfl : p = ⟨unknownLabel, 3, 2⟩ := by
    cases p
    rw [PageCount.mk.injEq]
    exact ⟨hpath, hcount.trans (by decide +kernel), hvisitors.trans (by decide +kernel)⟩
  exact ⟨rfl, rfl, by decide, by decide, by decide, ranked, h, hp⟩

end Store

end Footfall
