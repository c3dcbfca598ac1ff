import Mathlib
import Footfall.Proofs.Store.Table
import Footfall.Proofs.Tally.Counting
import Footfall.Rollup.Aggregate
import Footfall.Stats.Series

/-!
# What the rows of a rollup add up to

A query never shows a single row of a rollup.  It sums the rows of a site over
some buckets, and the sums can be said in terms of the facts alone, without the
keys: `Totals.ofRows`.  The one measure in which the combination of reference
ids stays visible is the number of visitors.

## Main Definitions

* `Rollup.row?` — the row of a key among those of a list of facts
* `Totals.ofRows` — what the rows of a list of facts add up to
* `ByBucketAndSite` — a choice of rows that does not look at reference ids

## Main Statements

* `Rollup.row?_filter` — a row depends only on the facts of its bucket and site
* `Rollup.filter_rows_perm` — the chosen rows of a table
* `Store.sumRows_of_get?` — and their sums
* `Totals.ofRows_bounces` — bounces of rows are bounces of visitors
* `Totals.ofRows_visitors_eq_iff` — when the summed visitors are the distinct ones
-/

namespace Footfall

/-! ## Rows -/

namespace Rollup

variable {g : Granularity} {facts : List Fact} {k : RollupKey}

/-- The row of a key among those of a list of facts. -/
def row? (g : Granularity) (facts : List Fact) (k : RollupKey) : Option Measures :=
  if k ∈ keys g facts then some (measures g facts k) else none

theorem row?_eq_some_iff {m : Measures} :
    row? g facts k = some m ↔ (k, m) ∈ aggregate g facts := by
  unfold row? aggregate
  rw [List.mem_map]
  constructor
  · intro h
    split at h
    · next hk => exact ⟨k, hk, by rw [Option.some.inj h]⟩
    · cases h
  · rintro ⟨k', hk', heq⟩
    obtain ⟨rfl, rfl⟩ := Prod.mk.inj heq
    rw [if_pos hk']

theorem row?_eq_none_iff : row? g facts k = none ↔ ∀ f ∈ facts, f.key g ≠ k := by
  simp [row?, mem_keys]

theorem map_fst_aggregate : (aggregate g facts).map (·.1) = keys g facts := by
  simp [aggregate, List.map_map, Function.comp_def]

/-- A table with the rows of some facts has keys of these facts. -/
theorem exists_fact_of_mem_rows {t : Rollup} (h : ∀ k, t.get? k = row? g facts k)
    {r : RollupKey × Measures} (hr : r ∈ t.rows) : ∃ f ∈ facts, f.key g = r.1 := by
  have hrow := Table.get?_eq_some_iff.mpr (show (r.1, r.2) ∈ t.rows from hr)
  rw [h, row?_eq_some_iff] at hrow
  have hkey := List.mem_map_of_mem (f := (·.1)) hrow
  rw [map_fst_aggregate] at hkey
  exact mem_keys.mp hkey

theorem nodup_keys : (keys g facts).Nodup :=
  nodup_distinct _

theorem nodup_aggregate : (aggregate g facts).Nodup :=
  List.Nodup.of_map (·.1) (map_fst_aggregate ▸ nodup_keys)

/-- Written over a table, the rows of some facts are found first. -/
theorem get?_putAll_aggregate (t : Rollup) :
    Table.get? (Table.putAll t (aggregate g facts)) k = (row? g facts k).or (t.get? k) := by
  cases hrow : row? g facts k with
  | none =>
      rw [Table.get?_putAll_of_notMem, Option.none_or]
      intro r hr heq
      have hsome := row?_eq_some_iff.mpr (show (r.1, r.2) ∈ aggregate g facts from hr)
      rw [heq, hrow] at hsome
      cases hsome
  | some m =>
      rw [Table.get?_putAll_of_mem (map_fst_aggregate ▸ nodup_keys)
        (row?_eq_some_iff.mp hrow), Option.some_or]

/-- A bounce stays one when facts of other visits are left out. -/
theorem isBounce_filter {f : Fact} {p : Fact → Bool}
    (h : ∀ b ∈ facts, f.sameVisit g b = true → p b = true) :
    f.isBounce g (facts.filter p) = f.isBounce g facts := by
  unfold Fact.isBounce
  rw [List.countP_filter]
  congr 1
  refine List.countP_congr fun b hb => ?_
  simp only [Bool.and_eq_true]
  exact ⟨fun hs => hs.1, fun hs => ⟨hs, h b hb hs⟩⟩

/-- **A row depends only on the facts of its bucket and its site.** -/
theorem row?_filter {p : Fact → Bool}
    (h : ∀ f ∈ facts, f.time.truncate g = k.bucket → f.site = k.site → p f = true) :
    row? g (facts.filter p) k = row? g facts k := by
  have hkey : ∀ f ∈ facts, f.key g = k → p f = true := by
    rintro f hf rfl
    exact h f hf rfl rfl
  have hmem : k ∈ keys g (facts.filter p) ↔ k ∈ keys g facts := by
    simp only [mem_keys, List.mem_filter]
    constructor
    · rintro ⟨f, ⟨hf, -⟩, hk⟩
      exact ⟨f, hf, hk⟩
    · rintro ⟨f, hf, hk⟩
      exact ⟨f, ⟨hf, hkey f hf hk⟩, hk⟩
  have hgroup : group g (facts.filter p) k = group g facts k := by
    unfold group
    rw [List.filter_filter]
    refine List.filter_congr fun f hf => ?_
    rw [Bool.and_eq_left_iff_imp]
    intro hk
    exact hkey f hf (by simpa using hk)
  -- the group keeps its members, and each member keeps the views of its visit
  have hmeasures : measures g (facts.filter p) k = measures g facts k := by
    simp only [measures, hgroup, Measures.mk.injEq, true_and, Nat.cast_inj]
    refine List.countP_congr fun f hf => ?_
    obtain ⟨-, hk⟩ := List.mem_filter.mp hf
    obtain rfl : f.key g = k := by simpa using hk
    rw [isBounce_filter]
    intro b hb hvisit
    simp only [Fact.sameVisit, Bool.and_eq_true, beq_iff_eq] at hvisit
    exact h b hb hvisit.2 hvisit.1.2
  unfold row?
  rw [hmeasures]
  exact if_congr hmem rfl rfl

end Rollup

/-- A choice of rows that looks at bucket and site only. -/
def ByBucketAndSite (q : RollupKey → Bool) : Prop :=
  ∀ k k' : RollupKey, k.bucket = k'.bucket → k.site = k'.site → q k = q k'

/-- **The chosen rows of a table are those of the facts that chose them.** -/
theorem Rollup.filter_rows_perm {t : Rollup} {g : Granularity} {facts : List Fact}
    (h : ∀ k, t.get? k = row? g facts k) {q : RollupKey → Bool} (hq : ByBucketAndSite q) :
    (t.rows.filter fun r => q r.1).Perm
      (aggregate g (facts.filter fun f => q (f.key g))) := by
  refine (List.perm_ext_iff_of_nodup (t.rows_nodup.filter _) nodup_aggregate).mpr ?_
  rintro ⟨k, m⟩
  rw [List.mem_filter, ← Table.get?_eq_some_iff, h, ← row?_eq_some_iff]
  -- the facts of a key are chosen together with all others of its bucket and site
  cases hk : q k with
  | true =>
      have hrow : row? g (facts.filter fun f => q (f.key g)) k = row? g facts k := by
        refine row?_filter fun f _ hbucket hsite => ?_
        rw [hq (f.key g) k hbucket hsite, hk]
      rw [hrow]
      exact and_iff_left rfl
  | false =>
      have hrow : row? g (facts.filter fun f => q (f.key g)) k = none := by
        rw [row?_eq_none_iff]
        rintro f hf rfl
        rw [(List.mem_filter.mp hf).2] at hk
        cases hk
      rw [hrow]
      simp

/-! ## Sums -/

namespace Totals

/-- What the rows of a list of facts add up to. -/
def ofRows (g : Granularity) (facts : List Fact) : Totals where
  pageviews := facts.length
  visitors := (distinct (facts.map fun f => (f.key g, f.visitor))).length
  bounces := facts.countP (·.isBounce g facts)

/-- Totals as they are read from the store, each of them in range. -/
def checked (t : Totals) : Except StoreFault Totals := do
  let pageviews ← readTotal t.pageviews
  let visitors ← readTotal t.visitors
  let bounces ← readTotal t.bounces
  .ok ⟨pageviews, visitors, bounces⟩

end Totals

namespace Rollup

variable {g : Granularity} {facts : List Fact}

/-- Summed over the rows, a count within groups is a count over facts. -/
theorem sum_countP_group (p : Fact → Bool) :
    ((keys g facts).map fun k => (group g facts k).countP p).sum = facts.countP p := by
  rw [← sum_countP_fiber nodup_keys (Fact.key g) p fun f hf _ => mem_keys.mpr ⟨f, hf, rfl⟩]
  refine congrArg List.sum (List.map_congr_left fun k _ => ?_)
  rw [group, List.countP_filter]
  refine List.countP_congr fun f _ => ?_
  simp only [Bool.and_eq_true, beq_iff_eq, decide_eq_true_eq]
  exact and_comm

/-- Rows tell how many facts they stand for. -/
theorem total_count_aggregate :
    total ((aggregate g facts).map (·.2.count)) = ((Totals.ofRows g facts).pageviews : ℤ) := by
  have hsum : ((keys g facts).map fun k => (group g facts k).countP fun _ => true).sum = _ :=
    sum_countP_group fun _ => true
  simp only [List.countP_true] at hsum
  rw [aggregate, List.map_map, Totals.ofRows, ← hsum]
  exact total_map_natCast _ fun k => (group g facts k).length

theorem total_visitors_aggregate :
    total ((aggregate g facts).map (·.2.visitors)) =
      ((Totals.ofRows g facts).visitors : ℤ) := by
  have cover : ∀ x ∈ facts.map fun f => (f.key g, f.visitor), x.1 ∈ keys g facts := by
    intro x hx
    obtain ⟨f, hf, rfl⟩ := List.mem_map.mp hx
    exact mem_keys.mpr ⟨f, hf, rfl⟩
  have hsum := sum_length_distinct_fiber nodup_keys cover
  rw [aggregate, List.map_map, show (Totals.ofRows g facts).visitors = _ from hsum.symm,
    ← total_map_natCast]
  refine congrArg total (List.map_congr_left fun k _ => ?_)
  simp only [Function.comp_def, measures, visitorsOf, group, List.filter_map, List.map_map,
    beq_eq_decide]

theorem total_bounces_aggregate :
    total ((aggregate g facts).map (·.2.bounces)) = ((Totals.ofRows g facts).bounces : ℤ) := by
  have hsum : ((keys g facts).map fun k =>
      (group g facts k).countP (·.isBounce g facts)).sum = _ :=
    sum_countP_group (·.isBounce g facts)
  rw [aggregate, List.map_map, Totals.ofRows, ← hsum]
  exact total_map_natCast _ fun k => (group g facts k).countP (·.isBounce g facts)

end Rollup

namespace Store

/-- Totals depend on the measures of the rows alone, and not on their order. -/
theorem total_eq_of_perm {rows others : List (RollupKey × Measures)}
    (h : (rows.map (·.2)).Perm (others.map (·.2))) (m : Measures → ℤ) :
    total (rows.map (m ·.2)) = total (others.map (m ·.2)) := by
  have hmap := h.map m
  rw [List.map_map, List.map_map] at hmap
  rw [total_eq_sum, total_eq_sum]
  exact hmap.sum_eq

theorem sumRows_eq_of_perm {rows others : List (RollupKey × Measures)}
    (h : (rows.map (·.2)).Perm (others.map (·.2))) : sumRows rows = sumRows others := by
  rw [sumRows, sumRows, total_eq_of_perm h (·.count), total_eq_of_perm h (·.visitors),
    total_eq_of_perm h (·.bounces)]

/-- **The chosen rows of a table add up to the totals of the facts that chose
them.** -/
theorem sumRows_of_get? {t : Rollup} {g : Granularity} {facts : List Fact}
    (h : ∀ k, t.get? k = Rollup.row? g facts k) {q : RollupKey → Bool}
    (hq : ByBucketAndSite q) :
    sumRows (t.rows.filter fun r => q r.1) =
      (Totals.ofRows g (facts.filter fun f => q (f.key g))).checked := by
  rw [sumRows_eq_of_perm ((Rollup.filter_rows_perm h hq).map (·.2)), sumRows,
    Rollup.total_count_aggregate, Rollup.total_visitors_aggregate,
    Rollup.total_bounces_aggregate, Totals.checked]

end Store

/-! ## Rows against facts -/

namespace Totals

variable {g : Granularity} {facts : List Fact}

/-- The pageviews of one site and one bucket. -/
def SameBucket (g : Granularity) (facts : List Fact) : Prop :=
  ∀ a ∈ facts, ∀ b ∈ facts, a.site = b.site ∧ a.time.truncate g = b.time.truncate g

/-- Within one bucket of a site, bouncing pageviews are bouncing visitors. -/
theorem ofRows_bounces (h : SameBucket g facts) :
    (ofRows g facts).bounces = (ofFacts facts).bounces := by
  -- all facts are of one bucket and site, so a visit is all that its visitor viewed
  have hbounce : ∀ f ∈ facts, f.isBounce g facts = decide (viewsOf facts f.visitor = 1) := by
    intro f hf
    unfold Fact.isBounce viewsOf
    rw [beq_eq_decide]
    congr 2
    refine List.countP_congr fun b hb => ?_
    obtain ⟨hsite, hbucket⟩ := h f hf b hb
    simp [Fact.sameVisit, hsite, hbucket]
  have hsum := sum_countP_fiber (nodup_distinct (facts.map (·.visitor))) (·.visitor)
    (fun f : Fact => f.isBounce g facts)
    fun f hf _ => mem_distinct.mpr (List.mem_map.mpr ⟨f, hf, rfl⟩)
  -- a visitor with one view has one bouncing view, any other visitor has none
  have hvisitor : ∀ v ∈ distinct (facts.map (·.visitor)),
      (facts.countP fun f => decide (f.visitor = v) && f.isBounce g facts) =
        if viewsOf facts v = 1 then 1 else 0 := by
    intro v _
    have hcongr : (facts.countP fun f => decide (f.visitor = v) && f.isBounce g facts) =
        facts.countP fun f => decide (f.visitor = v) && decide (viewsOf facts v = 1) := by
      refine List.countP_congr fun f hf => ?_
      by_cases hv : f.visitor = v
      · simp [hv, hbounce f hf]
      · simp [hv]
    rw [hcongr]
    split
    · next hone =>
      simp only [hone, decide_true, Bool.and_true]
      simpa [viewsOf, beq_eq_decide] using hone
    · next hone => simp [hone]
  have hsplit : (visitorsOf facts).countP (fun v => viewsOf facts v == 1) =
      ((visitorsOf facts).map fun v => if viewsOf facts v = 1 then 1 else 0).sum := by
    induction visitorsOf facts with
    | nil => rfl
    | cons v vs ih =>
        simp only [List.countP_cons, List.map_cons, List.sum_cons, ih, beq_iff_eq]
        omega
  calc (ofRows g facts).bounces
      = ((visitorsOf facts).map fun v =>
          facts.countP fun f => decide (f.visitor = v) && f.isBounce g facts).sum := hsum.symm
    _ = ((visitorsOf facts).map fun v => if viewsOf facts v = 1 then 1 else 0).sum :=
        congrArg List.sum (List.map_congr_left hvisitor)
    _ = (ofFacts facts).bounces := hsplit.symm

theorem visitors_le_ofRows : (ofFacts facts).visitors ≤ (ofRows g facts).visitors :=
  length_distinct_map_le fun _ _ _ _ h => (Prod.mk.inj h).2

/-- **The summed visitors are the distinct ones exactly if no visitor has views
under two keys.** -/
theorem ofRows_visitors_eq_iff :
    (ofRows g facts).visitors = (ofFacts facts).visitors ↔
      ∀ a ∈ facts, ∀ b ∈ facts, a.visitor = b.visitor → a.key g = b.key g := by
  have hsame : ∀ a ∈ facts, ∀ b ∈ facts,
      (a.key g, a.visitor) = (b.key g, b.visitor) → a.visitor = b.visitor :=
    fun _ _ _ _ h => (Prod.mk.inj h).2
  refine (length_distinct_map_eq_iff hsame).trans ?_
  refine forall₂_congr fun a _ => forall₂_congr fun b _ => ?_
  refine imp_congr_right fun hv => ?_
  simp [hv]

end Totals

end Footfall
