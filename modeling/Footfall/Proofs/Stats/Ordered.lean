import Mathlib
import Footfall.Proofs.Stats.Sources

/-!
# Measures are ordered

There are no more bounces than visitors, and no more visitors than pageviews.  For the
totals of facts this is plain, since a bounce is a visitor there.  A row of a rollup
counts pageviews as bounces, by a rule that looks beyond the row.  But a visitor who
has a bounce in a row has no other view in the bucket, and hence none in the row.

What a query answers is a sum of such rows and totals, so its rate of bounces lies
between zero and one.

## Main Definitions

* `Measures.Ordered`, `Totals.Ordered` — bounces, visitors and pageviews are in order
* `Totals.rate` — the share of bounces, as an exact number
* `Store.AnswersOrdered` — all rows and all answers of a store are in order

## Main Statements

* `Rollup.bounces_le_visitors` — a row has no more bounces than visitors
* `Rollup.ordered_measures` — the measures of a row are ordered
* `Store.ordered_of_buckets`, `Store.ordered_of_totals` — so are the answers, on every
  store with such rows
* `Store.answers_ordered` — and in every reachable state
-/

namespace Footfall

/-- **The measures of a row are ordered**, and the row is about some view. -/
structure Measures.Ordered (m : Measures) : Prop where
  /-- Bounces are counted from zero. -/
  bounces_nonneg : 0 ≤ m.bounces
  /-- A visitor bounces once at most. -/
  bounces_le : m.bounces ≤ m.visitors
  /-- A visitor has a pageview. -/
  visitors_le : m.visitors ≤ m.count
  /-- There is a visitor. -/
  visitors_pos : 1 ≤ m.visitors
  /-- There is a pageview. -/
  count_pos : 1 ≤ m.count

/-- **Totals are ordered.** -/
structure Totals.Ordered (t : Totals) : Prop where
  /-- A visitor bounces once at most. -/
  bounces_le : t.bounces ≤ t.visitors
  /-- A visitor has a pageview. -/
  visitors_le : t.visitors ≤ t.pageviews

/-- The share of visitors with a single view as an exact number, zero without
visitors. -/
def Totals.rate (t : Totals) : ℚ :=
  if t.visitors = 0 then 0 else t.bounces / t.visitors

/-! ## Rows -/

namespace Rollup

variable {g : Granularity} {facts : List Fact} {k : RollupKey}

/-- Within a row, one visitor has one bounce at most. -/
theorem countP_isBounce_le_one (v : ℕ) :
    ((group g facts k).countP fun f => decide (f.visitor = v) && f.isBounce g facts) ≤ 1 := by
  by_contra hlt
  obtain ⟨f, hf, hbounce⟩ := List.countP_pos_iff.mp (Nat.lt_trans Nat.one_pos (Nat.not_le.mp hlt))
  simp only [Bool.and_eq_true, decide_eq_true_eq] at hbounce
  obtain ⟨rfl, hbounce⟩ := hbounce
  obtain ⟨-, hkey⟩ := List.mem_filter.mp hf
  rw [beq_iff_eq] at hkey
  -- every view of the visitor in the row is one of the same visit
  have hvisit : ((group g facts k).countP fun b =>
      decide (b.visitor = f.visitor) && b.isBounce g facts) ≤ facts.countP (f.sameVisit g) := by
    rw [group, List.countP_filter]
    refine List.countP_mono_left fun b _ hb => ?_
    simp only [Bool.and_eq_true, decide_eq_true_eq, beq_iff_eq] at hb
    obtain ⟨⟨hvisitor, -⟩, hb⟩ := hb
    rw [← hkey, Fact.key, Fact.key, RollupKey.mk.injEq] at hb
    simp only [Fact.sameVisit, Bool.and_eq_true, beq_iff_eq]
    exact ⟨⟨hvisitor, hb.2.1⟩, hb.1⟩
  have hone : facts.countP (f.sameVisit g) = 1 := by
    simpa [Fact.isBounce] using hbounce
  omega

/-- **A row has no more bounces than visitors.** -/
theorem bounces_le_visitors :
    (group g facts k).countP (·.isBounce g facts) ≤ (visitorsOf (group g facts k)).length := by
  have hsum := sum_countP_fiber (nodup_distinct ((group g facts k).map (·.visitor)))
    (·.visitor) (fun f : Fact => f.isBounce g facts)
    fun f hf _ => mem_distinct.mpr (List.mem_map.mpr ⟨f, hf, rfl⟩)
  rw [← hsum, visitorsOf]
  calc _ ≤ ((distinct ((group g facts k).map (·.visitor))).map fun _ => 1).sum :=
        List.sum_le_sum fun v _ => countP_isBounce_le_one v
    _ = (distinct ((group g facts k).map (·.visitor))).length := by simp

/-- **The measures of a row are ordered.** -/
theorem ordered_measures (hk : k ∈ keys g facts) : (measures g facts k).Ordered := by
  have hvisitors : (visitorsOf (group g facts k)).length ≤ (group g facts k).length :=
    (length_distinct_le _).trans (List.length_map _).le
  have hpos : 1 ≤ (visitorsOf (group g facts k)).length := by
    obtain ⟨f, hf, hkey⟩ := mem_keys.mp hk
    have hmem : f ∈ group g facts k := List.mem_filter.mpr ⟨hf, beq_iff_eq.mpr hkey⟩
    exact List.length_pos_of_mem (mem_distinct.mpr (List.mem_map_of_mem (f := (·.visitor)) hmem))
  have hbounces : (group g facts k).countP (·.isBounce g facts) ≤
      (visitorsOf (group g facts k)).length := bounces_le_visitors
  constructor
  all_goals
    simp only [measures]
    omega

theorem ordered_of_get? {t : Rollup} (h : ∀ k, t.get? k = row? g facts k)
    {r : RollupKey × Measures} (hr : r ∈ t.rows) : r.2.Ordered := by
  have hrow := Table.get?_eq_some_iff.mpr (show (r.1, r.2) ∈ t.rows from hr)
  rw [h, row?] at hrow
  split at hrow
  · next hk =>
    rw [← Option.some.inj hrow]
    exact ordered_measures hk
  · cases hrow

end Rollup

/-! ## Sums -/

namespace Totals

/-- Of facts, bounces are some of the visitors. -/
theorem ordered_ofFacts (facts : List Fact) : (ofFacts facts).Ordered where
  bounces_le := List.countP_le_length
  visitors_le := (length_distinct_le _).trans (List.length_map _).le

theorem visitors_pos_ofFacts {facts : List Fact} (h : facts ≠ []) :
    1 ≤ (ofFacts facts).visitors := by
  obtain ⟨f, hf⟩ := List.exists_mem_of_ne_nil facts h
  exact List.length_pos_of_mem (mem_distinct.mpr (List.mem_map_of_mem (f := (·.visitor)) hf))

theorem Ordered.add {t u : Totals} (ht : t.Ordered) (hu : u.Ordered) : (t.add u).Ordered where
  bounces_le := Nat.add_le_add ht.bounces_le hu.bounces_le
  visitors_le := Nat.add_le_add ht.visitors_le hu.visitors_le

/-- **The rate of ordered totals lies between zero and one.** -/
theorem Ordered.rate_mem {t : Totals} (h : t.Ordered) : 0 ≤ t.rate ∧ t.rate ≤ 1 := by
  unfold rate
  split
  · exact ⟨le_rfl, zero_le_one⟩
  · have hle : (t.bounces : ℚ) ≤ t.visitors := Nat.cast_le.mpr h.bounces_le
    exact ⟨by positivity, div_le_one_of_le₀ hle (by positivity)⟩

end Totals

section Sums

variable {rows : List (RollupKey × Measures)} {t : Totals}

/-- Sums of ordered rows are ordered. -/
theorem SumsOf.ordered (h : SumsOf rows t) (ordered : ∀ r ∈ rows, r.2.Ordered) : t.Ordered where
  bounces_le := by
    rw [← Int.ofNat_le, h.bounces, h.visitors]
    exact List.sum_le_sum fun r hr => (ordered r hr).bounces_le
  visitors_le := by
    rw [← Int.ofNat_le, h.visitors, h.pageviews]
    exact List.sum_le_sum fun r hr => (ordered r hr).visitors_le

/-- If there is a row, there is a visitor. -/
theorem SumsOf.visitors_pos (h : SumsOf rows t) (ordered : ∀ r ∈ rows, r.2.Ordered)
    (nonempty : rows ≠ []) : 1 ≤ t.visitors := by
  have hlength : ((rows.length : ℕ) : ℤ) ≤ t.visitors := by
    calc ((rows.length : ℕ) : ℤ) = (rows.map fun _ => (1 : ℤ)).sum := by simp
      _ ≤ (rows.map (·.2.visitors)).sum :=
          List.sum_le_sum fun r hr => (ordered r hr).visitors_pos
      _ = t.visitors := h.visitors.symm
  have hpos := List.length_pos_iff.mpr nonempty
  omega

end Sums

/-! ## Answers -/

namespace Bucket

variable {g : Granularity} {rows : List (RollupKey × Measures)} {facts : List Fact}
  {text : String} {t : Timestamp} {b : Bucket}

theorem OfText.ordered (h : b.OfText rows text) (ordered : ∀ r ∈ rows, r.2.Ordered)
    (htext : text ∈ bucketTexts rows) : b.totals.Ordered ∧ 1 ≤ b.totals.visitors := by
  have hsome : ∀ r ∈ rows.filter (·.1.bucket.bucketText == text), r.2.Ordered :=
    fun r hr => ordered r (List.mem_of_mem_filter hr)
  rw [bucketTexts, List.mem_mergeSort, mem_distinct, List.mem_map] at htext
  obtain ⟨r, hr, hread⟩ := htext
  refine ⟨h.sums.ordered hsome, h.sums.visitors_pos hsome (List.ne_nil_of_mem (a := r) ?_)⟩
  rw [List.mem_filter, beq_iff_eq]
  exact ⟨hr, hread⟩

theorem OfFacts.ordered (h : b.OfFacts g facts t) (ht : t ∈ Store.bucketsOf g facts) :
    b.totals.Ordered ∧ 1 ≤ b.totals.visitors := by
  rw [Store.bucketsOf, List.mem_mergeSort, mem_distinct, List.mem_map] at ht
  obtain ⟨f, hf, hbucket⟩ := ht
  rw [h.totals]
  refine ⟨Totals.ordered_ofFacts _,
    Totals.visitors_pos_ofFacts (List.ne_nil_of_mem (a := f) ?_)⟩
  rw [List.mem_filter, beq_iff_eq]
  exact ⟨hf, hbucket⟩

end Bucket

namespace Store

variable {s : Store} {site : String} {start stop now : Instant} {g : Granularity}
  {buckets : List Bucket} {t : Totals}

theorem ordered_of_historicRows (rows : ∀ r ∈ s.dailyTable.rows, r.2.Ordered) (site : String)
    (part : Option Span) : ∀ r ∈ s.historicRows site part, r.2.Ordered := by
  intro r hr
  cases part with
  | none => cases hr
  | some range => exact rows r (List.mem_of_mem_filter hr)

theorem ordered_of_liveBuckets {range : Span}
    (h : s.liveBuckets site range g = .ok buckets) :
    ∀ b ∈ buckets, b.totals.Ordered ∧ 1 ≤ b.totals.visitors := by
  intro b hb
  obtain ⟨t, ht, hfacts⟩ := exists_of_forall₂ (liveBuckets_of_ok h) hb
  exact hfacts.ordered ht

/-- **The buckets of a series are ordered**, and none of them is empty. -/
theorem ordered_of_buckets (rows : ∀ r ∈ s.dailyTable.rows, r.2.Ordered)
    (h : s.buckets site start stop g now = .ok buckets) :
    ∀ b ∈ buckets, b.totals.Ordered ∧ 1 ≤ b.totals.visitors := by
  cases g with
  | day =>
      obtain ⟨-, -, parts, -, hday⟩ := buckets_day_eq_ok_iff.mp h
      obtain ⟨historic, live, rfl, hhistoric, hlive⟩ := dayBuckets_of_ok hday
      intro b hb
      rcases List.mem_append.mp hb with hb | hb
      · obtain ⟨text, htext, hrows⟩ := exists_of_forall₂ hhistoric hb
        exact hrows.ordered (ordered_of_historicRows rows site parts.historic) htext
      · obtain ⟨t, ht, hfacts⟩ := exists_of_forall₂ hlive hb
        exact hfacts.ordered ht
  | hour | month =>
      simp only [Store.buckets, bind_eq_ok_iff, mapError_eq_ok_iff] at h
      obtain ⟨-, -, -, -, h⟩ := h
      exact ordered_of_liveBuckets h

/-- **The totals of a range are ordered**, also where rows and facts are added. -/
theorem ordered_of_totals (rows : ∀ r ∈ s.dailyTable.rows, r.2.Ordered)
    (h : s.totals site start stop now = .ok t) : t.Ordered := by
  obtain ⟨-, parts, -, hsplit⟩ := totals_eq_ok_iff.mp h
  obtain ⟨historic, hsums, rfl⟩ := splitTotals_of_ok hsplit
  exact (hsums.ordered (ordered_of_historicRows rows site parts.historic)).add
    (Totals.ordered_ofFacts _)

/-! ## Reachable states -/

/-- **All rows and all answers of a store are ordered.** -/
structure AnswersOrdered (s : Store) : Prop where
  /-- Daily rows are ordered. -/
  daily : ∀ r ∈ s.dailyTable.rows, r.2.Ordered
  /-- So are hourly rows. -/
  hourly : ∀ r ∈ s.hourlyTable.rows, r.2.Ordered
  /-- A series shows ordered buckets with a visitor each, and their rates.  What is served for a
  rate is the quotient of both numbers in floating point. -/
  series : ∀ site start stop g now points, s.series site start stop g now = .ok points →
    ∃ buckets, s.buckets site start stop g now = .ok buckets ∧
      points = buckets.map Bucket.point ∧
      ∀ b ∈ buckets, 1 ≤ b.totals.visitors ∧ b.totals.Ordered ∧
        b.totals.rate = b.totals.bounces / b.totals.visitors ∧
        0 ≤ b.totals.rate ∧ b.totals.rate ≤ 1 ∧
        b.point.bounceRate = toFloat b.totals.bounces / toFloat b.totals.visitors
  /-- A summary shows ordered totals and their rate, which is zero without visitors. -/
  summary : ∀ site start stop now sum, s.summary site start stop now = .ok sum →
    ∃ t, s.totals site start stop now = .ok t ∧
      sum = ⟨t.pageviews, t.visitors, bounceRate t.bounces t.visitors⟩ ∧ t.Ordered ∧
      0 ≤ t.rate ∧ t.rate ≤ 1 ∧ (t.visitors = 0 → t.rate = 0 ∧ sum.bounceRate = 0.0) ∧
      (t.visitors ≠ 0 → sum.bounceRate = toFloat t.bounces / toFloat t.visitors)

/-- On a store with ordered rows, all answers are ordered. -/
theorem answersOrdered_of_rows (daily : ∀ r ∈ s.dailyTable.rows, r.2.Ordered)
    (hourly : ∀ r ∈ s.hourlyTable.rows, r.2.Ordered) : s.AnswersOrdered where
  daily := daily
  hourly := hourly
  series := by
    intro site start stop g now points h
    obtain ⟨buckets, hbuckets, hpoints⟩ := series_eq_ok_iff.mp h
    refine ⟨buckets, hbuckets, hpoints, fun b hb => ?_⟩
    obtain ⟨hordered, hpos⟩ := ordered_of_buckets daily hbuckets b hb
    have hne : b.totals.visitors ≠ 0 := by omega
    exact ⟨hpos, hordered, if_neg hne, hordered.rate_mem.1, hordered.rate_mem.2, if_neg hne⟩
  summary := by
    intro site start stop now sum h
    obtain ⟨t, ht, rfl⟩ := summary_eq_ok_iff.mp h
    have hordered := ordered_of_totals daily ht
    exact ⟨t, ht, rfl, hordered, hordered.rate_mem.1, hordered.rate_mem.2,
      fun hzero => ⟨if_pos hzero, if_pos hzero⟩, fun hne => if_neg hne⟩

/-- **Rows and answers are ordered in every reachable state.** -/
theorem answers_ordered (ops : List Operation) : (migrated.perform ops).AnswersOrdered := by
  rw [perform, ← Account.store_run_opening]
  have hbalanced := Account.balanced_run (migrated.trace ops)
  exact answersOrdered_of_rows (fun r hr => Rollup.ordered_of_get? hbalanced.daily hr)
    fun r hr => Rollup.ordered_of_get? hbalanced.hourly hr

end Store

end Footfall
