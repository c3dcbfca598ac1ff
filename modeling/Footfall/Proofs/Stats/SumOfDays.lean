import Mathlib
import Footfall.Proofs.Stats.Sources

/-!
# A summary is the sum of its days

A summary adds up at once what a day series adds up day by day.  A row before
midnight has one text, so the rows add up to the same totals either way.  The facts
from midnight on are different: a visitor who returns on a later day is one visitor
of the summary and one of each day.  So pageviews always agree, the summary has no
more visitors than the series, and all measures agree if the range ends today.

## Main Definitions

* `Totals.sum` — totals added up, measure by measure

## Main Statements

* `sumsOf_of_texts` — the buckets of the texts add up to the sums of the rows
* `visitors_le_of_facts`, `sum_eq_of_one_bucket` — what the buckets of facts add up to
* `Store.exists_day_of_historicRows`, `Store.exists_day_of_liveFacts` — on which days of
  a range its rows and facts lie
* `Store.totals_le_sum_of_days`, `Store.totals_eq_sum_of_days` — a summary and its days
-/

namespace Footfall

/-! ## Totals added up -/

namespace Totals

/-- The sum of some totals, measure by measure. -/
def sum (ts : List Totals) : Totals :=
  ts.foldr add {}

variable (t : Totals) (ts us : List Totals)

@[simp] theorem sum_nil : sum [] = {} := rfl

@[simp] theorem sum_cons : sum (t :: ts) = t.add (sum ts) := rfl

theorem pageviews_sum : (sum ts).pageviews = (ts.map (·.pageviews)).sum := by
  induction ts with
  | nil => rfl
  | cons t ts ih => rw [sum_cons, add, List.map_cons, List.sum_cons, ← ih]

theorem visitors_sum : (sum ts).visitors = (ts.map (·.visitors)).sum := by
  induction ts with
  | nil => rfl
  | cons t ts ih => rw [sum_cons, add, List.map_cons, List.sum_cons, ← ih]

theorem bounces_sum : (sum ts).bounces = (ts.map (·.bounces)).sum := by
  induction ts with
  | nil => rfl
  | cons t ts ih => rw [sum_cons, add, List.map_cons, List.sum_cons, ← ih]

theorem sum_append : sum (ts ++ us) = (sum ts).add (sum us) := by
  induction ts with
  | nil => simp [add]
  | cons t ts ih => simp [ih, add, Nat.add_assoc]

end Totals

theorem SumsOf.unique {rows : List (RollupKey × Measures)} {t u : Totals} (ht : SumsOf rows t)
    (hu : SumsOf rows u) : t = u := by
  have hpageviews := ht.pageviews.trans hu.pageviews.symm
  have hvisitors := ht.visitors.trans hu.visitors.symm
  have hbounces := ht.bounces.trans hu.bounces.symm
  rw [Nat.cast_inj] at hpageviews hvisitors hbounces
  cases t
  cases u
  simp_all

/-! ## Text by text -/

section Texts

variable {rows : List (RollupKey × Measures)} {buckets : List Bucket} {text : String}

theorem mem_bucketTexts : text ∈ bucketTexts rows ↔ ∃ r ∈ rows, r.1.bucket.bucketText = text := by
  rw [bucketTexts, List.mem_mergeSort, mem_distinct, List.mem_map]

theorem nodup_bucketTexts : (bucketTexts rows).Nodup :=
  (List.mergeSort_perm _ _).nodup_iff.mpr (nodup_distinct _)

variable (h : List.Forall₂ (Bucket.OfText rows) (bucketTexts rows) buckets)
include h

/-- Each measure adds up text by text. -/
theorem sum_measure_of_texts (get : Totals → ℕ) (m : Measures → ℤ)
    (reads : ∀ {rows t}, SumsOf rows t → (get t : ℤ) = total (rows.map fun r => m r.2)) :
    (((buckets.map (·.totals)).map get).sum : ℤ) = total (rows.map fun r => m r.2) := by
  have hmap : (buckets.map fun b => (get b.totals : ℤ)) = (bucketTexts rows).map fun text =>
      total ((rows.filter (·.1.bucket.bucketText == text)).map fun r => m r.2) :=
    map_eq_of_forall₂ h fun text b hb => reads hb.sums
  rw [← sum_total_fiber nodup_bucketTexts (fun r => r.1.bucket.bucketText) (fun r => m r.2)
    fun r hr => mem_bucketTexts.mpr ⟨r, hr, rfl⟩, ← hmap, Nat.cast_list_sum, List.map_map,
    List.map_map]
  rfl

/-- **The buckets of the texts add up to the sums of the rows.** -/
theorem sumsOf_of_texts : SumsOf rows (Totals.sum (buckets.map (·.totals))) where
  pageviews := by
    rw [Totals.pageviews_sum]
    exact sum_measure_of_texts h (·.pageviews) (·.count) (·.pageviews)
  visitors := by
    rw [Totals.visitors_sum]
    exact sum_measure_of_texts h (·.visitors) (·.visitors) (·.visitors)
  bounces := by
    rw [Totals.bounces_sum]
    exact sum_measure_of_texts h (·.bounces) (·.bounces) (·.bounces)

end Texts

/-! ## Bucket by bucket -/

section Facts

open Store (bucketsOf)

variable {g : Granularity} {facts : List Fact} {buckets : List Bucket} {t : Timestamp}

theorem mem_bucketsOf : t ∈ bucketsOf g facts ↔ ∃ f ∈ facts, f.time.truncate g = t := by
  rw [bucketsOf, List.mem_mergeSort, mem_distinct, List.mem_map]

theorem nodup_bucketsOf (g : Granularity) (facts : List Fact) : (bucketsOf g facts).Nodup :=
  (List.mergeSort_perm _ _).nodup_iff.mpr (nodup_distinct _)

variable (h : List.Forall₂ (Bucket.OfFacts g facts) (bucketsOf g facts) buckets)
include h

/-- What is counted for each bucket is counted for the facts of its time. -/
theorem map_totals_of_facts : buckets.map (·.totals) =
    (bucketsOf g facts).map fun t => .ofFacts (facts.filter (·.time.truncate g == t)) :=
  map_eq_of_forall₂ h fun _ _ hb => hb.totals

theorem pageviews_of_facts :
    (Totals.sum (buckets.map (·.totals))).pageviews = facts.length := by
  rw [Totals.pageviews_sum, map_totals_of_facts h, List.map_map]
  rw [← sum_length_fiber (nodup_bucketsOf g facts) (·.time.truncate g)
    fun f hf => mem_bucketsOf.mpr ⟨f, hf, rfl⟩]
  refine congrArg List.sum (List.map_congr_left fun t _ => ?_)
  simp [Totals.ofFacts, beq_eq_decide]

/-- **Buckets of facts have no fewer visitors than the facts.** -/
theorem visitors_le_of_facts :
    (Totals.ofFacts facts).visitors ≤ (Totals.sum (buckets.map (·.totals))).visitors := by
  have hcover : ∀ x ∈ facts.map (fun f => (f.time.truncate g, f.visitor)),
      x.1 ∈ bucketsOf g facts := by
    intro x hx
    obtain ⟨f, hf, rfl⟩ := List.mem_map.mp hx
    exact mem_bucketsOf.mpr ⟨f, hf, rfl⟩
  have hpairs := sum_length_distinct_fiber (nodup_bucketsOf g facts) hcover
  have hvisitors : (Totals.sum (buckets.map (·.totals))).visitors =
      (distinct (facts.map fun f => (f.time.truncate g, f.visitor))).length := by
    rw [Totals.visitors_sum, map_totals_of_facts h, List.map_map, ← hpairs]
    refine congrArg List.sum (List.map_congr_left fun t _ => ?_)
    simp [Totals.ofFacts, visitorsOf, List.filter_map, Function.comp_def, beq_eq_decide]
  rw [hvisitors]
  exact length_distinct_map_le fun a _ b _ heq => (Prod.mk.inj heq).2

/-- Facts of one bucket are counted once. -/
theorem sum_eq_of_one_bucket (one : ∀ f ∈ facts, f.time.truncate g = t) :
    Totals.sum (buckets.map (·.totals)) = .ofFacts facts := by
  rw [map_totals_of_facts h]
  by_cases hempty : facts = []
  · rw [hempty, bucketsOf_nil]
    rfl
  · have hall : facts.filter (·.time.truncate g == t) = facts := by
      rw [List.filter_eq_self]
      intro f hf
      rw [beq_iff_eq]
      exact one f hf
    have hbuckets : bucketsOf g facts = [t] := by
      rw [bucketsOf, distinct_eq_singleton (a := t), List.mergeSort_singleton]
      · simpa using hempty
      · intro b hb
        obtain ⟨f, hf, rfl⟩ := List.mem_map.mp hb
        exact one f hf
    rw [hbuckets, List.map_singleton, hall]
    rfl

end Facts

/-! ## The days of a range -/

/-- A moment between two stored instants lies on one of their days, which the store
can keep. -/
theorem Timestamp.exists_onDay_of_within {t : Timestamp} {start stop : Instant}
    (hstart : start.Storable) (hstop : stop.Storable)
    (h : t.within start.toTimestamp stop.toTimestamp = true) :
    ∃ d : Day, t.OnDay d ∧ d.Storable ∧ start.day ≤ d ∧ d ≤ stop.day := by
  have hfirst := Instant.dayNumber_toTimestamp hstart
  have hlast := Instant.dayNumber_toTimestamp hstop
  simp only [within, Bool.and_eq_true, decide_eq_true_eq, le_iff] at h
  have hfrom : start.day.number ≤ t.dayNumber := hfirst ▸ Int.ediv_le_ediv (by decide) h.1
  have hto : t.dayNumber ≤ stop.day.number := hlast ▸ Int.ediv_le_ediv (by decide) h.2
  refine ⟨⟨t.dayNumber, start.day.first_le.trans hfrom, hto.trans stop.day.le_last⟩, ?_⟩
  exact ⟨rfl, .of_le hstop.2 hto, hfrom, hto⟩

namespace Store

variable {s : Store} {site : String} {start stop now : Instant} {parts : Split}
  {buckets : List Bucket} {t : Totals} {f : Fact} {r : RollupKey × Measures}

/-- **The facts of a range** lie on days of the range from today on. -/
theorem exists_day_of_liveFacts (hparts : split? start stop now = some parts)
    (hday : s.dayBuckets site parts = .ok buckets) (hf : f ∈ s.liveFacts site parts.live) :
    ∃ d : Day, f.time.OnDay d ∧ d.Storable ∧ start.day ≤ d ∧ now.day ≤ d ∧ d ≤ stop.day := by
  obtain ⟨_, live, -, hlive, -⟩ := dayBuckets_eq_ok_iff.mp hday
  cases hpart : parts.live with
  | none =>
      rw [hpart] at hf
      cases hf
  | some part =>
      rw [hpart, liveFacts, Option.elim_some] at hf
      rw [hpart, Option.elim_some, liveBuckets, bind_eq_ok_iff] at hlive
      obtain ⟨-, rfl⟩ := (mem_live_iff hparts).mp hpart
      obtain ⟨_, hfacts, -⟩ := hlive
      obtain ⟨hstart, hstop⟩ :=
        storable_of_mem_siteFactsWithin (siteFacts_eq_ok_iff.mp hfacts).2.1 hf
      have hwithin := (mem_siteFactsWithin.mp hf).2.2
      obtain ⟨d, hd, hstorable, hfrom, hto⟩ :=
        Timestamp.exists_onDay_of_within hstart hstop hwithin
      have hboth : start.day ≤ d ∧ now.day ≤ d := day_liveSpan_le_iff.mp hfrom
      exact ⟨d, hd, hstorable, hboth.1, hboth.2, hto⟩

/-- A row in the historic part of a range lies on a day of the range before today. -/
theorem exists_day_of_historic {part : Span} (hparts : split? start stop now = some parts)
    (hpart : parts.historic = some part)
    (accepted : ¬ part.fromMidnight.FailsAmong (s.siteBuckets site))
    (hr : r ∈ s.siteRowsIn site part) :
    ∃ d : Day, r.1.bucket.OnDay d ∧ d.Storable ∧ start.day ≤ d ∧ d < now.day ∧ d ≤ stop.day := by
  obtain ⟨hstart, hstop⟩ := storable_of_mem_siteRowsIn accepted hr
  obtain ⟨d, hd, storable, hfrom, hto⟩ :=
    Timestamp.exists_onDay_of_within hstart hstop (within_of_mem_siteRowsIn hr)
  obtain ⟨rfl, hlast, hpast⟩ := historic_bounds hparts hpart
  rw [Span.fromMidnight, Instant.day_midnight] at hfrom
  exact ⟨d, hd, storable, hfrom, Int.lt_of_le_of_lt hto hpast, Int.le_trans hto hlast⟩

/-- **The rows of a range** lie on days of the range before today. -/
theorem exists_day_of_historicRows (hparts : split? start stop now = some parts)
    (hday : s.dayBuckets site parts = .ok buckets)
    (hr : r ∈ s.historicRows site parts.historic) :
    ∃ d : Day, r.1.bucket.OnDay d ∧ d.Storable ∧ start.day ≤ d ∧ d < now.day ∧ d ≤ stop.day := by
  obtain ⟨historic, _, hhistoric, -, -⟩ := dayBuckets_eq_ok_iff.mp hday
  cases hpart : parts.historic with
  | none =>
      rw [hpart] at hr
      cases hr
  | some part =>
      rw [hpart, historicRows, Option.elim_some] at hr
      rw [hpart, Option.elim_some, historicBuckets, bind_eq_ok_iff] at hhistoric
      obtain ⟨_, hrows, -⟩ := hhistoric
      exact exists_day_of_historic hparts hpart (siteRows_eq_ok_iff.mp hrows).2.1 hr

/-! ## A summary and its days -/

/-- A summary and a day series of one range are cut at one midnight, and read the
same rows and facts. -/
theorem totals_and_days (hbuckets : s.buckets site start stop .day now = .ok buckets)
    (ht : s.totals site start stop now = .ok t) :
    ∃ (parts : Split) (past : Totals) (live : List Bucket), split? start stop now = some parts ∧
      s.dayBuckets site parts = .ok buckets ∧
      List.Forall₂ (Bucket.OfFacts .day (s.liveFacts site parts.live))
        (bucketsOf .day (s.liveFacts site parts.live)) live ∧
      t = past.add (.ofFacts (s.liveFacts site parts.live)) ∧
      Totals.sum (buckets.map (·.totals)) = past.add (Totals.sum (live.map (·.totals))) := by
  obtain ⟨-, -, parts, hparts, hday⟩ := buckets_day_eq_ok_iff.mp hbuckets
  obtain ⟨-, same, hsame, hsplit⟩ := totals_eq_ok_iff.mp ht
  obtain rfl : parts = same := Option.some.inj (hparts.symm.trans hsame)
  obtain ⟨historic, live, rfl, htexts, hfacts⟩ := dayBuckets_of_ok hday
  obtain ⟨past, hpast, rfl⟩ := splitTotals_of_ok hsplit
  refine ⟨parts, past, live, hparts, hday, hfacts, rfl, ?_⟩
  rw [List.map_append, Totals.sum_append, (sumsOf_of_texts htexts).unique hpast]

/-- **The pageviews of a summary are those of its days, and its visitors no more.** -/
theorem totals_le_sum_of_days (hbuckets : s.buckets site start stop .day now = .ok buckets)
    (ht : s.totals site start stop now = .ok t) :
    t.pageviews = (Totals.sum (buckets.map (·.totals))).pageviews ∧
      t.visitors ≤ (Totals.sum (buckets.map (·.totals))).visitors := by
  obtain ⟨parts, past, live, -, -, hfacts, rfl, hsum⟩ := totals_and_days hbuckets ht
  have hpageviews := pageviews_of_facts hfacts
  have hvisitors := visitors_le_of_facts hfacts
  rw [hsum]
  refine ⟨?_, Nat.add_le_add_left hvisitors _⟩
  simp only [Totals.add, hpageviews, Totals.ofFacts]

/-- **A summary up to today is the sum of its days.** -/
theorem totals_eq_sum_of_days (hbuckets : s.buckets site start stop .day now = .ok buckets)
    (ht : s.totals site start stop now = .ok t) (htoday : stop.day ≤ now.day) :
    t = Totals.sum (buckets.map (·.totals)) := by
  obtain ⟨parts, past, live, hparts, hday, hfacts, rfl, hsum⟩ := totals_and_days hbuckets ht
  -- the facts are those of today, so no visitor returns on a later day
  have htodays : ∀ f ∈ s.liveFacts site parts.live,
      f.time.truncate .day = .midnight now.day := by
    intro f hf
    obtain ⟨d, hd, -, -, hfrom, hto⟩ := exists_day_of_liveFacts hparts hday hf
    have heq : d = now.day := by
      rw [Day.le_iff] at hfrom hto htoday
      exact Day.eq_of_number (by omega)
    rw [← heq]
    exact Timestamp.truncate_day_eq_midnight_iff.mpr hd
  rw [hsum, sum_eq_of_one_bucket hfacts htodays]

end Store

end Footfall
