import Mathlib
import Footfall.Proofs.Rollup.Staleness
import Footfall.Proofs.Stats.Selection
import Footfall.Proofs.Stats.Split

/-!
# The hand-over at midnight

Until midnight a day is served from its facts, afterwards from its rollup.  If
the rollup is up to date, nothing about the day changes except its visitors,
which are then counted once for each combination of reference ids.

## Main Definitions

* `HandedOver` — how the bucket of a day from the rollup relates to the one from
  facts

## Main Statements

* `Store.dayBuckets_live` — the bucket of a day from its facts
* `Account.Balanced.dayBuckets_historic` — the bucket of a day from its rollup
* `Store.handover_of_fresh_day` — the relation of both in every reachable state
-/

namespace Footfall

/-! ## The range of a day -/

section WholeDay

theorem storable_day {d : Day} (storable : d.Storable) :
    Span.Storable ⟨.midnight d, .endOfDay d⟩ :=
  ⟨Instant.storable_midnight_iff.mpr storable, Instant.storable_endOfDay_iff.mpr storable⟩

theorem checkRange_day (d : Day) :
    checkRange (.midnight d) (.endOfDay d) = .ok () := by
  refine if_neg ?_
  simp only [Instant.lt_iff, Instant.key, Instant.endOfDay, Instant.midnight_seconds,
    Instant.midnight_nanos]
  omega

theorem checkBuckets_day (d : Day) :
    checkBuckets .day (.midnight d) (.endOfDay d) = .ok () := by
  have hcount : Granularity.bucketCount .day (.midnight d) (.endOfDay d) = 1 := by
    simp [Granularity.bucketCount, Granularity.truncate]
  rw [checkBuckets, hcount]
  rfl

end WholeDay

/-! ## The bucket of a day from its facts -/

namespace Store

variable {s : Store} {d : Day} {site : String}

/-- The facts of a site on a day. -/
def siteFactsOn (s : Store) (site : String) (d : Day) : List Fact :=
  (s.factsOn d).filter (·.ofSite site)

theorem mem_siteFactsOn {f : Fact} :
    f ∈ s.siteFactsOn site d ↔ f ∈ s.factList ∧ f.time.OnDay d ∧ f.site = site := by
  simp only [siteFactsOn, factsOn, Fact.ofSite, List.mem_filter, decide_eq_true_eq, beq_iff_eq,
    and_assoc]

theorem sameBucket_siteFactsOn : Totals.SameBucket .day (s.siteFactsOn site d) := by
  intro a ha b hb
  obtain ⟨-, haday, hasite⟩ := mem_siteFactsOn.mp ha
  obtain ⟨-, hbday, hbsite⟩ := mem_siteFactsOn.mp hb
  exact ⟨hasite.trans hbsite.symm,
    (Timestamp.truncate_day_eq_midnight_iff.mpr haday).trans
      (Timestamp.truncate_day_eq_midnight_iff.mpr hbday).symm⟩

theorem siteFacts_day (c : s.Complete) (storable : d.Storable) :
    s.siteFacts site ⟨.midnight d, .endOfDay d⟩ = .ok (s.siteFactsOn site d) := by
  refine siteFacts_eq_ok_iff.mpr ⟨c.facts, (storable_day storable).not_failsAmong, ?_⟩
  rw [siteFactsOn, factsOn, List.filter_filter, siteFactsWithin]
  refine List.filter_congr fun f _ => ?_
  rw [Bool.eq_iff_iff, Bool.and_eq_true, Bool.and_eq_true, Instant.toTimestamp_midnight,
    Timestamp.within_day_iff, decide_eq_true_eq]

/-- The bucket of a day, unless nothing was counted. -/
def bucketOfDay (d : Day) (facts : List Fact) (totals : Totals) : List Bucket :=
  if facts = [] then [] else [⟨.midnight d, totals⟩]

/-- Moments of one day are in one bucket. -/
theorem distinct_truncate_day {facts : List Fact} (nonempty : facts ≠ [])
    (h : ∀ f ∈ facts, f.time.OnDay d) :
    distinct (facts.map (·.time.truncate .day)) = [.midnight d] := by
  refine distinct_eq_singleton (by simpa using nonempty) fun t ht => ?_
  obtain ⟨f, hf, rfl⟩ := List.mem_map.mp ht
  exact Timestamp.truncate_day_eq_midnight_iff.mpr (h f hf)

theorem fourDigit_midnight {facts : List Fact} (years : ∀ f ∈ facts, f.time.FourDigit)
    (nonempty : facts ≠ []) (h : ∀ f ∈ facts, f.time.OnDay d) :
    (Timestamp.midnight d).FourDigit := by
  obtain ⟨f, hf⟩ := List.exists_mem_of_ne_nil _ nonempty
  refine (Timestamp.fourDigit_iff_of_dayNumber ?_).mp (years f hf)
  rw [Timestamp.dayNumber_midnight]
  exact h f hf

/-- **The bucket of a day from its facts.** -/
theorem dayBuckets_live (c : s.Complete) (years : ∀ f ∈ s.factList, f.time.FourDigit)
    (storable : d.Storable) :
    s.dayBuckets site ⟨none, some ⟨.midnight d, .endOfDay d⟩⟩ =
      if s.siteFactsOn site d = [] then .ok []
      else (countFacts (s.siteFactsOn site d)).map fun totals => [⟨.midnight d, totals⟩] := by
  have hday : ∀ f ∈ s.siteFactsOn site d, f.time.OnDay d :=
    fun f hf => (mem_siteFactsOn.mp hf).2.1
  have hyears : ∀ f ∈ s.siteFactsOn site d, f.time.FourDigit :=
    fun f hf => years f (mem_siteFactsOn.mp hf).1
  unfold dayBuckets liveBuckets
  simp only [ok_bind, siteFacts_day c storable, List.nil_append]
  generalize s.siteFactsOn site d = facts at hday hyears
  -- all facts are in the bucket of the day, if there are any
  by_cases hnil : facts = []
  · subst hnil
    simp [bucketsOf, distinct]
  · have hall : facts.filter (fun f => f.time.truncate .day == .midnight d) = facts := by
      rw [List.filter_eq_self]
      intro f hf
      rw [beq_iff_eq]
      exact Timestamp.truncate_day_eq_midnight_iff.mpr (hday f hf)
    rw [bucketsOf, distinct_truncate_day hnil hday, List.mergeSort_singleton, List.mapM_cons,
      List.mapM_nil, Timestamp.readBucket_midnight (fourDigit_midnight hyears hnil hday)]
    simp only [ok_bind, hall, if_neg hnil]
    generalize countFacts facts = counted
    cases counted with
    | error e => rfl
    | ok totals => rfl

end Store

/-! ## The bucket of a day from its rollup -/

namespace Totals

/-- Totals that are read from the store are the totals, and each is in range. -/
theorem checked_eq_ok_iff {t t' : Totals} :
    t.checked = .ok t' ↔
      t' = t ∧ t.pageviews < 2 ^ 63 ∧ t.visitors < 2 ^ 63 ∧ t.bounces < 2 ^ 63 := by
  rw [checked, readTotal_natCast, readTotal_natCast, readTotal_natCast]
  by_cases hp : t.pageviews < 2 ^ 63
  · by_cases hv : t.visitors < 2 ^ 63
    · by_cases hb : t.bounces < 2 ^ 63
      · simp only [hp, hv, hb, if_true, ok_bind, Except.ok.injEq, and_true]
        exact eq_comm
      · simp only [hp, hv, hb, if_true, if_false, ok_bind, error_bind, and_false, reduceCtorEq]
    · simp only [hp, hv, if_true, if_false, ok_bind, error_bind, and_false, false_and,
        reduceCtorEq]
  · simp only [hp, if_false, error_bind, and_false, false_and, reduceCtorEq]

variable {g : Granularity} {facts : List Fact}

theorem ofRows_visitors_le : (ofRows g facts).visitors ≤ facts.length :=
  (length_distinct_le _).trans (List.length_map _).le

theorem ofRows_bounces_le : (ofRows g facts).bounces ≤ facts.length :=
  List.countP_le_length

/-- The totals of rows can be read exactly if the facts are not too many. -/
theorem checked_ofRows_iff {t : Totals} :
    (ofRows g facts).checked = .ok t ↔ t = ofRows g facts ∧ facts.length < 2 ^ 63 := by
  rw [checked_eq_ok_iff]
  exact and_congr_right fun _ => ⟨fun h => h.1, fun h =>
    ⟨h, ofRows_visitors_le.trans_lt h, ofRows_bounces_le.trans_lt h⟩⟩

end Totals

namespace Account

variable {x : Account} {d : Day} {site : String}

/-- The keys of a site on a day. -/
def keyOnDay (site : String) (d : Day) (k : RollupKey) : Bool :=
  k.site == site && k.bucket.within (.midnight d) (Instant.endOfDay d).toTimestamp

theorem byBucketAndSite_keyOnDay : ByBucketAndSite (keyOnDay site d) := by
  intro k k' hbucket hsite
  rw [keyOnDay, keyOnDay, hbucket, hsite]

/-- The rows of a site on a day. -/
def siteRowsOn (s : Store) (site : String) (d : Day) : List (RollupKey × Measures) :=
  s.dailyTable.rows.filter fun r => keyOnDay site d r.1

theorem siteRows_day {s : Store} (c : s.Complete) (storable : d.Storable) :
    s.siteRows site ⟨.midnight d, .endOfDay d⟩ = .ok (siteRowsOn s site d) := by
  refine Store.siteRows_eq_ok_iff.mpr ⟨c.daily, ?_, ?_⟩
  · rw [Span.fromMidnight, Instant.day_midnight]
    exact (storable_day storable).not_failsAmong
  · rw [siteRowsOn, Store.siteRowsIn, Instant.day_midnight]
    rfl

/-- The facts that the rows of a site on a day stand for. -/
theorem counted_filter_eq (h : factsOfDay d x.counted = x.store.factsOn d) :
    (x.counted.filter fun f => keyOnDay site d (f.key .day)) = x.store.siteFactsOn site d := by
  rw [Store.siteFactsOn, ← h, factsOfDay, List.filter_filter]
  refine List.filter_congr fun f _ => ?_
  rw [Bool.eq_iff_iff, keyOnDay, Bool.and_eq_true, Bool.and_eq_true, Timestamp.within_day_iff,
    decide_eq_true_eq]
  exact and_congr Iff.rfl (by rw [Timestamp.OnDay, Fact.key, Timestamp.dayNumber_truncate_day]; rfl)

theorem Balanced.bucket_of_mem_siteRowsOn (h : x.Balanced) {r : RollupKey × Measures}
    (hr : r ∈ siteRowsOn x.store site d) : r.1.bucket = .midnight d := by
  obtain ⟨hr, hkey⟩ := List.mem_filter.mp hr
  obtain ⟨f, -, hf⟩ := Rollup.exists_fact_of_mem_rows h.daily hr
  rw [keyOnDay, Bool.and_eq_true, Timestamp.within_day_iff, ← hf] at hkey
  rw [← hf]
  refine Timestamp.truncate_day_eq_midnight_iff.mpr ?_
  rw [Timestamp.OnDay, ← Timestamp.dayNumber_truncate_day]
  exact hkey.2

/-- A site has rows on a day exactly if it has facts. -/
theorem Balanced.siteRowsOn_eq_nil_iff (h : x.Balanced)
    (hd : factsOfDay d x.counted = x.store.factsOn d) :
    siteRowsOn x.store site d = [] ↔ x.store.siteFactsOn site d = [] := by
  rw [← counted_filter_eq hd, siteRowsOn, List.filter_eq_nil_iff, List.filter_eq_nil_iff]
  constructor
  · intro hnone f hf hkey
    obtain ⟨r, hr, hfr⟩ := h.exists_row_of_mem_counted hf
    exact hnone r hr (by rw [hfr]; exact hkey)
  · intro hnone r hr hkey
    obtain ⟨f, hf, hfr⟩ := Rollup.exists_fact_of_mem_rows h.daily hr
    exact hnone f hf (by rw [hfr]; exact hkey)

/-- **The bucket of a day from its rollup.** -/
theorem Balanced.dayBuckets_historic (h : x.Balanced)
    (years : ∀ f ∈ x.store.factList, f.time.FourDigit) (storable : d.Storable)
    (hd : factsOfDay d x.counted = x.store.factsOn d) :
    x.store.dayBuckets site ⟨some ⟨.midnight d, .endOfDay d⟩, none⟩ =
      if x.store.siteFactsOn site d = [] then .ok []
      else (Totals.ofRows .day (x.store.siteFactsOn site d)).checked.map fun totals =>
        [⟨.midnight d, totals⟩] := by
  have hbucket : ∀ r ∈ siteRowsOn x.store site d, r.1.bucket = .midnight d :=
    fun _ hr => h.bucket_of_mem_siteRowsOn hr
  have hnil : siteRowsOn x.store site d = [] ↔ x.store.siteFactsOn site d = [] :=
    h.siteRowsOn_eq_nil_iff hd
  have hsum : Store.sumRows (siteRowsOn x.store site d) =
      (Totals.ofRows .day (x.store.siteFactsOn site d)).checked := by
    rw [siteRowsOn, Store.sumRows_of_get? h.daily byBucketAndSite_keyOnDay, counted_filter_eq hd]
  have hday : ∀ f ∈ x.store.siteFactsOn site d, f.time.OnDay d :=
    fun f hf => (Store.mem_siteFactsOn.mp hf).2.1
  have hyears : ∀ f ∈ x.store.siteFactsOn site d, f.time.FourDigit :=
    fun f hf => years f (Store.mem_siteFactsOn.mp hf).1
  unfold Store.dayBuckets Store.historicBuckets
  simp only [ok_bind, siteRows_day h.complete storable]
  -- from here on nothing else about the rows and the facts is needed
  generalize siteRowsOn x.store site d = rows at hbucket hnil hsum
  generalize x.store.siteFactsOn site d = facts at hnil hsum hday hyears ⊢
  by_cases hfacts : facts = []
  · rw [hnil.mpr hfacts, if_pos hfacts, List.map_nil, show distinct ([] : List String) = []
      from rfl, List.mergeSort_nil, List.mapM_nil]
    rfl
  · have hrows : rows ≠ [] := mt hnil.mp hfacts
    have htext : ∀ r ∈ rows, r.1.bucket.bucketText = (Timestamp.midnight d).bucketText :=
      fun r hr => congrArg Timestamp.bucketText (hbucket r hr)
    have htexts : distinct (rows.map (·.1.bucket.bucketText)) =
        [(Timestamp.midnight d).bucketText] := by
      refine distinct_eq_singleton (by simpa using hrows) fun text h => ?_
      obtain ⟨r, hr, rfl⟩ := List.mem_map.mp h
      exact htext r hr
    have hall : rows.filter (fun r => r.1.bucket.bucketText == (Timestamp.midnight d).bucketText) =
        rows := by
      rw [List.filter_eq_self]
      intro r hr
      rw [beq_iff_eq]
      exact htext r hr
    have hread : Instant.ofStoredText? (Timestamp.midnight d).bucketText =
        some (Instant.midnight d) :=
      Timestamp.ofStoredText?_midnight (Store.fourDigit_midnight hyears hfacts hday)
    rw [if_neg hfacts, htexts, List.mergeSort_singleton, List.mapM_cons, List.mapM_nil,
      Store.historicBucket, hall, hsum, hread]
    cases (Totals.ofRows .day facts).checked with
    | error e => rfl
    | ok totals => rfl

end Account

/-! ## Before and after midnight -/

/-- No visitor has views under two combinations of reference ids. -/
def OneKeyPerVisitor (facts : List Fact) : Prop :=
  ∀ a ∈ facts, ∀ b ∈ facts, a.visitor = b.visitor →
    a.ids.map (·.getD 0) = b.ids.map (·.getD 0)

/-- **How a bucket from the rollup relates to the one from facts**: nothing but
the number of visitors may differ, and it may only be larger. -/
structure HandedOver (facts : List Fact) (rolled live : Bucket) : Prop where
  /-- Both start at one time. -/
  start : rolled.start = live.start
  /-- Pageviews are the same. -/
  pageviews : rolled.totals.pageviews = live.totals.pageviews
  /-- Bounces are the same. -/
  bounces : rolled.totals.bounces = live.totals.bounces
  /-- No visitor is missed. -/
  visitors : live.totals.visitors ≤ rolled.totals.visitors
  /-- A visitor is counted twice exactly if two combinations of ids occur. -/
  visitors_eq_iff : rolled.totals.visitors = live.totals.visitors ↔ OneKeyPerVisitor facts
  /-- The share of bounces does not grow. -/
  rate : (rolled.totals.bounces : ℚ) / rolled.totals.visitors ≤
    live.totals.bounces / live.totals.visitors

/-- Either both answers are empty or each has one bucket. -/
inductive HandedOverAll (facts : List Fact) : List Bucket → List Bucket → Prop where
  /-- Neither has a bucket. -/
  | none : HandedOverAll facts [] []
  /-- Each has one. -/
  | one {rolled live : Bucket} (h : HandedOver facts rolled live) :
      HandedOverAll facts [rolled] [live]

namespace Store

variable {s : Store} {d : Day} {site : String}

theorem oneKeyPerVisitor_iff :
    OneKeyPerVisitor (s.siteFactsOn site d) ↔
      ∀ a ∈ s.siteFactsOn site d, ∀ b ∈ s.siteFactsOn site d,
        a.visitor = b.visitor → a.key .day = b.key .day := by
  refine forall₂_congr fun a ha => forall₂_congr fun b hb => imp_congr_right fun _ => ?_
  obtain ⟨hsite, hbucket⟩ := sameBucket_siteFactsOn a ha b hb
  simp [Fact.key, hsite, hbucket]

/-- Totals of rows and of facts on a day of a site. -/
theorem handedOver_totals (nonempty : s.siteFactsOn site d ≠ []) :
    HandedOver (s.siteFactsOn site d)
      ⟨.midnight d, .ofRows .day (s.siteFactsOn site d)⟩
      ⟨.midnight d, .ofFacts (s.siteFactsOn site d)⟩ := by
  have hbounces : (Totals.ofRows .day (s.siteFactsOn site d)).bounces =
      (Totals.ofFacts (s.siteFactsOn site d)).bounces :=
    Totals.ofRows_bounces sameBucket_siteFactsOn
  have hvisitors : (Totals.ofFacts (s.siteFactsOn site d)).visitors ≤
      (Totals.ofRows .day (s.siteFactsOn site d)).visitors :=
    Totals.visitors_le_ofRows
  refine ⟨rfl, rfl, hbounces, hvisitors,
    Totals.ofRows_visitors_eq_iff.trans oneKeyPerVisitor_iff.symm, ?_⟩
  -- both rates divide the same bounces, the live one by fewer visitors
  have hpos : 0 < (Totals.ofFacts (s.siteFactsOn site d)).visitors := by
    rw [Totals.ofFacts, List.length_pos_iff, Ne, visitorsOf, distinct_eq_nil_iff]
    simpa using nonempty
  dsimp only
  rw [hbounces]
  exact div_le_div_of_nonneg_left (Nat.cast_nonneg _) (Nat.cast_pos.mpr hpos)
    (Nat.cast_le.mpr hvisitors)

/-- The day series of a whole day, asked at a time. -/
def dayAt (s : Store) (site : String) (d : Day) (now : Instant) :
    Except StatsError (List Bucket) :=
  s.buckets site (.midnight d) (.endOfDay d) .day now

theorem dayAt_eq (now : Instant) :
    s.dayAt site d now =
      match split? (.midnight d) (.endOfDay d) now with
      | none => .error .beyondCalendar
      | some parts => (s.dayBuckets site parts).mapError .query := by
  rw [dayAt, buckets, checkRange_day, checkBuckets_day]
  rfl

/-- The series has a point for each bucket. -/
theorem series_day (now : Instant) :
    s.series site (.midnight d) (.endOfDay d) .day now =
      (s.dayAt site d now).map fun buckets => buckets.map Bucket.point := by
  rw [series, dayAt]
  cases s.buckets site (.midnight d) (.endOfDay d) .day now with
  | error e => rfl
  | ok buckets => rfl

/-- An empty day has no bucket, and any other day has one if its totals can be
read. -/
theorem bucketOfDay_iff {facts : List Fact} {read : Except StoreFault Totals} {totals : Totals}
    (hread : ∀ {t}, read = .ok t ↔ t = totals ∧ facts.length < 2 ^ 63) {buckets : List Bucket} :
    (if facts = [] then Except.ok []
      else read.map fun totals => [(⟨.midnight d, totals⟩ : Bucket)]).mapError StatsError.query =
        .ok buckets ↔
      buckets = bucketOfDay d facts totals ∧ facts.length < 2 ^ 63 := by
  by_cases hnil : facts = []
  · rw [if_pos hnil, bucketOfDay, if_pos hnil, hnil]
    simp [Except.mapError, eq_comm]
  · rw [if_neg hnil, bucketOfDay, if_neg hnil]
    cases hr : read with
    | error e =>
        have hmany : ¬ facts.length < 2 ^ 63 := by
          intro hlt
          rw [hread.mpr ⟨rfl, hlt⟩] at hr
          cases hr
        simp only [Except.map, Except.mapError, reduceCtorEq, hmany, and_false]
    | ok t =>
        obtain ⟨rfl, hlt⟩ := hread.mp hr
        simp only [Except.map, Except.mapError, Except.ok.injEq, hlt, and_true]
        exact eq_comm

/-- On the calendar's first day the clock has no day before, and no series is
given. -/
theorem dayAt_of_first {now : Instant} (h : now.day = Day.first) :
    s.dayAt site d now = .error .beyondCalendar := by
  rw [dayAt_eq, split?_of_first h]

end Store

namespace Account

variable {x : Account} {d : Day} {site : String} {now : Instant}

/-- Facts of a day make a bucket, unless they are too many to be counted. -/
theorem Balanced.dayAt_live_iff (h : x.Balanced)
    (years : ∀ f ∈ x.store.factList, f.time.FourDigit) (storable : d.Storable)
    (hfirst : Day.first < now.day) (hnow : now.day ≤ d) {live : List Bucket} :
    x.store.dayAt site d now = .ok live ↔
      live = Store.bucketOfDay d (x.store.siteFactsOn site d)
          (.ofFacts (x.store.siteFactsOn site d)) ∧
        (x.store.siteFactsOn site d).length < 2 ^ 63 := by
  rw [Store.dayAt_eq, split?_of_live hfirst hnow]
  dsimp only
  rw [Store.dayBuckets_live h.complete years storable]
  exact Store.bucketOfDay_iff countFacts_eq_ok_iff

/-- So do the rows of a day. -/
theorem Balanced.dayAt_historic_iff (h : x.Balanced)
    (years : ∀ f ∈ x.store.factList, f.time.FourDigit) (storable : d.Storable)
    (hd : factsOfDay d x.counted = x.store.factsOn d) (hnow : d < now.day)
    {rolled : List Bucket} :
    x.store.dayAt site d now = .ok rolled ↔
      rolled = Store.bucketOfDay d (x.store.siteFactsOn site d)
          (.ofRows .day (x.store.siteFactsOn site d)) ∧
        (x.store.siteFactsOn site d).length < 2 ^ 63 := by
  rw [Store.dayAt_eq, split?_of_past hnow]
  dsimp only
  rw [h.dayBuckets_historic years storable hd]
  exact Store.bucketOfDay_iff Totals.checked_ofRows_iff

/-- What the facts of a site on a day show. -/
theorem Tells.siteFactsOn {c : Chronicle} (tells : x.Tells c) (site : String) (d : Day) :
    (x.store.siteFactsOn site d).map x.store.sight =
      (sightingsOfDay d c.seen).filter (·.site == site) := by
  rw [← tells.factsOn, List.filter_map]
  rfl

/-- **The hand-over of a day whose facts are all counted.** -/
theorem Balanced.handover (h : x.Balanced) (years : ∀ f ∈ x.store.factList, f.time.FourDigit)
    (storable : d.Storable) (hd : factsOfDay d x.counted = x.store.factsOn d)
    {after before : Instant} (hafter : d < after.day) (hfirst : Day.first < before.day)
    (hbefore : before.day ≤ d) :
    ((∃ rolled, x.store.dayAt site d after = .ok rolled) ↔
        (x.store.siteFactsOn site d).length < 2 ^ 63) ∧
      ((∃ live, x.store.dayAt site d before = .ok live) ↔
        (x.store.siteFactsOn site d).length < 2 ^ 63) ∧
      ∀ rolled live, x.store.dayAt site d after = .ok rolled →
        x.store.dayAt site d before = .ok live →
        HandedOverAll (x.store.siteFactsOn site d) rolled live := by
  simp only [h.dayAt_historic_iff years storable hd hafter,
    h.dayAt_live_iff years storable hfirst hbefore, exists_and_right, exists_eq, true_and]
  rintro rolled live ⟨rfl, -⟩ ⟨rfl, -⟩
  by_cases hnil : x.store.siteFactsOn site d = []
  · rw [Store.bucketOfDay, Store.bucketOfDay, if_pos hnil, if_pos hnil]
    exact .none
  · rw [Store.bucketOfDay, Store.bucketOfDay, if_neg hnil, if_neg hnil]
    exact .one (Store.handedOver_totals hnil)

/-- A day with a watermark is one that the store can keep. -/
theorem storable_of_mark {as : List Action}
    (h : (opening.run as).store.marks.get? (.midnight d) ≠ none) : d.Storable := by
  rcases last_compaction as d with ⟨-, hnone⟩ | ⟨before, now, mark, hlast, -⟩
  · exact absurd hnone h
  · obtain ⟨after, -, hcompacts, -⟩ := hlast
    exact (compacts_iff.mp hcompacts).storable

end Account

namespace Store

/-- **In every reachable state, a compacted day without stale facts is answered
alike before and after its midnight**, but for the visitors, by every clock that
has a day before its own.  Neither answers for more views than can be counted. -/
theorem handover_of_fresh_day (ops : List Operation) (years : ∀ op ∈ ops, op.InYears)
    (site : String) (d : Day) (compacted : (migrated.perform ops).marks.get? (.midnight d) ≠ none)
    (fresh : ¬ (migrated.perform ops).Stale d) (after before : Instant)
    (hafter : d < after.day) (hfirst : Day.first < before.day) (hbefore : before.day ≤ d) :
    (∀ now, (migrated.perform ops).series site (.midnight d) (.endOfDay d) .day now =
      ((migrated.perform ops).dayAt site d now).map fun buckets => buckets.map Bucket.point) ∧
    ((∃ rolled, (migrated.perform ops).dayAt site d after = .ok rolled) ↔
      ((migrated.perform ops).siteFactsOn site d).length < 2 ^ 63) ∧
    ((∃ live, (migrated.perform ops).dayAt site d before = .ok live) ↔
      ((migrated.perform ops).siteFactsOn site d).length < 2 ^ 63) ∧
    ∀ rolled live, (migrated.perform ops).dayAt site d after = .ok rolled →
      (migrated.perform ops).dayAt site d before = .ok live →
      HandedOverAll ((migrated.perform ops).siteFactsOn site d) rolled live := by
  have hbalanced := Account.balanced_run (migrated.trace ops)
  have hyears := Account.fourDigit_of_trace years
  rw [perform, ← Account.store_run_opening] at *
  exact ⟨series_day, hbalanced.handover hyears (Account.storable_of_mark compacted)
    (not_not.mp (mt (hbalanced.stale_iff d).mpr fresh)) hafter hfirst hbefore⟩

/-- Right after its compaction, a day has a watermark and is not stale. -/
theorem fresh_of_compact {d : Day} {now : Instant} (h : Compactable d now) (as : List Action) :
    (migrated.runAll (as ++ [.compact d now])).marks.get? (.midnight d) ≠ none ∧
      ¬ (migrated.runAll (as ++ [.compact d now])).Stale d := by
  have hbalanced := Account.balanced_run (as ++ [.compact d now])
  rw [← Account.store_run_opening, hbalanced.stale_iff]
  rw [Account.run_concat, Account.step_of_compactable (Account.balanced_run as).complete h,
    Account.factsOfDay_recount_self, mark_compacted_self]
  exact ⟨Option.some_ne_none _, not_not.mpr rfl⟩

/-- Two views of different pages by one visitor, and a compaction three days
later. -/
def twoViews : List Action :=
  [viewOn (sampleDay 0) "blog" "/", viewOn (sampleDay 0) "blog" "/about"] ++
    [.compact (sampleDay 0) (.midnight (sampleDay 3))]

theorem inYears_twoViews : ∀ a ∈ twoViews, a.InYears := by
  decide

theorem fresh_twoViews :
    (migrated.perform (twoViews.map .call)).marks.get? (.midnight (sampleDay 0)) ≠ none ∧
      ¬ (migrated.perform (twoViews.map .call)).Stale (sampleDay 0) := by
  rw [perform_map_call]
  exact fresh_of_compact (by decide) _

theorem length_twoViews :
    ((migrated.perform (twoViews.map .call)).siteFactsOn "blog" (sampleDay 0)).length = 2 := by
  rw [perform_map_call, ← Account.store_run_opening,
    ← List.length_map (f := (Account.opening.run twoViews).store.sight),
    (Account.tells_run twoViews).siteFactsOn]
  decide

theorem handover_of_twoViews :
    (∀ op ∈ twoViews.map .call, Operation.InYears op) ∧
      (migrated.perform (twoViews.map .call)).marks.get? (.midnight (sampleDay 0)) ≠ none ∧
      ¬ (migrated.perform (twoViews.map .call)).Stale (sampleDay 0) ∧
      ∃ rolled live,
        (migrated.perform (twoViews.map .call)).dayAt "blog" (sampleDay 0)
          (.midnight (sampleDay 13)) = .ok rolled ∧
        (migrated.perform (twoViews.map .call)).dayAt "blog" (sampleDay 0)
          (.midnight (sampleDay 0)) = .ok live ∧
        HandedOverAll ((migrated.perform (twoViews.map .call)).siteFactsOn "blog" (sampleDay 0))
          rolled live := by
  have years := inYears_map_call inYears_twoViews
  obtain ⟨-, hrolled, hlive, hboth⟩ := handover_of_fresh_day (twoViews.map .call) years "blog"
    (sampleDay 0) fresh_twoViews.1 fresh_twoViews.2 (.midnight (sampleDay 13))
    (.midnight (sampleDay 0)) (by decide) (by decide) (by decide)
  have hlength : ((migrated.perform (twoViews.map .call)).siteFactsOn "blog"
      (sampleDay 0)).length < 2 ^ 63 := by
    rw [length_twoViews]
    decide
  obtain ⟨rolled, hr⟩ := hrolled.mpr hlength
  obtain ⟨live, hl⟩ := hlive.mpr hlength
  exact ⟨years, fresh_twoViews.1, fresh_twoViews.2, rolled, live, hr, hl, hboth rolled live hr hl⟩

/-- Not every clock before midnight answers alike: on the first day of the
calendar the series is refused, although the rollup has a bucket for the day. -/
theorem no_handover_on_first_day :
    ∃ (ops : List Operation) (site : String) (d : Day) (after before : Instant),
      (∀ op ∈ ops, op.InYears) ∧ (migrated.perform ops).marks.get? (.midnight d) ≠ none ∧
      ¬ (migrated.perform ops).Stale d ∧ d < after.day ∧ before.day ≤ d ∧
      (∃ bucket, (migrated.perform ops).dayAt site d after = .ok [bucket]) ∧
      (migrated.perform ops).dayAt site d before = .error .beyondCalendar := by
  refine ⟨twoViews.map .call, "blog", (sampleDay 0), .midnight (sampleDay 13),
    .midnight .first, inYears_map_call inYears_twoViews, fresh_twoViews.1, fresh_twoViews.2,
    by decide, by decide, ?_, dayAt_of_first (Instant.day_midnight _)⟩
  have hbalanced := Account.balanced_run twoViews
  have hyears : ∀ f ∈ (Account.opening.run twoViews).store.factList, f.time.FourDigit :=
    fun f hf => Account.fourDigit_of_inYears hf fun v now ha _ => inYears_twoViews _ ha
  have hfresh := fresh_twoViews.2
  have hlength := length_twoViews
  rw [perform_map_call, ← Account.store_run_opening] at hfresh hlength ⊢
  have hcounted := not_not.mp (mt (hbalanced.stale_iff (sampleDay 0)).mpr hfresh)
  have hnil : (Account.opening.run twoViews).store.siteFactsOn "blog" (sampleDay 0) ≠ [] := by
    intro hnil
    rw [hnil] at hlength
    cases hlength
  -- after the day its rollup has a bucket, for two facts are few enough to be counted
  have hrolled : (Account.opening.run twoViews).store.dayAt "blog" (sampleDay 0)
      (.midnight (sampleDay 13)) = .ok _ :=
    (hbalanced.dayAt_historic_iff hyears (by decide) hcounted (by decide)).mpr
      ⟨rfl, by rw [hlength]; decide⟩
  rw [Store.bucketOfDay, if_neg hnil] at hrolled
  exact ⟨_, hrolled⟩

end Store

end Footfall
