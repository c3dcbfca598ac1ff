import Mathlib
import Footfall.Proofs.Rollup.Standing
import Footfall.Proofs.Stats.SumOfDays
import Footfall.Proofs.Stats.Walk

/-!
# Series of facts

Hours and months are counted from facts at every query.  The store groups the facts by
truncating their moments, and what it answers for a group is read back as an instant.
This is the start of the bucket that the calendar finds for the instants of the facts,
so the series can be told without the store: for each start that occurs, the facts that
have it, their visitors, and the share of visitors with one of these facts.

No other table is read.  A compaction writes only to others, so it leaves the answer
as it is.

## Main Definitions

* `Timestamp.bucketStart?` — the start of the bucket of the calendar that holds a moment
* `factsFrom` — the facts of a bucket by its start
* `Tallied`, `ShowsFacts` — buckets tally some facts, and a series shows them

## Main Statements

* `Store.liveBuckets_eq_ok_iff` — when facts are counted by buckets, and what is answered
* `Store.tallied_of_mapM_readLive`, `Tallied.showsFacts` — the answer shows the facts
* `Store.live_series_shows_facts` — the series of hours and of months
-/

namespace Footfall

/-! ## Facts of a bucket -/

/-- The start of the bucket of the calendar that holds a moment of the years 0 to 9999. -/
def Timestamp.bucketStart? (g : Granularity) (t : Timestamp) : Option Instant :=
  if h : t.FourDigit then some (g.truncate (t.toInstant h)) else none

namespace Timestamp

variable {g : Granularity} {t u : Timestamp} {b : Instant}

theorem bucketStart?_of_fourDigit (g : Granularity) (h : t.FourDigit) :
    t.bucketStart? g = some (g.truncate (t.toInstant h)) :=
  dif_pos h

/-- The store answers the start of a bucket as the calendar has it. -/
theorem readBucket_truncate_eq_ok_iff (h : t.FourDigit) :
    (t.truncate g).readBucket = .ok b ↔ t.bucketStart? g = some b := by
  rw [readBucket_truncate g h, bucketStart?_of_fourDigit g h, Except.ok.injEq, Option.some_inj]

/-- The store groups moments as the calendar does. -/
theorem bucketStart?_eq_iff (ht : t.FourDigit) (hu : u.FourDigit) :
    t.bucketStart? g = u.bucketStart? g ↔ t.truncate g = u.truncate g := by
  rw [bucketStart?_of_fourDigit g ht, bucketStart?_of_fourDigit g hu, Option.some_inj,
    truncate_eq_iff g ht hu]

/-- A start lies on the second that the store truncates to. -/
theorem micros_of_bucketStart? (h : t.bucketStart? g = some b) :
    (t.truncate g).micros = b.seconds * 1000000 := by
  unfold bucketStart? at h
  split at h
  · next hyear =>
    rw [← Option.some.inj h, micros_truncate, (g.starts_truncate _).1]
    rfl
  · cases h

end Timestamp

/-- The facts of the bucket that starts at an instant. -/
def factsFrom (g : Granularity) (facts : List Fact) (b : Instant) : List Fact :=
  facts.filter fun f => f.time.bucketStart? g = some b

/-- The visitors of some facts. -/
def visitorSet (facts : List Fact) : Finset ℕ :=
  (facts.map (·.visitor)).toFinset

/-- The visitors with exactly one of some facts. -/
def singleVisitors (facts : List Fact) : Finset ℕ :=
  (visitorSet facts).filter fun v => (facts.map (·.visitor)).count v = 1

/-- **A series shows some facts**, bucket by bucket. -/
structure ShowsFacts (g : Granularity) (facts : List Fact) (points : List Point) : Prop where
  /-- Points are in strictly increasing order. -/
  increasing : points.Pairwise fun p q => p.time < q.time
  /-- There is a point for each start that occurs, and no other. -/
  time_iff : ∀ b, (∃ p ∈ points, p.time = b) ↔ ∃ f ∈ facts, f.time.bucketStart? g = some b
  /-- A point carries the number of its facts. -/
  pageviews : ∀ p ∈ points, p.pageviews = (factsFrom g facts p.time).length
  /-- It carries the number of their visitors. -/
  visitors : ∀ p ∈ points, p.visitors = (visitorSet (factsFrom g facts p.time)).card
  /-- It carries the share of visitors with one of these facts. -/
  bounceRate : ∀ p ∈ points,
    p.bounceRate = toFloat (singleVisitors (factsFrom g facts p.time)).card /
      toFloat (visitorSet (factsFrom g facts p.time)).card

/-- **Buckets tally some facts**, each those of its own. -/
structure Tallied (g : Granularity) (facts : List Fact) (buckets : List Bucket) : Prop where
  /-- Starts are strictly increasing. -/
  increasing : buckets.Pairwise fun b c => b.start < c.start
  /-- There is a bucket for each start that occurs, and no other. -/
  start_iff : ∀ t, (∃ b ∈ buckets, b.start = t) ↔ ∃ f ∈ facts, f.time.bucketStart? g = some t
  /-- A bucket carries the totals of its facts. -/
  totals : ∀ b ∈ buckets, b.totals = .ofFacts (factsFrom g facts b.start)

theorem mem_factsFrom {g : Granularity} {facts : List Fact} {b : Instant} {f : Fact} :
    f ∈ factsFrom g facts b ↔ f ∈ facts ∧ f.time.bucketStart? g = some b := by
  rw [factsFrom, List.mem_filter, decide_eq_true_eq]

/-! ## Totals by sets -/

theorem countP_visitorsOf (facts : List Fact) :
    (visitorsOf facts).countP (fun v => viewsOf facts v == 1) = (singleVisitors facts).card := by
  have hset : singleVisitors facts =
      ((visitorsOf facts).filter fun v => viewsOf facts v == 1).toFinset := by
    ext v
    rw [singleVisitors, visitorSet, Finset.mem_filter, List.mem_toFinset, List.mem_toFinset,
      List.mem_filter, visitorsOf, mem_distinct, viewsOf_eq_count, beq_iff_eq]
  have hnodup : ((visitorsOf facts).filter fun v => viewsOf facts v == 1).Nodup :=
    (nodup_distinct _).filter _
  rw [hset, List.toFinset_card_of_nodup hnodup, List.countP_eq_length_filter]

/-- The totals of facts are the sizes of these sets. -/
theorem Totals.ofFacts_eq (facts : List Fact) : Totals.ofFacts facts =
    ⟨facts.length, (visitorSet facts).card, (singleVisitors facts).card⟩ := by
  rw [ofFacts, length_visitorsOf, countP_visitorsOf, visitorSet]

/-! ## Counting by buckets -/

namespace Bucket

variable {g : Granularity} {facts : List Fact} {f : Fact} {b : Bucket}

/-- The store selects the facts of a bucket as the calendar does. -/
theorem filter_truncate_eq (years : ∀ f ∈ facts, f.time.FourDigit) (hf : f ∈ facts)
    {start : Instant} (hstart : f.time.bucketStart? g = some start) :
    facts.filter (·.time.truncate g == f.time.truncate g) = factsFrom g facts start := by
  refine List.filter_congr fun e he => ?_
  rw [Bool.eq_iff_iff, beq_iff_eq, decide_eq_true_eq, ← hstart,
    Timestamp.bucketStart?_eq_iff (years e he) (years f hf)]

/-- A bucket of the store is the bucket of the calendar, with the totals of its facts. -/
theorem ofFacts_truncate_iff (years : ∀ f ∈ facts, f.time.FourDigit) (hf : f ∈ facts) :
    b.OfFacts g facts (f.time.truncate g) ↔
      f.time.bucketStart? g = some b.start ∧ b.totals = .ofFacts (factsFrom g facts b.start) := by
  constructor
  · rintro ⟨htotals, hstart⟩
    rw [Timestamp.readBucket_truncate_eq_ok_iff (years f hf)] at hstart
    rw [filter_truncate_eq years hf hstart] at htotals
    exact ⟨hstart, htotals⟩
  · rintro ⟨hstart, htotals⟩
    refine ⟨?_, (Timestamp.readBucket_truncate_eq_ok_iff (years f hf)).mpr hstart⟩
    rw [filter_truncate_eq years hf hstart, htotals]

end Bucket

namespace Store

variable {s : Store} {site : String} {range : Span} {g : Granularity} {facts : List Fact}
  {buckets : List Bucket}

/-- Reads one bucket of facts. -/
def readLive (g : Granularity) (facts : List Fact) (t : Timestamp) : Except StoreFault Bucket := do
  .ok ⟨← t.readBucket, ← countFacts (facts.filter (·.time.truncate g == t))⟩

theorem readLive_eq_ok_iff {t : Timestamp} {b : Bucket} :
    readLive g facts t = .ok b ↔ b.OfFacts g facts t ∧
      (facts.filter (·.time.truncate g == t)).length < 2 ^ 63 := by
  simp only [readLive, bind_eq_ok_iff, countFacts_eq_ok_iff, Except.ok.injEq]
  constructor
  · rintro ⟨start, hstart, totals, ⟨rfl, hfew⟩, rfl⟩
    exact ⟨⟨rfl, hstart⟩, hfew⟩
  · rintro ⟨⟨htotals, hstart⟩, hfew⟩
    exact ⟨b.start, hstart, b.totals, ⟨htotals, hfew⟩, rfl⟩

/-- **When facts are counted by buckets**, and what is read for each. -/
theorem liveBuckets_eq_ok_iff :
    s.liveBuckets site range g = .ok buckets ↔
      s.facts = .table s.factList ∧ ¬ range.FailsAmong (s.siteTimes site) ∧
        (bucketsOf g (s.siteFactsWithin site range)).mapM
          (readLive g (s.siteFactsWithin site range)) = .ok buckets := by
  rw [liveBuckets, bind_eq_ok_iff]
  simp only [siteFacts_eq_ok_iff]
  constructor
  · rintro ⟨facts, ⟨hstands, accepted, rfl⟩, h⟩
    exact ⟨hstands, accepted, h⟩
  · rintro ⟨hstands, accepted, h⟩
    exact ⟨_, ⟨hstands, accepted, rfl⟩, h⟩

/-- Facts are counted by buckets if none of these holds too many. -/
theorem exists_mapM_readLive (years : ∀ f ∈ facts, f.time.FourDigit) :
    (∃ buckets, (bucketsOf g facts).mapM (readLive g facts) = .ok buckets) ↔
      ∀ b, (factsFrom g facts b).length < 2 ^ 63 := by
  constructor
  · rintro ⟨buckets, h⟩ b
    rcases List.eq_nil_or_concat (factsFrom g facts b) with hnil | ⟨_, f, hconcat⟩
    · rw [hnil]
      decide
    · have hf : f ∈ factsFrom g facts b := by simp [hconcat]
      obtain ⟨hf, hstart⟩ := mem_factsFrom.mp hf
      obtain ⟨c, -, hread⟩ := exists_of_forall₂ (forall₂_of_mapM h).flip
        (mem_bucketsOf.mpr ⟨f, hf, rfl⟩)
      have hfew := (readLive_eq_ok_iff.mp hread).2
      rwa [Bucket.filter_truncate_eq years hf hstart] at hfew
  · intro few
    have hread : ∀ t ∈ bucketsOf g facts, ∃ b, readLive g facts t = .ok b := by
      intro t ht
      obtain ⟨f, hf, rfl⟩ := mem_bucketsOf.mp ht
      obtain ⟨b, hstart⟩ : ∃ b, f.time.bucketStart? g = some b :=
        ⟨_, Timestamp.bucketStart?_of_fourDigit g (years f hf)⟩
      refine ⟨⟨b, .ofFacts (factsFrom g facts b)⟩, readLive_eq_ok_iff.mpr
        ⟨(Bucket.ofFacts_truncate_iff years hf).mpr ⟨hstart, rfl⟩, ?_⟩⟩
      rw [Bucket.filter_truncate_eq years hf hstart]
      exact few b
    obtain ⟨buckets, hbuckets, -⟩ := exists_mapM_ok hread
    exact ⟨buckets, hbuckets⟩

/-- **What is read for the buckets of facts tallies them.** -/
theorem tallied_of_mapM_readLive (years : ∀ f ∈ facts, f.time.FourDigit)
    (h : (bucketsOf g facts).mapM (readLive g facts) = .ok buckets) :
    Tallied g facts buckets := by
  have hread : List.Forall₂ (fun t b => ∃ f ∈ facts, f.time.truncate g = t ∧
      f.time.bucketStart? g = some b.start ∧ b.totals = .ofFacts (factsFrom g facts b.start))
      (bucketsOf g facts) buckets := by
    refine ((List.forall₂_and_left _ _).mpr
      ⟨fun t ht => mem_bucketsOf.mp ht, forall₂_of_mapM h⟩).imp ?_
    rintro t b ⟨⟨f, hf, rfl⟩, hb⟩
    exact ⟨f, hf, rfl, (Bucket.ofFacts_truncate_iff years hf).mp (readLive_eq_ok_iff.mp hb).1⟩
  refine ⟨?_, fun t => ?_, fun b hb => ?_⟩
  · -- the seconds of the starts are in the order of the moments
    have hseconds : buckets.map (fun b => b.start.seconds * 1000000) =
        (bucketsOf g facts).map (·.micros) := by
      refine map_eq_of_forall₂ hread fun t b => ?_
      rintro ⟨f, -, rfl, hstart, -⟩
      exact (Timestamp.micros_of_bucketStart? hstart).symm
    have hsorted : ((bucketsOf g facts).map (·.micros)).Pairwise (· < ·) :=
      List.pairwise_map.mpr (pairwise_bucketsOf g facts)
    rw [← hseconds, List.pairwise_map] at hsorted
    refine hsorted.imp fun {b c} hlt => ?_
    have hnanos := b.start.nanos_lt
    rw [Instant.lt_iff, Instant.key, Instant.key]
    omega
  · constructor
    · rintro ⟨b, hb, rfl⟩
      obtain ⟨_, -, f, hf, -, hstart, -⟩ := exists_of_forall₂ hread hb
      exact ⟨f, hf, hstart⟩
    · rintro ⟨f, hf, hstart⟩
      obtain ⟨b, hb, e, he, htime, hstart', -⟩ := exists_of_forall₂ hread.flip
        (mem_bucketsOf.mpr ⟨f, hf, rfl⟩)
      refine ⟨b, hb, Option.some.inj ?_⟩
      rw [← hstart', ← hstart, Timestamp.bucketStart?_eq_iff (years e he) (years f hf), htime]
  · obtain ⟨_, -, f, -, -, -, htotals⟩ := exists_of_forall₂ hread hb
    exact htotals

end Store

/-- **Buckets that tally facts show them.** -/
theorem Tallied.showsFacts {g : Granularity} {facts : List Fact} {buckets : List Bucket}
    (h : Tallied g facts buckets) : ShowsFacts g facts (buckets.map Bucket.point) := by
  have htotals : ∀ b ∈ buckets, b.totals = ⟨(factsFrom g facts b.start).length,
      (visitorSet (factsFrom g facts b.start)).card,
      (singleVisitors (factsFrom g facts b.start)).card⟩ := by
    intro b hb
    rw [h.totals b hb, Totals.ofFacts_eq]
  refine ⟨List.pairwise_map.mpr h.increasing, fun t => ?_, ?_, ?_, ?_⟩
  · rw [← h.start_iff]
    constructor
    · rintro ⟨p, hp, rfl⟩
      obtain ⟨b, hb, rfl⟩ := List.mem_map.mp hp
      exact ⟨b, hb, rfl⟩
    · rintro ⟨b, hb, rfl⟩
      exact ⟨b.point, List.mem_map_of_mem hb, rfl⟩
  · intro p hp
    obtain ⟨b, hb, rfl⟩ := List.mem_map.mp hp
    rw [Bucket.point, htotals b hb]
  · intro p hp
    obtain ⟨b, hb, rfl⟩ := List.mem_map.mp hp
    rw [Bucket.point, htotals b hb]
  · intro p hp
    obtain ⟨b, hb, rfl⟩ := List.mem_map.mp hp
    obtain ⟨f, hf, hstart⟩ := (h.start_iff b.start).mp ⟨b, hb, rfl⟩
    -- a bucket that occurs has a visitor
    have hvisitor : (visitorSet (factsFrom g facts b.start)).card ≠ 0 := by
      refine Finset.card_ne_zero_of_mem (a := f.visitor) ?_
      rw [visitorSet, List.mem_toFinset]
      exact List.mem_map_of_mem (mem_factsFrom.mpr ⟨hf, hstart⟩)
    rw [Bucket.point, htotals b hb, Footfall.bounceRate, if_neg hvisitor]

/-! ## Hours and months -/

namespace Store

variable {s s' : Store} {site : String} {g : Granularity} {buckets : List Bucket}
  {start stop now : Instant}

theorem checkBuckets_eq_ok_iff :
    checkBuckets g start stop = .ok () ↔ g.bucketCount start stop ≤ Granularity.maxBuckets := by
  simp only [checkBuckets]
  split
  · next h => simp only [reduceCtorEq, false_iff, not_le, h]
  · next h => simp only [not_lt.mp h]

/-- Hours and months are counted from facts, on any clock. -/
theorem buckets_live_eq_ok_iff (live : g ≠ .day) :
    s.buckets site start stop g now = .ok buckets ↔
      start ≤ stop ∧ g.bucketCount start stop ≤ Granularity.maxBuckets ∧
        s.liveBuckets site ⟨start, stop⟩ g = .ok buckets := by
  rw [← checkRange_eq_ok_iff, ← checkBuckets_eq_ok_iff]
  cases g with
  | day => exact absurd rfl live
  | hour | month =>
      simp only [Store.buckets, bind_eq_ok_iff, mapError_eq_ok_iff, Unique.exists_iff]

/-- On a store with facts, a range that can be told is answered with what is read for each of
its buckets. -/
theorem buckets_eq_ok_iff_of_storable (stands : s.facts = .table s.factList) (site : String)
    (order : start ≤ stop) (hstart : start.Storable) (hstop : stop.Storable) (live : g ≠ .day)
    (fits : g.bucketCount start stop ≤ Granularity.maxBuckets) (now : Instant)
    (buckets : List Bucket) :
    s.buckets site start stop g now = .ok buckets ↔
      (bucketsOf g (s.siteFactsWithin site ⟨start, stop⟩)).mapM
        (readLive g (s.siteFactsWithin site ⟨start, stop⟩)) = .ok buckets := by
  rw [buckets_live_eq_ok_iff live, liveBuckets_eq_ok_iff]
  have accepted : ¬ Span.FailsAmong ⟨start, stop⟩ (s.siteTimes site) :=
    Span.Storable.not_failsAmong ⟨hstart, hstop⟩
  exact ⟨fun h => h.2.2.2.2, fun h => ⟨order, fits, stands, accepted, h⟩⟩

/-- Facts in a range of the years 0 to 9999 bear such years, whatever other facts bear. -/
theorem fourDigit_of_siteFactsWithin (s : Store) (site : String) (order : start ≤ stop)
    (hstart : start.Storable) (year_nonneg : 0 ≤ start.day.civil.year) (hstop : stop.Storable) :
    ∀ f ∈ s.siteFactsWithin site ⟨start, stop⟩, f.time.FourDigit := by
  intro f hf
  have hwithin := (List.mem_filter.mp hf).2
  rw [Bool.and_eq_true] at hwithin
  have hday : start.day ≤ stop.day := by
    rw [← Instant.midnight_le_iff]
    exact Int.le_trans (Instant.midnight_day_le start) order
  exact Timestamp.fourDigit_of_within (Instant.fourDigit_toTimestamp hstart year_nonneg)
    (Instant.fourDigit_toTimestamp hstop (year_nonneg.trans (Day.year_mono hday))) hwithin.2

/-- Nothing but facts is read for hours and months. -/
theorem series_live_congr (h : s'.facts = s.facts) (live : g ≠ .day) (site : String)
    (start stop now now' : Instant) :
    s'.series site start stop g now' = s.series site start stop g now := by
  have hfacts : s'.liveBuckets site ⟨start, stop⟩ g = s.liveBuckets site ⟨start, stop⟩ g := by
    simp only [liveBuckets, siteFacts, factRows, h]
  cases g with
  | day => exact absurd rfl live
  | hour | month => simp only [series, Store.buckets, hfacts]

/-- **A series of hours or months shows the facts of the site in the range.** It is
answered unless a bucket holds more facts than can be counted, and depends on nothing but
the facts: neither on the clock nor on the tables that a compaction writes. -/
theorem live_series_shows_facts (s : Store) (stands : s.facts = .table s.factList) (site : String)
    (start stop : Instant) (order : start ≤ stop) (hstart : start.Storable)
    (year_nonneg : 0 ≤ start.day.civil.year) (hstop : stop.Storable) (g : Granularity)
    (live : g ≠ .day) (fits : g.bucketCount start stop ≤ Granularity.maxBuckets)
    (now : Instant) :
    ((∃ points, s.series site start stop g now = .ok points) ↔
      ∀ b, (factsFrom g (s.siteFactsWithin site ⟨start, stop⟩) b).length < 2 ^ 63) ∧
    (∀ points, s.series site start stop g now = .ok points →
      ShowsFacts g (s.siteFactsWithin site ⟨start, stop⟩) points) ∧
    (∀ (s' : Store) (now' : Instant), s'.facts = s.facts →
      s'.series site start stop g now' = s.series site start stop g now) ∧
    ∀ d clock, ((Action.compact d clock).run s).series site start stop g now =
      s.series site start stop g now := by
  have years := fourDigit_of_siteFactsWithin s site order hstart year_nonneg hstop
  have hbuckets := buckets_eq_ok_iff_of_storable stands site order hstart hstop live fits now
  refine ⟨?_, fun points h => ?_,
    fun s' now' h => series_live_congr h live site start stop now now', fun d clock => ?_⟩
  · rw [← exists_mapM_readLive years]
    simp only [series_eq_ok_iff, hbuckets]
    exact ⟨fun ⟨_, buckets, h, _⟩ => ⟨buckets, h⟩, fun ⟨buckets, h⟩ => ⟨_, buckets, h, rfl⟩⟩
  · obtain ⟨buckets, hread, rfl⟩ := series_eq_ok_iff.mp h
    exact (tallied_of_mapM_readLive years ((hbuckets buckets).mp hread)).showsFacts
  · rw [run_compact_eq]
    exact series_live_congr (facts_compaction s d clock) live site start stop now now

/-- Two views of one visitor, three days apart, are one visitor of the month. -/
theorem month_of_viewsOfTwoDays :
    ∃ points, (migrated.runAll viewsOfTwoDays).series "blog" (.midnight (sampleDay 0))
        (.endOfDay (sampleDay 3)) .month (.midnight (sampleDay 0)) = .ok points ∧
      ShowsFacts .month ((migrated.runAll viewsOfTwoDays).siteFactsWithin "blog"
        ⟨.midnight (sampleDay 0), .endOfDay (sampleDay 3)⟩) points ∧
      points.map (fun p => (p.time, p.pageviews, p.visitors)) =
        [(.midnight (sampleDay 0).monthStart, 2, 1)] := by
  have hbuckets : ((migrated.runAll viewsOfTwoDays).buckets "blog" (.midnight (sampleDay 0))
      (.endOfDay (sampleDay 3)) .month (.midnight (sampleDay 0))).toOption =
        some [⟨.midnight (sampleDay 0).monthStart, ⟨2, 1, 0⟩⟩] := by
    decide +kernel
  have hseries := series_eq_ok_iff.mpr ⟨_, eq_ok_of_toOption hbuckets, rfl⟩
  obtain ⟨-, hshows, -⟩ := live_series_shows_facts (migrated.runAll viewsOfTwoDays) (by rfl) "blog"
    (.midnight (sampleDay 0)) (.endOfDay (sampleDay 3)) (by decide) (by decide) (by decide)
    (by decide) .month (by decide) (by decide) (.midnight (sampleDay 0))
  exact ⟨_, hseries, hshows _ hseries, rfl⟩

end Store

end Footfall
