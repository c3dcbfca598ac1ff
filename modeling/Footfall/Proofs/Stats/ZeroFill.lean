import Mathlib
import Footfall.Proofs.Stats.SumOfDays
import Footfall.Proofs.Stats.Walk

/-!
# Zero-filled series

A series shows the buckets that hold anything.  Filling its gaps puts a point on every
boundary of the range: that of the bucket which starts there, or the zero point.  So it
is a rearrangement of the buckets and some empty ones, provided that no two buckets
share a start and that every start is a boundary.  Days of a series have both if the
rows of the rollup are keyed at midnights.

## Main Definitions

* `bucketAt` — the bucket that a filled series shows at a boundary
* `FillsWithNothing` — some buckets together with empty ones
* `Store.SummedByDays` — a summary agrees with the day series of its range

## Main Statements

* `fillsWithNothing_bucketAt` — filling gaps adds nothing but empty buckets
* `Store.starts_of_days` — the starts of a day series
* `Store.summary_summed_by_days` — a summary, its days and their filled series agree
-/

namespace Footfall

/-! ## The day after -/

/-- Only the last day has no day after it. -/
theorem Day.eq_last_of_next? {d : Day} (h : d.next? = none) : d = .last := by
  by_contra hne
  have hnumber : d.number ≠ 95026236 := fun heq => hne (Day.eq_of_number heq)
  have hfirst := d.first_le
  have hlast := d.le_last
  rw [next?, add?, ofNumber?, dif_pos (by omega)] at h
  cases h

/-- An instant before the midnight after a day, if there is one, lies on no later day. -/
theorem Instant.day_le_of_lt_next {t : Instant} {d : Day}
    (h : ∀ next, d.next? = some next → t < .midnight next) : t.day ≤ d := by
  cases hnext : d.next? with
  | none =>
      rw [Day.eq_last_of_next? hnext]
      exact t.day.le_last
  | some next =>
      have hlt := lt_midnight_iff.mp (h next hnext)
      rw [Day.lt_iff, Day.number_of_next? hnext] at hlt
      rw [Day.le_iff]
      omega

/-! ## Filled series -/

section Fill

variable {buckets filled : List Bucket} {boundaries : List Instant} {b : Bucket} {t : Instant}

/-- The last of the buckets that start at an instant, or an empty one. -/
def bucketAt (buckets : List Bucket) (t : Instant) : Bucket :=
  (buckets.reverse.find? (·.start == t)).getD ⟨t, {}⟩

/-- **Some buckets together with empty ones**, in any order. -/
def FillsWithNothing (buckets filled : List Bucket) : Prop :=
  ∃ gaps : List Bucket, (∀ b ∈ gaps, b.totals = {}) ∧ filled.Perm (buckets ++ gaps)

/-- What a filled series shows at a boundary. -/
theorem pointAt_map_point (buckets : List Bucket) (t : Instant) :
    pointAt (buckets.map Bucket.point) t = (bucketAt buckets t).point := by
  have hfind : (buckets.map Bucket.point).reverse.find? (·.time == t) =
      (buckets.reverse.find? (·.start == t)).map Bucket.point := by
    rw [← List.map_reverse, List.find?_map]
    rfl
  rw [pointAt, hfind, bucketAt]
  cases buckets.reverse.find? (·.start == t) with
  | none => rfl
  | some b => rfl

/-- What is shown at an instant starts there. -/
theorem start_bucketAt (buckets : List Bucket) (t : Instant) : (bucketAt buckets t).start = t := by
  unfold bucketAt
  cases hfind : buckets.reverse.find? (·.start == t) with
  | none => rfl
  | some b => exact beq_iff_eq.mp (List.find?_some (p := fun b : Bucket => b.start == t) hfind)

/-- Where no two buckets share a start, a filled series shows each of them. -/
theorem bucketAt_start (starts : (buckets.map (·.start)).Nodup) (hb : b ∈ buckets) :
    bucketAt buckets b.start = b := by
  have hsome : (buckets.reverse.find? (·.start == b.start)).isSome := by
    rw [List.find?_isSome]
    exact ⟨b, List.mem_reverse.mpr hb, beq_self_eq_true _⟩
  obtain ⟨c, hc⟩ := Option.isSome_iff_exists.mp hsome
  have hmem := List.mem_reverse.mp (List.mem_of_find?_eq_some hc)
  have hstart : c.start = b.start := by
    have hfound := List.find?_some hc
    simpa using hfound
  rw [bucketAt, hc, Option.getD_some]
  exact List.inj_on_of_nodup_map starts hmem hb hstart

theorem bucketAt_of_notMem (h : t ∉ buckets.map (·.start)) : bucketAt buckets t = ⟨t, {}⟩ := by
  have hnone : buckets.reverse.find? (·.start == t) = none := by
    rw [List.find?_eq_none]
    intro b hb heq
    exact h (List.mem_map.mpr ⟨b, List.mem_reverse.mp hb, beq_iff_eq.mp heq⟩)
  rw [bucketAt, hnone, Option.getD_none]

/-- The buckets are what is shown at their starts. -/
theorem map_bucketAt_starts (starts : (buckets.map (·.start)).Nodup) :
    (buckets.map (·.start)).map (bucketAt buckets) = buckets := by
  rw [List.map_map]
  exact (List.map_congr_left fun b hb => bucketAt_start starts hb).trans (List.map_id buckets)

/-- **Filling gaps adds nothing but empty buckets**, if every bucket has a start of its
own and starts at a boundary. -/
theorem fillsWithNothing_bucketAt (once : boundaries.Nodup)
    (starts : (buckets.map (·.start)).Nodup) (mem : ∀ b ∈ buckets, b.start ∈ boundaries) :
    FillsWithNothing buckets (boundaries.map (bucketAt buckets)) := by
  -- the boundaries are the starts of the buckets and the rest
  have hstarts : (boundaries.filter (· ∈ buckets.map (·.start))).Perm (buckets.map (·.start)) := by
    refine (List.perm_ext_iff_of_nodup (once.filter _) starts).mpr fun t => ?_
    rw [List.mem_filter, decide_eq_true_eq]
    refine ⟨And.right, fun ht => ⟨?_, ht⟩⟩
    obtain ⟨b, hb, rfl⟩ := List.mem_map.mp ht
    exact mem b hb
  have hrest := List.filter_append_perm (· ∈ buckets.map (·.start)) boundaries
  refine ⟨(boundaries.filter fun t => !decide (t ∈ buckets.map (·.start))).map (bucketAt buckets),
    fun b hb => ?_, ?_⟩
  · obtain ⟨t, ht, rfl⟩ := List.mem_map.mp hb
    rw [List.mem_filter, Bool.not_eq_true', decide_eq_false_iff_not] at ht
    rw [bucketAt_of_notMem ht.2]
  · have hperm := (hrest.symm.trans (hstarts.append_right _)).map (bucketAt buckets)
    rwa [List.map_append, map_bucketAt_starts starts] at hperm

/-- A filled series shows a bucket on every boundary of its range. -/
theorem densify_eq_map_bucketAt (g : Granularity) (buckets : List Bucket) (start stop : Instant) :
    g.densify (buckets.map Bucket.point) start stop =
      ((g.boundaries start stop).map (bucketAt buckets)).map Bucket.point := by
  rw [Granularity.densify, densify, List.map_map]
  exact List.map_congr_left fun t _ => pointAt_map_point buckets t

theorem fillsWithNothing_boundaries {g : Granularity} {start stop : Instant}
    (starts : (buckets.map (·.start)).Nodup)
    (mem : ∀ b ∈ buckets, b.start ∈ g.boundaries start stop) :
    FillsWithNothing buckets ((g.boundaries start stop).map (bucketAt buckets)) :=
  fillsWithNothing_bucketAt (nodup_walk _ _ _) starts mem

/-- What is zero of nothing sums up to the same. -/
theorem FillsWithNothing.sum_eq (h : FillsWithNothing buckets filled) (measure : Totals → ℕ)
    (zero : measure {} = 0) :
    (filled.map fun b => measure b.totals).sum = (buckets.map fun b => measure b.totals).sum := by
  obtain ⟨gaps, hgaps, hperm⟩ := h
  have hzero : (gaps.map fun b => measure b.totals).sum = 0 := by
    refine List.sum_eq_zero fun n hn => ?_
    obtain ⟨b, hb, rfl⟩ := List.mem_map.mp hn
    rw [hgaps b hb, zero]
  rw [(hperm.map _).sum_eq, List.map_append, List.sum_append, hzero, Nat.add_zero]

end Fill

/-! ## The starts of a day series -/

section Starts

variable {α : Type} {as : List α} {buckets : List Bucket} {name : Day → α}

/-- Buckets of days with different names have different starts. -/
theorem nodup_starts
    (h : List.Forall₂ (fun a (b : Bucket) => ∃ d, a = name d ∧ b.start = .midnight d) as buckets)
    (nodup : as.Nodup) : (buckets.map (·.start)).Nodup := by
  induction h with
  | nil => exact .nil
  | cons hab hrest ih =>
      obtain ⟨d, rfl, hd⟩ := hab
      obtain ⟨hnew, nodup⟩ := List.nodup_cons.mp nodup
      rw [List.map_cons, List.nodup_cons]
      refine ⟨fun hmem => hnew ?_, ih nodup⟩
      obtain ⟨c, hc, hstart⟩ := List.mem_map.mp hmem
      obtain ⟨_, ha, e, rfl, he⟩ := exists_of_forall₂ hrest hc
      have heq : e = d := by
        rw [← Instant.day_midnight e, ← he, hstart, hd, Instant.day_midnight]
      exact heq ▸ ha

end Starts

namespace Store

variable {s : Store} {site : String} {start stop now : Instant} {parts : Split}
  {buckets historic live : List Bucket}

/-- Every row of the daily rollup is keyed at the midnight of its day, in whatever year. -/
def RowsAtMidnights (s : Store) : Prop :=
  ∀ r ∈ s.dailyTable.rows, r.1.bucket.truncate .day = r.1.bucket

instance (s : Store) : Decidable s.RowsAtMidnights :=
  inferInstanceAs (Decidable (∀ r ∈ _, _))

theorem RowsAtMidnights.eq_midnight (h : s.RowsAtMidnights) {part : Option Span}
    {r : RollupKey × Measures} (hr : r ∈ s.historicRows site part) {d : Day}
    (hd : r.1.bucket.OnDay d) : r.1.bucket = .midnight d := by
  cases part with
  | none => cases hr
  | some range =>
      rw [← h r (List.mem_of_mem_filter hr)]
      exact Timestamp.truncate_day_eq_midnight_iff.mpr hd

/-- The historic buckets start at midnights of the range before today. -/
theorem starts_of_texts (keyed : s.RowsAtMidnights) (hparts : split? start stop now = some parts)
    (hday : s.dayBuckets site parts = .ok buckets)
    (h : List.Forall₂ (Bucket.OfText (s.historicRows site parts.historic))
      (bucketTexts (s.historicRows site parts.historic)) historic) :
    List.Forall₂ (fun text (b : Bucket) => ∃ d : Day, text = (Timestamp.midnight d).bucketText ∧
      b.start = .midnight d ∧ start.day ≤ d ∧ d < now.day ∧ d ≤ stop.day)
      (bucketTexts (s.historicRows site parts.historic)) historic := by
  have hmem : ∀ text ∈ bucketTexts (s.historicRows site parts.historic),
      ∃ d : Day, text = (Timestamp.midnight d).bucketText ∧ d.Storable ∧ start.day ≤ d ∧
        d < now.day ∧ d ≤ stop.day := by
    intro text htext
    obtain ⟨r, hr, rfl⟩ := mem_bucketTexts.mp htext
    obtain ⟨d, hd, hstorable, hrange⟩ := exists_day_of_historicRows hparts hday hr
    exact ⟨d, by rw [keyed.eq_midnight hr hd], hstorable, hrange⟩
  refine ((List.forall₂_and_left _ _).mpr ⟨hmem, h⟩).imp ?_
  rintro text b ⟨⟨d, rfl, hstorable, hrange⟩, hb⟩
  refine ⟨d, rfl, Option.some.inj ?_, hrange⟩
  rw [← hb.start, Timestamp.ofStoredText?_midnight_of_storable hstorable]

/-- The live buckets start at midnights of the range from today on. -/
theorem starts_of_facts (hparts : split? start stop now = some parts)
    (hday : s.dayBuckets site parts = .ok buckets)
    (h : List.Forall₂ (Bucket.OfFacts .day (s.liveFacts site parts.live))
      (bucketsOf .day (s.liveFacts site parts.live)) live) :
    List.Forall₂ (fun t (b : Bucket) => ∃ d : Day, t = Timestamp.midnight d ∧
      b.start = .midnight d ∧ start.day ≤ d ∧ now.day ≤ d ∧ d ≤ stop.day)
      (bucketsOf .day (s.liveFacts site parts.live)) live := by
  have hmem : ∀ t ∈ bucketsOf .day (s.liveFacts site parts.live),
      ∃ d : Day, t = Timestamp.midnight d ∧ d.Storable ∧ start.day ≤ d ∧ now.day ≤ d ∧
        d ≤ stop.day := by
    intro t ht
    obtain ⟨f, hf, rfl⟩ := mem_bucketsOf.mp ht
    obtain ⟨d, hd, hstorable, hrange⟩ := exists_day_of_liveFacts hparts hday hf
    exact ⟨d, Timestamp.truncate_day_eq_midnight_iff.mpr hd, hstorable, hrange⟩
  refine ((List.forall₂_and_left _ _).mpr ⟨hmem, h⟩).imp ?_
  rintro t b ⟨⟨d, rfl, hstorable, hrange⟩, hb⟩
  refine ⟨d, rfl, Except.ok.inj (ε := StoreFault) ?_, hrange⟩
  rw [← hb.start, Timestamp.readBucket_midnight_of_storable hstorable]

/-- **The buckets of a day series start at midnights of the range**, each at its own. -/
theorem starts_of_days (keyed : s.RowsAtMidnights)
    (h : s.buckets site start stop .day now = .ok buckets) :
    (buckets.map (·.start)).Nodup ∧
      ∀ b ∈ buckets, ∃ d, start.day ≤ d ∧ d ≤ stop.day ∧ b.start = .midnight d := by
  obtain ⟨-, -, parts, hparts, hday⟩ := buckets_day_eq_ok_iff.mp h
  obtain ⟨historic, live, rfl, htexts, hfacts⟩ := dayBuckets_of_ok hday
  have hpast := starts_of_texts keyed hparts hday htexts
  have hfuture := starts_of_facts hparts hday hfacts
  constructor
  · rw [List.map_append, List.nodup_append]
    refine ⟨nodup_starts (hpast.imp fun _ _ ⟨d, hd, hstart, _⟩ => ⟨d, hd, hstart⟩)
      nodup_bucketTexts, nodup_starts (hfuture.imp fun _ _ ⟨d, hd, hstart, _⟩ => ⟨d, hd, hstart⟩)
      (nodup_bucketsOf _ _), ?_⟩
    -- no day is both before today and not
    intro t ht u hu heq
    obtain ⟨b, hb, rfl⟩ := List.mem_map.mp ht
    obtain ⟨c, hc, rfl⟩ := List.mem_map.mp hu
    obtain ⟨_, _, d, _, hd, _, hlt, _⟩ := exists_of_forall₂ hpast hb
    obtain ⟨_, _, e, _, he, _, hle, _⟩ := exists_of_forall₂ hfuture hc
    have hsame : d = e := by
      rw [← Instant.day_midnight d, ← hd, heq, he, Instant.day_midnight]
    rw [hsame] at hlt
    exact Day.not_lt.mpr hle hlt
  · intro b hb
    rcases List.mem_append.mp hb with hb | hb
    · obtain ⟨_, _, d, _, hd, hfrom, _, hto⟩ := exists_of_forall₂ hpast hb
      exact ⟨d, hfrom, hto, hd⟩
    · obtain ⟨_, _, d, _, hd, hfrom, _, hto⟩ := exists_of_forall₂ hfuture hb
      exact ⟨d, hfrom, hto, hd⟩

/-- **Filling the gaps of a day series adds nothing but empty days.** -/
theorem densify_days (keyed : s.RowsAtMidnights)
    (h : s.buckets site start stop .day now = .ok buckets) :
    ∃ filled, Granularity.day.densify (buckets.map Bucket.point) start stop =
      filled.map Bucket.point ∧ FillsWithNothing buckets filled := by
  obtain ⟨hnodup, hstarts⟩ := starts_of_days keyed h
  refine ⟨_, densify_eq_map_bucketAt .day buckets start stop,
    fillsWithNothing_boundaries hnodup fun b hb => ?_⟩
  obtain ⟨d, hfrom, hto, hd⟩ := hstarts b hb
  rw [hd]
  exact Granularity.mem_boundaries.mpr ⟨d.number, hfrom, hto, rfl, rfl⟩

/-! ## A summary, its days and their filled series -/

/-- **A summary agrees with the day series of its range**, of which the buckets are
shown as points. -/
structure SummedByDays (s : Store) (start stop now : Instant) (sum : Summary)
    (points : List Point) (buckets : List Bucket) : Prop where
  /-- The points show the buckets. -/
  shown : points = buckets.map Bucket.point
  /-- The pageviews of the points add up to those of the summary. -/
  pageviews : sum.pageviews = (points.map (·.pageviews)).sum
  /-- The summary has no more visitors than the points. -/
  visitors_le : sum.visitors ≤ (points.map (·.visitors)).sum
  /-- It has as many if the range ends before the next midnight, and its rate is then that of
  the bounces of the buckets, or zero without visitors. -/
  up_to_today : (∀ next, now.day.next? = some next → stop < .midnight next) →
    sum.visitors = (points.map (·.visitors)).sum ∧
      sum.bounceRate = if (points.map (·.visitors)).sum = 0 then 0.0
        else toFloat (buckets.map (·.totals.bounces)).sum /
          toFloat (points.map (·.visitors)).sum
  /-- Filling the gaps of the series changes none of the sums, if rows are keyed at midnights. -/
  filled : s.RowsAtMidnights → ∃ filled,
    Granularity.day.densify points start stop = filled.map Bucket.point ∧
      FillsWithNothing buckets filled ∧
      ((Granularity.day.densify points start stop).map (·.pageviews)).sum =
        (points.map (·.pageviews)).sum ∧
      ((Granularity.day.densify points start stop).map (·.visitors)).sum =
        (points.map (·.visitors)).sum ∧
      (filled.map (·.totals.bounces)).sum = (buckets.map (·.totals.bounces)).sum

/-- **Whenever a summary and a day series of one range are answered, they agree.** -/
theorem summary_summed_by_days (s : Store) (site : String) (start stop now : Instant)
    (sum : Summary) (points : List Point) (hsum : s.summary site start stop now = .ok sum)
    (hseries : s.series site start stop .day now = .ok points) :
    ∃ buckets, s.buckets site start stop .day now = .ok buckets ∧
      s.SummedByDays start stop now sum points buckets := by
  obtain ⟨t, ht, rfl⟩ := summary_eq_ok_iff.mp hsum
  obtain ⟨buckets, hbuckets, rfl⟩ := series_eq_ok_iff.mp hseries
  refine ⟨buckets, hbuckets, ?_⟩
  obtain ⟨hpageviews, hvisitors⟩ := totals_le_sum_of_days hbuckets ht
  rw [Totals.pageviews_sum, List.map_map] at hpageviews
  rw [Totals.visitors_sum, List.map_map] at hvisitors
  refine ⟨rfl, ?_, ?_, ?_, ?_⟩
  · rw [List.map_map]
    exact hpageviews
  · rw [List.map_map]
    exact hvisitors
  · intro htoday
    have heq := totals_eq_sum_of_days hbuckets ht (Instant.day_le_of_lt_next htoday)
    have hvisitors : t.visitors = (buckets.map (·.totals.visitors)).sum := by
      rw [heq, Totals.visitors_sum, List.map_map]
      rfl
    have hbounces : t.bounces = (buckets.map (·.totals.bounces)).sum := by
      rw [heq, Totals.bounces_sum, List.map_map]
      rfl
    rw [List.map_map]
    refine ⟨hvisitors, ?_⟩
    dsimp only
    rw [bounceRate, hbounces, hvisitors]
    rfl
  · intro keyed
    obtain ⟨filled, hfilled, hnothing⟩ := densify_days keyed hbuckets
    refine ⟨filled, hfilled, hnothing, ?_, ?_, hnothing.sum_eq (·.bounces) rfl⟩
    · rw [hfilled, List.map_map, List.map_map]
      exact hnothing.sum_eq (·.pageviews) rfl
    · rw [hfilled, List.map_map, List.map_map]
      exact hnothing.sum_eq (·.visitors) rfl

/-- A day of the rollup and a view of today, two days without a view between them. -/
theorem summed_by_days_of_viewsOfTwoDays :
    ∃ sum points buckets,
      (migrated.runAll viewsOfTwoDays).summary "blog" (.endOfDay (sampleDay 0))
        (.endOfDay (sampleDay 3)) (.endOfDay (sampleDay 3)) = .ok sum ∧
      (migrated.runAll viewsOfTwoDays).series "blog" (.endOfDay (sampleDay 0))
        (.endOfDay (sampleDay 3)) .day (.endOfDay (sampleDay 3)) = .ok points ∧
      (migrated.runAll viewsOfTwoDays).SummedByDays (.endOfDay (sampleDay 0))
        (.endOfDay (sampleDay 3)) (.endOfDay (sampleDay 3)) sum points buckets ∧
      (migrated.runAll viewsOfTwoDays).RowsAtMidnights ∧
      Instant.endOfDay (sampleDay 3) < .midnight (sampleDay 4) ∧ sum.visitors = 2 := by
  have htotals : (migrated.runAll viewsOfTwoDays).totals "blog" (.endOfDay (sampleDay 0))
      (.endOfDay (sampleDay 3)) (.endOfDay (sampleDay 3)) = .ok ⟨2, 2, 2⟩ := rfl
  have hbuckets : ((migrated.runAll viewsOfTwoDays).buckets "blog" (.endOfDay (sampleDay 0))
      (.endOfDay (sampleDay 3)) .day (.endOfDay (sampleDay 3))).toOption =
        some [⟨.midnight (sampleDay 0), ⟨1, 1, 1⟩⟩, ⟨.midnight (sampleDay 3), ⟨1, 1, 1⟩⟩] := by
    decide +kernel
  have hsum := summary_eq_ok_iff.mpr ⟨_, htotals, rfl⟩
  have hseries := series_eq_ok_iff.mpr ⟨_, eq_ok_of_toOption hbuckets, rfl⟩
  obtain ⟨buckets, -, h⟩ := summary_summed_by_days _ "blog" _ _ _ _ _ hsum hseries
  exact ⟨_, _, buckets, hsum, hseries, h, by decide +kernel, by decide, rfl⟩

end Store

end Footfall
