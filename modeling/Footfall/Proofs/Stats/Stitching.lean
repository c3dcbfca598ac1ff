import Mathlib
import Footfall.Proofs.Stats.CrossCheck
import Footfall.Proofs.Stats.DaySeries

/-!
# The day series across midnight

A range is cut at the midnight of today.  Neither of the two sources of a day
series reaches across it, so the concatenation of what they serve is the series
of the range: a day is served once, and by one source.

## Main Definitions

* `Store.Stitched` — what a day series across midnight consists of

## Main Statements

* `Store.dayBuckets_serve` — both sources together serve the days of the range
* `Store.exists_day_series` — when a series is answered
* `Store.day_series_stitched` — what it then consists of
-/

namespace Footfall

namespace Store

/-! ## Both sides of midnight -/

/-- The part of a range from the midnight of today on. -/
def liveSpan (start stop now : Instant) : Span :=
  ⟨start.max (.midnight now.day), stop⟩

theorem day_liveSpan_le_iff {start stop now : Instant} {d : Day} :
    (liveSpan start stop now).start.day ≤ d ↔ start.day ≤ d ∧ now.day ≤ d := by
  simp only [liveSpan, Instant.max]
  split
  · next h =>
    rw [Instant.day_midnight]
    have hle : start.day ≤ now.day := by
      have hday := Instant.midnight_day_le start
      rw [Instant.le_iff] at h hday
      rw [← Instant.day_midnight now.day, ← Instant.midnight_le_iff, Instant.le_iff]
      omega
    simp only [Day.le_iff] at hle ⊢
    omega
  · next h =>
    have hle : now.day ≤ start.day := by
      rw [← Instant.midnight_le_iff]
      rw [Instant.le_iff] at h ⊢
      omega
    simp only [Day.le_iff] at hle ⊢
    omega

section Midnight

variable {s : Store} {site : String} {start stop now : Instant}

/-- Whether a day series has anything for a day of its range. -/
def HasDay (s : Store) (site : String) (start stop now : Instant) (d : Day) : Prop :=
  start.day ≤ d ∧ d ≤ stop.day ∧
    if d < now.day then s.siteRowsAt site d ≠ []
    else s.siteFactsIn site (liveSpan start stop now) d ≠ []

/-- What a day series reads for a day. -/
def dayTotals (s : Store) (site : String) (start stop now : Instant) (d : Day) :
    Except StoreFault Totals :=
  if d < now.day then sumRows (s.siteRowsAt site d)
  else countFacts (s.siteFactsIn site (liveSpan start stop now) d)

theorem dayBuckets_eq_ok_iff {parts : Split} {buckets : List Bucket} :
    s.dayBuckets site parts = .ok buckets ↔
      ∃ historic live, parts.historic.elim (.ok []) (s.historicBuckets site) = .ok historic ∧
        parts.live.elim (.ok []) (s.liveBuckets site · .day) = .ok live ∧
        buckets = historic ++ live := by
  obtain ⟨historic, live⟩ := parts
  cases historic <;> cases live <;>
    simp only [dayBuckets, bind_eq_ok_iff, Option.elim_some, Option.elim_none, Except.ok.injEq]
  all_goals exact ⟨fun ⟨h, hh, l, hl, heq⟩ => ⟨h, l, hh, hl, heq.symm⟩,
    fun ⟨h, l, hh, hl, heq⟩ => ⟨h, hh, l, hl, heq.symm⟩⟩

/-- The rollup serves the days before today, if the range begins before today. -/
theorem historicPart_serve (keyed : s.KeyedAtMidnights) {yesterday : Day}
    (hyesterday : yesterday.number + 1 = now.day.number) {historic : List Bucket}
    (h : (if start < .midnight now.day then
      some (⟨start, stop.min (.endOfDay yesterday)⟩ : Span) else none).elim (.ok [])
        (s.historicBuckets site) = .ok historic) :
    ServesDays
      (fun d => start.day ≤ d ∧ d ≤ stop.day ∧ d < now.day ∧ s.siteRowsAt site d ≠ [])
      (s.dayTotals site start stop now) historic := by
  by_cases hstart : start < .midnight now.day
  · rw [if_pos hstart, Option.elim_some] at h
    refine (historicBuckets_serve keyed h).congr (fun d => ?_) fun d hd => ?_
    · have hday : d ≤ yesterday ↔ d < now.day := by
        rw [Day.le_iff, Day.lt_iff]
        omega
      simp only [HasRows, Instant.le_day_min_endOfDay_iff, hday, and_assoc]
    · rw [dayTotals, if_pos hd.2.2.1]
  · rw [if_neg hstart, Option.elim_none] at h
    obtain rfl := Except.ok.inj h
    refine .nil fun d hd => hstart ?_
    rw [Instant.lt_midnight_iff]
    exact lt_of_le_of_lt (show start.day.number ≤ d.number from hd.1) hd.2.2.1

/-- The facts serve today and all later days, if the range reaches today. -/
theorem livePart_serve (years : ∀ f ∈ s.factList, f.time.FourDigit) {live : List Bucket}
    (h : (if .midnight now.day ≤ stop then some (⟨start.max (.midnight now.day), stop⟩ : Span)
      else none).elim (.ok []) (s.liveBuckets site · .day) = .ok live) :
    ServesDays
      (fun d => start.day ≤ d ∧ d ≤ stop.day ∧ now.day ≤ d ∧
        s.siteFactsIn site (liveSpan start stop now) d ≠ [])
      (s.dayTotals site start stop now) live := by
  by_cases hstop : .midnight now.day ≤ stop
  · rw [if_pos hstop, Option.elim_some] at h
    refine (liveBuckets_serve years h).congr (fun d => ?_) fun d hd => ?_
    · rw [HasFacts, show (⟨start.max (.midnight now.day), stop⟩ : Span) =
        liveSpan start stop now from rfl, day_liveSpan_le_iff]
      exact ⟨fun h => ⟨h.1.1, h.2.1, h.1.2, h.2.2⟩, fun h => ⟨⟨h.1, h.2.2.1⟩, h.2.1, h.2.2.2⟩⟩
    · rw [dayTotals, if_neg (Day.not_lt.mpr hd.2.2.1)]
      rfl
  · rw [if_neg hstop, Option.elim_none] at h
    obtain rfl := Except.ok.inj h
    refine .nil fun d hd => hstop ?_
    rw [Instant.midnight_le_iff]
    exact le_trans (show now.day.number ≤ d.number from hd.2.2.1) hd.2.1

/-- **The two parts of a range together serve its days.** -/
theorem dayBuckets_serve (keyed : s.KeyedAtMidnights)
    (years : ∀ f ∈ s.factList, f.time.FourDigit) {parts : Split}
    (hparts : split? start stop now = some parts) {buckets : List Bucket}
    (h : s.dayBuckets site parts = .ok buckets) :
    ServesDays (s.HasDay site start stop now) (s.dayTotals site start stop now) buckets := by
  obtain ⟨yesterday, hyesterday⟩ := exists_pred_of_split? hparts
  rw [split?_of_pred hyesterday] at hparts
  obtain rfl := Option.some.inj hparts
  obtain ⟨historic, live, hhistoric, hlive, rfl⟩ := dayBuckets_eq_ok_iff.mp h
  have hpast := historicPart_serve keyed hyesterday hhistoric
  have hfuture := livePart_serve years hlive
  refine (hpast.append hfuture fun d e hd he => ?_).congr (fun d => ?_) fun d _ => rfl
  · exact lt_of_lt_of_le (show d.number < now.day.number from hd.2.2.1) he.2.2.1
  · rw [HasDay]
    -- a day is on one side of midnight
    by_cases hd : d < now.day
    · have hnot : ¬ now.day ≤ d := fun hle => Day.not_lt.mpr hle hd
      simp only [hd, hnot, if_true, true_and, false_and, and_false, or_false]
    · have hle : now.day ≤ d := Day.not_lt.mp hd
      simp only [hd, hle, if_false, true_and, false_and, and_false, false_or]

end Midnight

/-! ## The series of a range -/

/-- **A day series across midnight**: days before today carry the sums of all
their rows, and days from today on the totals of those facts that lie from the
midnight of today, or the later start of the range, to the end of the range. -/
structure Stitched (s : Store) (site : String) (start stop now : Instant)
    (buckets : List Bucket) : Prop where
  /-- Starts are strictly increasing. -/
  increasing : buckets.Pairwise fun a b => a.start < b.start
  /-- Every bucket is that of a day of the range. -/
  of_range : ∀ b ∈ buckets, ∃ d, start.day ≤ d ∧ d ≤ stop.day ∧ b.start = .midnight d
  /-- A day before today has a bucket exactly if the rollup has rows of the site for it. -/
  past_iff : ∀ d, start.day ≤ d → d ≤ stop.day → d < now.day →
    ((∃ b ∈ buckets, b.start = .midnight d) ↔ s.siteRowsAt site d ≠ [])
  /-- The bucket then carries the sums of these rows. -/
  past_totals : ∀ b ∈ buckets, ∀ d, b.start = .midnight d → d < now.day →
    SumsOf (s.siteRowsAt site d) b.totals
  /-- Today and a later day have a bucket exactly if a fact of the site lies on them and in the
  range. -/
  live_iff : ∀ d, start.day ≤ d → d ≤ stop.day → now.day ≤ d →
    ((∃ b ∈ buckets, b.start = .midnight d) ↔
      s.siteFactsIn site (liveSpan start stop now) d ≠ [])
  /-- The bucket then carries the totals of exactly these facts. -/
  live_totals : ∀ b ∈ buckets, ∀ d, b.start = .midnight d → now.day ≤ d →
    b.totals = .ofFacts (s.siteFactsIn site (liveSpan start stop now) d)

section Series

variable {s : Store} {site : String} {start stop now : Instant} {buckets : List Bucket}

theorem stitched_of_serves
    (h : ServesDays (s.HasDay site start stop now) (s.dayTotals site start stop now) buckets) :
    s.Stitched site start stop now buckets where
  increasing := h.increasing
  of_range b hb := by
    obtain ⟨d, hd, hstart, -⟩ := (h.mem_iff b).mp hb
    exact ⟨d, hd.1, hd.2.1, hstart⟩
  past_iff d hfrom hto hd := by
    rw [h.exists_mem_iff, HasDay, if_pos hd]
    exact ⟨fun h => h.2.2, fun h => ⟨hfrom, hto, h⟩⟩
  past_totals b hb d hstart hd := by
    have hread := (h.read_of_mem hb hstart).2
    rw [dayTotals, if_pos hd] at hread
    exact (sumRows_eq_ok_iff.mp hread).1
  live_iff d hfrom hto hd := by
    rw [h.exists_mem_iff, HasDay, if_neg (Day.not_lt.mpr hd)]
    exact ⟨fun h => h.2.2, fun h => ⟨hfrom, hto, h⟩⟩
  live_totals b hb d hstart hd := by
    have hread := (h.read_of_mem hb hstart).2
    rw [dayTotals, if_neg (Day.not_lt.mpr hd)] at hread
    exact (countFacts_eq_ok_iff.mp hread).1

theorem buckets_day_eq_ok_iff :
    s.buckets site start stop .day now = .ok buckets ↔
      checkRange start stop = .ok () ∧ checkBuckets .day start stop = .ok () ∧
        ∃ parts, split? start stop now = some parts ∧ s.dayBuckets site parts = .ok buckets := by
  unfold Store.buckets
  simp only [bind_eq_ok_iff, mapError_eq_ok_iff, Unique.exists_iff]
  refine and_congr_right fun _ => and_congr_right fun _ => ?_
  cases split? start stop now with
  | none => simp only [reduceCtorEq, false_and, exists_false]
  | some parts => simp only [Option.some.injEq, exists_eq_left', mapError_eq_ok_iff]

theorem series_eq_ok_iff {g : Granularity} {points : List Point} :
    s.series site start stop g now = .ok points ↔
      ∃ buckets, s.buckets site start stop g now = .ok buckets ∧
        points = buckets.map Bucket.point := by
  simp only [series, bind_eq_ok_iff, Except.ok.injEq]
  exact exists_congr fun buckets => and_congr_right fun _ => eq_comm

end Series

/-! ## When a series is answered -/

section Answered

variable {s : Store} {site : String} {range : Span} {start stop now : Instant}

theorem exists_historicBuckets (c : s.Complete) (keyed : s.KeyedAtMidnights)
    (hstart : range.start.day.Storable) (hstop : range.stop.Storable)
    (sums : ∀ d, ∃ totals, sumRows (s.siteRowsAt site d) = .ok totals) :
    ∃ buckets, s.historicBuckets site range = .ok buckets := by
  have hrows : s.siteRows site range = .ok (s.siteRowsIn site range) :=
    siteRows_eq_ok_iff.mpr
      ⟨c.daily, (Span.storable_fromMidnight_iff.mpr ⟨hstart, hstop⟩).not_failsAmong, rfl⟩
  rw [historicBuckets, hrows, ok_bind]
  have hread : ∀ text ∈ (distinct ((s.siteRowsIn site range).map
      (·.1.bucket.bucketText))).mergeSort (· ≤ ·),
      ∃ b, historicBucket (s.siteRowsIn site range) text = .ok b := by
    intro text htext
    obtain ⟨d, hd, rfl⟩ := (keyed.mem_texts hstop).mp htext
    obtain ⟨totals, htotals⟩ := sums d
    rw [keyed.historicBucket_eq hstop hd, htotals]
    exact ⟨_, rfl⟩
  obtain ⟨buckets, hbuckets, -⟩ := exists_mapM_ok hread
  exact ⟨buckets, hbuckets⟩

theorem exists_liveBuckets (c : s.Complete) (years : ∀ f ∈ s.factList, f.time.FourDigit)
    (hstart : range.start.Storable) (hstop : range.stop.Storable)
    (few : ∀ d, (s.siteFactsIn site range d).length < 2 ^ 63) :
    ∃ buckets, s.liveBuckets site range .day = .ok buckets := by
  have hfacts : s.siteFacts site range = .ok (s.siteFactsWithin site range) :=
    siteFacts_eq_ok_iff.mpr ⟨c.facts, Span.Storable.not_failsAmong ⟨hstart, hstop⟩, rfl⟩
  rw [liveBuckets, hfacts, ok_bind]
  have hread : ∀ t ∈ bucketsOf .day (s.siteFactsWithin site range), ∃ b : Bucket,
      (do
        let start ← t.readBucket
        let totals ← countFacts
          ((s.siteFactsWithin site range).filter (·.time.truncate .day == t))
        Except.ok ⟨start, totals⟩ : Except StoreFault Bucket) = .ok b := by
    intro t ht
    obtain ⟨d, hd, rfl⟩ := (mem_bucketsOf_day years).mp ht
    rw [liveBucket_eq years hd, countFacts_eq_ok_iff.mpr ⟨rfl, few d⟩]
    exact ⟨_, rfl⟩
  obtain ⟨buckets, hbuckets, -⟩ := exists_mapM_ok hread
  exact ⟨buckets, hbuckets⟩

/-- The part before midnight stops where the range does, or at the end of a day before that. -/
theorem storable_min_endOfDay {d : Day} (hstop : stop.Storable) :
    (stop.min (.endOfDay d)).Storable := by
  unfold Instant.min
  split
  · exact hstop
  · next hlt =>
    rw [Instant.storable_endOfDay_iff]
    refine Day.Storable.of_le (e := stop.day) hstop.2 ?_
    rw [← Instant.midnight_le_iff]
    rw [Instant.le_iff] at hlt ⊢
    simp only [Instant.key, Instant.endOfDay, Instant.midnight_seconds,
      Instant.midnight_nanos] at hlt ⊢
    omega

/-- The part from midnight on starts where the range does, or at a midnight in it. -/
theorem storable_max_midnight {d : Day} (hstart : start.Storable) (hstop : stop.Storable)
    (hle : .midnight d ≤ stop) : (start.max (.midnight d)).Storable := by
  unfold Instant.max
  split
  · exact Instant.storable_midnight_iff.mpr
      (Day.Storable.of_le (e := stop.day) hstop.2 (Instant.midnight_le_iff.mp hle))
  · exact hstart

/-- **A complete store answers every range that it can be told**, as far as its
rows and facts can be summed and the clock has a day before its own. -/
theorem exists_day_series (c : s.Complete) (keyed : s.KeyedAtMidnights)
    (years : ∀ f ∈ s.factList, f.time.FourDigit) (order : checkRange start stop = .ok ())
    (fits : checkBuckets .day start stop = .ok ()) (hfirst : Day.first < now.day)
    (hstart : start.Storable) (hstop : stop.Storable)
    (sums : ∀ d, ∃ totals, sumRows (s.siteRowsAt site d) = .ok totals)
    (few : s.factList.length < 2 ^ 63) :
    ∃ points, s.series site start stop .day now = .ok points := by
  obtain ⟨yesterday, hyesterday⟩ := exists_pred_of_lt hfirst
  have hhistoric : ∃ buckets,
      (if start < .midnight now.day then some (⟨start, stop.min (.endOfDay yesterday)⟩ : Span)
        else none).elim (.ok []) (s.historicBuckets site) = .ok buckets := by
    split
    · exact exists_historicBuckets c keyed hstart.2 (storable_min_endOfDay hstop) sums
    · exact ⟨_, rfl⟩
  have hlive : ∃ buckets,
      (if .midnight now.day ≤ stop then some (⟨start.max (.midnight now.day), stop⟩ : Span)
        else none).elim (.ok []) (s.liveBuckets site · .day) = .ok buckets := by
    split
    · next hle =>
      refine exists_liveBuckets c years (storable_max_midnight hstart hstop hle) hstop fun d => ?_
      refine lt_of_le_of_lt ?_ few
      exact (List.length_filter_le _ _).trans
        ((List.length_filter_le _ _).trans (List.length_filter_le _ _))
    · exact ⟨_, rfl⟩
  obtain ⟨historic, hhistoric⟩ := hhistoric
  obtain ⟨live, hlive⟩ := hlive
  refine ⟨_, series_eq_ok_iff.mpr ⟨historic ++ live, buckets_day_eq_ok_iff.mpr
    ⟨order, fits, _, split?_of_pred hyesterday start stop, ?_⟩, rfl⟩⟩
  exact dayBuckets_eq_ok_iff.mpr ⟨historic, live, hhistoric, hlive, rfl⟩

end Answered

end Store

/-! ## Reachable states -/

namespace Account

variable {x : Account}

/-- In a reachable state the daily rows are keyed at midnights. -/
theorem Balanced.keyedAtMidnights (h : x.Balanced)
    (years : ∀ f ∈ x.store.factList, f.time.FourDigit) : x.store.KeyedAtMidnights := by
  intro r hr
  obtain ⟨f, hf, hkey⟩ := Rollup.exists_fact_of_mem_rows h.daily hr
  have hyear := years f (h.known f hf)
  obtain ⟨d, hd, -⟩ := hyear.exists_onDay
  refine ⟨d, ?_, ?_⟩
  · rw [← hkey]
    exact Timestamp.truncate_day_eq_midnight_iff.mpr hd
  · refine (Timestamp.fourDigit_iff_of_dayNumber ?_).mp hyear
    rw [Timestamp.dayNumber_midnight]
    exact hd

/-- As far as the facts can be counted, so can the rows of a site and a day. -/
theorem Balanced.exists_sums (h : x.Balanced) (few : x.store.factList.length < 2 ^ 63)
    (site : String) (d : Day) :
    ∃ totals, Store.sumRows (x.store.siteRowsAt site d) = .ok totals := by
  have hlength : (x.siteCountedOn site d).length ≤ x.store.factList.length := by
    calc (x.siteCountedOn site d).length
        ≤ (factsOfDay d x.counted).length := List.length_filter_le _ _
      _ ≤ (x.store.factsOn d).length := (h.first d).length_le
      _ ≤ x.store.factList.length := List.length_filter_le _ _
  refine ⟨.ofRows .day (x.siteCountedOn site d), ?_⟩
  rw [Store.sumRows_eq_of_perm (h.siteRowsAt_perm.map (·.2)), Store.sumRows,
    Rollup.total_count_aggregate, Rollup.total_visitors_aggregate, Rollup.total_bounces_aggregate]
  exact Totals.checked_ofRows_iff.mpr ⟨rfl, hlength.trans_lt few⟩

end Account

namespace Store

/-- **Whenever a day series is answered, it is stitched together at midnight.**
This holds of every store whose daily rows are keyed at midnights and whose
moments lie in the years 0 to 9999. -/
theorem day_series_stitched (s : Store) (keyed : s.KeyedAtMidnights)
    (years : ∀ f ∈ s.factList, f.time.FourDigit) (site : String) (start stop now : Instant)
    (points : List Point) (h : s.series site start stop .day now = .ok points) :
    ∃ buckets, points = buckets.map Bucket.point ∧ s.Stitched site start stop now buckets := by
  obtain ⟨buckets, hbuckets, rfl⟩ := series_eq_ok_iff.mp h
  obtain ⟨-, -, parts, hparts, hday⟩ := buckets_day_eq_ok_iff.mp hbuckets
  exact ⟨buckets, rfl, stitched_of_serves (dayBuckets_serve keyed years hparts hday)⟩

/-- A view that was counted, and one three days later that was not. -/
def viewsOfTwoDays : List Action :=
  [viewOn (sampleDay 0) "blog" "/", .compact (sampleDay 0) (.midnight (sampleDay 3)),
    viewOn (sampleDay 3) "blog" "/about"]

theorem day_series_of_viewsOfTwoDays :
    (migrated.runAll viewsOfTwoDays).KeyedAtMidnights ∧
      (∀ f ∈ (migrated.runAll viewsOfTwoDays).factList, f.time.FourDigit) ∧
      ∃ points buckets,
        (migrated.runAll viewsOfTwoDays).series "blog" (.endOfDay (sampleDay 0))
          (.endOfDay (sampleDay 3)) .day (.endOfDay (sampleDay 3)) = .ok points ∧
        points = buckets.map Bucket.point ∧
        (migrated.runAll viewsOfTwoDays).Stitched "blog" (.endOfDay (sampleDay 0))
          (.endOfDay (sampleDay 3)) (.endOfDay (sampleDay 3)) buckets := by
  have hbalanced := Account.balanced_run viewsOfTwoDays
  have hyears : ∀ f ∈ (Account.opening.run viewsOfTwoDays).store.factList, f.time.FourDigit := by
    intro f hf
    refine Account.fourDigit_of_inYears hf fun v now ha _ => ?_
    exact (show ∀ a ∈ viewsOfTwoDays, a.InYears by decide) _ ha
  have hkeyed := hbalanced.keyedAtMidnights hyears
  have hlength : (Account.opening.run viewsOfTwoDays).store.factList.length = 2 := by
    rw [← List.length_map (f := (Account.opening.run viewsOfTwoDays).store.sight),
      (Account.tells_run viewsOfTwoDays).seen]
    decide
  have hfew : (Account.opening.run viewsOfTwoDays).store.factList.length < 2 ^ 63 := by
    rw [hlength]
    decide
  rw [← Account.store_run_opening]
  have hanswered : ∃ points, (Account.opening.run viewsOfTwoDays).store.series "blog"
      (.endOfDay (sampleDay 0)) (.endOfDay (sampleDay 3)) .day (.endOfDay (sampleDay 3)) =
        .ok points :=
    exists_day_series hbalanced.complete hkeyed hyears (by decide) (by decide) (by decide)
      (by decide) (by decide) (hbalanced.exists_sums hfew "blog") hfew
  obtain ⟨points, hpoints⟩ := hanswered
  obtain ⟨buckets, hbuckets, stitched⟩ := day_series_stitched _ hkeyed hyears "blog"
    (.endOfDay (sampleDay 0)) (.endOfDay (sampleDay 3)) (.endOfDay (sampleDay 3)) points hpoints
  exact ⟨hkeyed, hyears, points, buckets, hpoints, hbuckets, stitched⟩

end Store

end Footfall
