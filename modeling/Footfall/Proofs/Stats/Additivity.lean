import Mathlib
import Footfall.Proofs.Calendar.Partition
import Footfall.Proofs.Stats.LiveSeries
import Footfall.Stats.Breakdown

/-!
# Queries over facts add up

A range can be counted at once, by device, by page, by hour and by month.  Each of these
queries selects the same facts and groups them in its own way, by a label or by the start
of a bucket.  A fact has one label, be its reference missing or dangling, and one start.
So no fact is left out and none is counted twice, and pageviews add up.

Visitors do not: one visitor may come in several hours of a month.  But every visitor of
the month is one of some hour, and one with a single view in the month has a single view
in that hour.

## Main Definitions

* `hoursIn`, `RollsUp` — the hours of a month, and how hours and months compare
* `DeviceShare.percent` — the share of a device class as an exact number
* `Store.AddsUp` — the answers over one range add up

## Main Statements

* `sum_length_ranking` — a ranking ranks each fact once
* `rollsUp_of_tallied` — hours roll up to months
* `Store.scans_add_up` — all answers over facts add up
-/

namespace Footfall

/-! ## Groups of facts -/

/-- A set has no more members than some sets that cover it. -/
theorem card_le_sum_of_cover {β : Type} [DecidableEq β] {ks : List β} (nodup : ks.Nodup)
    {S : Finset ℕ} {T : β → Finset ℕ} (cover : ∀ v ∈ S, ∃ k ∈ ks, v ∈ T k) :
    S.card ≤ (ks.map fun k => (T k).card).sum := by
  have hsubset : S ⊆ ks.toFinset.biUnion T := by
    intro v hv
    obtain ⟨k, hk, hT⟩ := cover v hv
    exact Finset.mem_biUnion.mpr ⟨k, List.mem_toFinset.mpr hk, hT⟩
  calc S.card ≤ (ks.toFinset.biUnion T).card := Finset.card_le_card hsubset
    _ ≤ ∑ k ∈ ks.toFinset, (T k).card := Finset.card_biUnion_le
    _ = (ks.map fun k => (T k).card).sum := List.sum_toFinset _ nodup

theorem mem_visitorSet {facts : List Fact} {v : ℕ} :
    v ∈ visitorSet facts ↔ ∃ f ∈ facts, f.visitor = v := by
  rw [visitorSet, List.mem_toFinset, List.mem_map]

theorem visitorSet_mono {facts others : List Fact} (h : facts.Sublist others) :
    visitorSet facts ⊆ visitorSet others := by
  intro v hv
  rw [mem_visitorSet] at hv ⊢
  obtain ⟨f, hf, rfl⟩ := hv
  exact ⟨f, h.subset hf, rfl⟩

/-- A visitor with a single view has it in some part, and no second one there. -/
theorem mem_singleVisitors_of_sublist {facts others : List Fact} (h : facts.Sublist others)
    {v : ℕ} (hv : v ∈ singleVisitors others) (mem : v ∈ visitorSet facts) :
    v ∈ singleVisitors facts := by
  rw [singleVisitors, Finset.mem_filter] at hv ⊢
  refine ⟨mem, Nat.le_antisymm ?_ ?_⟩
  · rw [← hv.2]
    exact (h.map _).count_le v
  · exact List.count_pos_iff.mpr (List.mem_toFinset.mp mem)

/-! ## Buckets that tally facts -/

section Buckets

variable {g : Granularity} {facts : List Fact} {buckets : List Bucket}

theorem sublist_factsFrom (g : Granularity) (facts : List Fact) (b : Instant) :
    (factsFrom g facts b).Sublist facts :=
  List.filter_sublist

/-- Buckets count facts if they carry the totals of their own, and each fact is one of those. -/
structure Bucket.CountEach (g : Granularity) (facts : List Fact) (buckets : List Bucket) :
    Prop where
  /-- Starts differ. -/
  nodup : (buckets.map (·.start)).Nodup
  /-- Totals are those of the facts that have the start. -/
  totals : ∀ b ∈ buckets, b.totals = .ofFacts (factsFrom g facts b.start)
  /-- Each fact has the start of a bucket. -/
  cover : ∀ f ∈ facts, ∃ b ∈ buckets, f.time.bucketStart? g = some b.start

namespace Bucket.CountEach

variable (h : CountEach g facts buckets)
include h

/-- Pageviews add up. -/
theorem sum_pageviews : (buckets.map (·.totals.pageviews)).sum = facts.length := by
  have hnodup : ((buckets.map (·.start)).map some).Nodup := h.nodup.map (Option.some_injective _)
  have hcover : ∀ f ∈ facts, f.time.bucketStart? g ∈ (buckets.map (·.start)).map some := by
    intro f hf
    obtain ⟨b, hb, hstart⟩ := h.cover f hf
    rw [hstart]
    exact List.mem_map_of_mem (List.mem_map_of_mem hb)
  rw [← sum_length_fiber hnodup (fun f : Fact => f.time.bucketStart? g) hcover, List.map_map,
    List.map_map]
  refine congrArg List.sum (List.map_congr_left fun b hb => ?_)
  rw [h.totals b hb]
  rfl

/-- Every visitor is one of some bucket. -/
theorem visitors_le :
    (Totals.ofFacts facts).visitors ≤ (buckets.map (·.totals.visitors)).sum := by
  have hcover : ∀ v ∈ visitorSet facts, ∃ t ∈ buckets.map (·.start),
      v ∈ visitorSet (factsFrom g facts t) := by
    intro v hv
    obtain ⟨f, hf, rfl⟩ := mem_visitorSet.mp hv
    obtain ⟨b, hb, hstart⟩ := h.cover f hf
    exact ⟨b.start, List.mem_map_of_mem hb,
      mem_visitorSet.mpr ⟨f, mem_factsFrom.mpr ⟨hf, hstart⟩, rfl⟩⟩
  have hle := card_le_sum_of_cover h.nodup hcover
  rw [List.map_map] at hle
  rw [Totals.ofFacts_eq]
  refine hle.trans_eq (congrArg List.sum (List.map_congr_left fun b hb => ?_))
  rw [h.totals b hb, Totals.ofFacts_eq]
  rfl

/-- Every visitor with a single view is one of some bucket. -/
theorem bounces_le :
    (Totals.ofFacts facts).bounces ≤ (buckets.map (·.totals.bounces)).sum := by
  have hcover : ∀ v ∈ singleVisitors facts, ∃ t ∈ buckets.map (·.start),
      v ∈ singleVisitors (factsFrom g facts t) := by
    intro v hv
    obtain ⟨f, hf, rfl⟩ := mem_visitorSet.mp (Finset.mem_filter.mp hv).1
    obtain ⟨b, hb, hstart⟩ := h.cover f hf
    exact ⟨b.start, List.mem_map_of_mem hb, mem_singleVisitors_of_sublist
      (sublist_factsFrom g facts b.start) hv
      (mem_visitorSet.mpr ⟨f, mem_factsFrom.mpr ⟨hf, hstart⟩, rfl⟩)⟩
  have hle := card_le_sum_of_cover h.nodup hcover
  rw [List.map_map] at hle
  rw [Totals.ofFacts_eq]
  refine hle.trans_eq (congrArg List.sum (List.map_congr_left fun b hb => ?_))
  rw [h.totals b hb, Totals.ofFacts_eq]
  rfl

end Bucket.CountEach

end Buckets

/-- Buckets that tally facts count each. -/
theorem Tallied.countEach {g : Granularity} {facts : List Fact} {buckets : List Bucket}
    (h : Tallied g facts buckets) (years : ∀ f ∈ facts, f.time.FourDigit) :
    Bucket.CountEach g facts buckets where
  nodup := Instant.nodup_of_pairwise_lt (List.pairwise_map.mpr h.increasing)
  totals := h.totals
  cover f hf := by
    have hstart := Timestamp.bucketStart?_of_fourDigit g (years f hf)
    obtain ⟨b, hb, hb'⟩ := (h.start_iff _).mpr ⟨f, hf, hstart⟩
    exact ⟨b, hb, by rw [hstart, hb']⟩

/-! ## Hours of a month -/

section Hours

variable {facts : List Fact} {hours months : List Bucket} {m : Bucket}

/-- The month of a moment is that of its hour. -/
theorem Timestamp.bucketStart?_month_of_hour {t : Timestamp} {b : Instant}
    (h : t.bucketStart? .hour = some b) :
    t.bucketStart? .month = some (Granularity.month.truncate b) := by
  unfold bucketStart? at h ⊢
  split at h
  · next hyear =>
    rw [dif_pos hyear, ← Option.some.inj h, Granularity.hour_refines_month.truncate_truncate]
  · cases h

/-- The hours of a month. -/
def hoursIn (hours : List Bucket) (m : Bucket) : List Bucket :=
  hours.filter fun h => Granularity.month.truncate h.start = m.start

theorem mem_hoursIn {h : Bucket} :
    h ∈ hoursIn hours m ↔ h ∈ hours ∧ Granularity.month.truncate h.start = m.start := by
  rw [hoursIn, List.mem_filter, decide_eq_true_eq]

/-- **Hours roll up to months.** -/
structure RollsUp (hours months : List Bucket) : Prop where
  /-- The months are those of the hours. -/
  start_iff : ∀ t, (∃ m ∈ months, m.start = t) ↔
    ∃ h ∈ hours, Granularity.month.truncate h.start = t
  /-- The pageviews of a month are those of its hours. -/
  pageviews : ∀ m ∈ months,
    m.totals.pageviews = ((hoursIn hours m).map (·.totals.pageviews)).sum
  /-- A month has no fewer visitors than each of its hours. -/
  visitors_ge : ∀ m ∈ months, ∀ h ∈ hoursIn hours m, h.totals.visitors ≤ m.totals.visitors
  /-- It has no more visitors than its hours together. -/
  visitors_le : ∀ m ∈ months,
    m.totals.visitors ≤ ((hoursIn hours m).map (·.totals.visitors)).sum
  /-- It has no more bounces than its hours together. -/
  bounces_le : ∀ m ∈ months,
    m.totals.bounces ≤ ((hoursIn hours m).map (·.totals.bounces)).sum

/-- The facts of an hour of a month are those of the month that have the hour. -/
theorem factsFrom_hour_of_month {h : Bucket} (hm : Granularity.month.truncate h.start = m.start) :
    factsFrom .hour (factsFrom .month facts m.start) h.start = factsFrom .hour facts h.start := by
  rw [factsFrom, factsFrom, factsFrom, List.filter_filter]
  refine List.filter_congr fun f _ => ?_
  rw [Bool.eq_iff_iff, Bool.and_eq_true, decide_eq_true_eq, decide_eq_true_eq]
  refine ⟨And.left, fun hf => ⟨hf, ?_⟩⟩
  rw [Timestamp.bucketStart?_month_of_hour hf, hm]

/-- The hours of a month count each of its facts. -/
theorem countEach_hoursIn (years : ∀ f ∈ facts, f.time.FourDigit)
    (hhours : Tallied .hour facts hours) (m : Bucket) :
    Bucket.CountEach .hour (factsFrom .month facts m.start) (hoursIn hours m) where
  nodup := (hhours.countEach years).nodup.sublist (List.filter_sublist.map _)
  totals h hh := by
    obtain ⟨hh, hm⟩ := mem_hoursIn.mp hh
    rw [hhours.totals h hh, factsFrom_hour_of_month hm]
  cover f hf := by
    obtain ⟨hf, hmonth⟩ := mem_factsFrom.mp hf
    obtain ⟨h, hh, hstart⟩ := (hhours.countEach years).cover f hf
    refine ⟨h, mem_hoursIn.mpr ⟨hh, Option.some.inj ?_⟩, hstart⟩
    rw [← Timestamp.bucketStart?_month_of_hour hstart, hmonth]

/-- **Hours and months that tally the same facts roll up.** -/
theorem rollsUp_of_tallied (years : ∀ f ∈ facts, f.time.FourDigit)
    (hhours : Tallied .hour facts hours) (hmonths : Tallied .month facts months) :
    RollsUp hours months where
  start_iff t := by
    rw [hmonths.start_iff]
    constructor
    · rintro ⟨f, hf, hmonth⟩
      obtain ⟨h, hh, hstart⟩ := (hhours.countEach years).cover f hf
      refine ⟨h, hh, Option.some.inj ?_⟩
      rw [← Timestamp.bucketStart?_month_of_hour hstart, hmonth]
    · rintro ⟨h, hh, rfl⟩
      obtain ⟨f, hf, hstart⟩ := (hhours.start_iff h.start).mp ⟨h, hh, rfl⟩
      exact ⟨f, hf, Timestamp.bucketStart?_month_of_hour hstart⟩
  pageviews m hm := by
    rw [(countEach_hoursIn years hhours m).sum_pageviews, hmonths.totals m hm, Totals.ofFacts]
  visitors_ge m hm h hh := by
    rw [(countEach_hoursIn years hhours m).totals h hh, hmonths.totals m hm, Totals.ofFacts_eq,
      Totals.ofFacts_eq]
    exact Finset.card_le_card (visitorSet_mono (sublist_factsFrom _ _ _))
  visitors_le m hm := by
    rw [hmonths.totals m hm]
    exact (countEach_hoursIn years hhours m).visitors_le
  bounces_le m hm := by
    rw [hmonths.totals m hm]
    exact (countEach_hoursIn years hhours m).bounces_le

end Hours

/-! ## Rankings -/

section Rankings

variable (label : Fact → String) (facts : List Fact)

/-- The facts of a ranking, label by label, are all facts. -/
theorem sum_length_ranking : ((ranking label facts).map (·.2.length)).sum = facts.length := by
  have hperm := List.mergeSort_perm (distinct (facts.map label))
    (labelBefore fun l => (ofLabel label facts l).length)
  have hcover : ∀ f ∈ facts, label f ∈ distinct (facts.map label) :=
    fun f hf => mem_distinct.mpr (List.mem_map_of_mem hf)
  rw [ranking_eq_map, List.map_map, (hperm.map _).sum_eq,
    ← sum_length_fiber (nodup_distinct _) label hcover]
  refine congrArg List.sum (List.map_congr_left fun l _ => ?_)
  simp only [Function.comp_apply, ofLabel, beq_eq_decide]

/-- A ranking has a row for each label that occurs. -/
theorem length_ranking : (ranking label facts).length = (facts.map label).toFinset.card := by
  rw [ranking_eq_map, List.length_map, List.length_mergeSort, distinct_eq_dedup,
    List.card_toFinset]

end Rankings

/-! ## All answers over facts -/

/-- No granularity has more buckets in a range than hours. -/
theorem Granularity.bucketCount_month_le {start stop : Instant} (order : start ≤ stop) :
    month.bucketCount start stop ≤ hour.bucketCount start stop := by
  have hhours : start.seconds / 3600 ≤ stop.seconds / 3600 := numberOf_le hour order
  have hdays : start.seconds / 86400 ≤ stop.seconds / 86400 := numberOf_le day order
  have hmonths := monthOfDay_sub_le hdays
  rw [bucketCount_eq, bucketCount_eq, numberOf, numberOf, numberOf, numberOf]
  omega

/-- The share of a device class as an exact number, in percent. -/
def DeviceShare.percent (total : ℕ) (d : DeviceShare) : ℚ :=
  d.count / total * 100

/-- Shares of a total add up to the whole. -/
theorem sum_percent {devices : List DeviceShare} {total : ℕ} (pos : 0 < total)
    (h : (devices.map (·.count)).sum = total) : (devices.map (·.percent total)).sum = 100 := by
  have hcast : (devices.map fun d => (d.count : ℚ)).sum = total := by
    rw [← h, Nat.cast_list_sum, List.map_map]
    rfl
  have hne : (total : ℚ) ≠ 0 := Nat.cast_ne_zero.mpr pos.ne'
  calc (devices.map (·.percent total)).sum
      = (devices.map fun d => (d.count : ℚ) * (100 / total)).sum :=
        congrArg List.sum (List.map_congr_left fun d _ => by rw [DeviceShare.percent]; ring)
    _ = (total : ℚ) * (100 / total) := by rw [List.sum_map_mul_right, hcast]
    _ = 100 := mul_div_cancel₀ 100 hne

namespace Store

variable {s : Store} {site : String} {start stop now : Instant}

/-- The labels of the pages that a site shows in a range. -/
def pageLabels (s : Store) (site : String) (range : Span) : Finset String :=
  ((s.siteFactsWithin site range).map fun f => labelOf (s.rowsOf .path) (f.ids.get .path)).toFinset

/-- **The answers over the facts of a range add up.** -/
structure AddsUp (s : Store) (site : String) (start stop now : Instant) (total : ℕ) : Prop where
  /-- The pageviews are counted. -/
  counted : s.countPageviews site start stop = .ok total
  /-- The counts of devices add up to them, and the exact shares to the whole. -/
  devices : ∃ devices, s.deviceUsage site start stop = .ok devices ∧
    (devices.map (·.count)).sum = total ∧
    (∀ d ∈ devices, d.percentage = toFloat d.count / toFloat total * 100.0) ∧
    (0 < total → (devices.map (·.percent total)).sum = 100) ∧ (total = 0 → devices = [])
  /-- So do the counts of pages, if none of them is cut off. -/
  pages : ∀ limit, (s.pageLabels site ⟨start, stop⟩).card ≤ maxRows →
    (s.pageLabels site ⟨start, stop⟩).card ≤ limit →
    ∃ pages, s.topPages site start stop limit = .ok pages ∧ (pages.map (·.count)).sum = total
  /-- Hours and months are answered, as far as the facts can be counted. -/
  answered : total < 2 ^ 63 → ∃ hours months, s.series site start stop .hour now = .ok hours ∧
    s.series site start stop .month now = .ok months
  /-- The pageviews of hours add up. -/
  hours : ∀ points, s.series site start stop .hour now = .ok points →
    (points.map (·.pageviews)).sum = total
  /-- So do those of months. -/
  months : ∀ points, s.series site start stop .month now = .ok points →
    (points.map (·.pageviews)).sum = total
  /-- Hours roll up to months. -/
  rollsUp : ∀ hours months, s.series site start stop .hour now = .ok hours →
    s.series site start stop .month now = .ok months →
    ∃ hours' months', s.buckets site start stop .hour now = .ok hours' ∧
      hours = hours'.map Bucket.point ∧
      s.buckets site start stop .month now = .ok months' ∧ months = months'.map Bucket.point ∧
      RollsUp hours' months'

theorem countPageviews_of_storable (stands : s.facts = .table s.factList) (order : start ≤ stop)
    (hstart : start.Storable) (hstop : stop.Storable) :
    s.countPageviews site start stop = .ok (s.siteFactsWithin site ⟨start, stop⟩).length := by
  rw [countPageviews, checkRange_eq_ok_iff.mpr order, siteFacts_of_storable stands ⟨hstart, hstop⟩]
  rfl

theorem readRanking_of_storable (c : s.Complete) (d : Dimension) (hstart : start.Storable)
    (hstop : stop.Storable) :
    s.readRanking d site ⟨start, stop⟩ = .ok (ranking
      (fun f => labelOf (s.rowsOf d) (f.ids.get d)) (s.siteFactsWithin site ⟨start, stop⟩)) := by
  rw [readRanking, c.dimensionRows, siteFacts_of_storable c.facts ⟨hstart, hstop⟩]
  rfl

/-- The first rows of a ranking that can be read. -/
theorem readTopPages_of_readRanking {range : Span} {ranked : List (String × List Fact)}
    (h : s.readRanking .path site range = .ok ranked) (limit : ℕ) :
    s.readTopPages site range limit = .ok (ranked.take limit) := by
  by_cases hlimit : limit = 0
  · -- no fact is looked at, but both tables are
    simp only [readRanking, bind_eq_ok_iff] at h
    obtain ⟨rows, hrows, facts, hfacts, -⟩ := h
    rw [readTopPages, if_pos hlimit, hrows, factRows, (siteFacts_eq_ok_iff.mp hfacts).1, hlimit,
      List.take_zero]
    rfl
  · rw [readTopPages, if_neg hlimit, h]
    rfl

/-- Devices are counted once each, if there is anything to count. -/
theorem deviceUsage_of_storable (c : s.Complete) (site : String) (order : start ≤ stop)
    (hstart : start.Storable) (hstop : stop.Storable) :
    ∃ devices, s.deviceUsage site start stop = .ok devices ∧
      (devices.map (·.count)).sum = (s.siteFactsWithin site ⟨start, stop⟩).length ∧
      (∀ d ∈ devices, d.percentage = toFloat d.count /
        toFloat (s.siteFactsWithin site ⟨start, stop⟩).length * 100.0) ∧
      ((s.siteFactsWithin site ⟨start, stop⟩).length = 0 → devices = []) := by
  rw [deviceUsage, countPageviews_of_storable c.facts order hstart hstop, ok_bind]
  split
  · next hzero => exact ⟨[], rfl, hzero.symm, by simp, fun _ => rfl⟩
  · next hpos =>
    rw [readRanking_of_storable c .deviceType hstart hstop, Except.mapError, ok_bind]
    refine ⟨_, rfl, ?_, fun d hd => ?_, fun hzero => absurd hzero hpos⟩
    · rw [List.map_map]
      exact sum_length_ranking _ _
    · obtain ⟨row, -, rfl⟩ := List.mem_map.mp hd
      rfl

/-- Pages are counted once each, if none of them is cut off. -/
theorem topPages_of_storable (c : s.Complete) (order : start ≤ stop) (hstart : start.Storable)
    (hstop : stop.Storable) {limit : ℕ}
    (hmax : (s.pageLabels site ⟨start, stop⟩).card ≤ maxRows)
    (hlimit : (s.pageLabels site ⟨start, stop⟩).card ≤ limit) :
    ∃ pages, s.topPages site start stop limit = .ok pages ∧
      (pages.map (·.count)).sum = (s.siteFactsWithin site ⟨start, stop⟩).length := by
  have hall : (ranking (fun f => labelOf (s.rowsOf .path) (f.ids.get .path))
      (s.siteFactsWithin site ⟨start, stop⟩)).length ≤ min limit maxRows := by
    rw [length_ranking]
    exact Nat.le_min.mpr ⟨hlimit, hmax⟩
  rw [topPages, checkRange_eq_ok_iff.mpr order,
    readTopPages_of_readRanking (readRanking_of_storable c .path hstart hstop), Except.mapError,
    Except.mapError, ok_bind, ok_bind, List.take_of_length_le hall]
  refine ⟨_, rfl, ?_⟩
  rw [List.map_map]
  exact sum_length_ranking _ _

/-- **All answers over facts add up**, on every store with all its tables, whatever the
references of its facts. -/
theorem scans_add_up (s : Store) (c : s.Complete) (site : String) (start stop : Instant)
    (order : start ≤ stop) (hstart : start.Storable) (year_nonneg : 0 ≤ start.day.civil.year)
    (hstop : stop.Storable)
    (fits : Granularity.hour.bucketCount start stop ≤ Granularity.maxBuckets) (now : Instant) :
    ∃ total, s.AddsUp site start stop now total := by
  have years := fourDigit_of_siteFactsWithin s site order hstart year_nonneg hstop
  have fits' := (Granularity.bucketCount_month_le order).trans fits
  have hhours := buckets_eq_ok_iff_of_storable c.facts site order hstart hstop
    (g := .hour) (by decide) fits now
  have hmonths := buckets_eq_ok_iff_of_storable c.facts site order hstart hstop
    (g := .month) (by decide) fits' now
  have hfew (g : Granularity) (few : (s.siteFactsWithin site ⟨start, stop⟩).length < 2 ^ 63) :=
    (exists_mapM_readLive (g := g) years).mpr fun b =>
      (sublist_factsFrom g _ b).length_le.trans_lt few
  obtain ⟨devices, hdevices, hcount, hpercentage, hzero⟩ :=
    deviceUsage_of_storable c site order hstart hstop
  refine ⟨(s.siteFactsWithin site ⟨start, stop⟩).length,
    countPageviews_of_storable c.facts order hstart hstop,
    ⟨devices, hdevices, hcount, hpercentage, fun hpos => sum_percent hpos hcount, hzero⟩,
    fun limit hmax hlimit => topPages_of_storable c order hstart hstop hmax hlimit,
    fun few => ?_, fun points h => ?_, fun points h => ?_, fun hours months h h' => ?_⟩
  · obtain ⟨hours, hread⟩ := hfew .hour few
    obtain ⟨months, hread'⟩ := hfew .month few
    exact ⟨_, _, series_eq_ok_iff.mpr ⟨hours, (hhours hours).mpr hread, rfl⟩,
      series_eq_ok_iff.mpr ⟨months, (hmonths months).mpr hread', rfl⟩⟩
  · obtain ⟨hours, hread, rfl⟩ := series_eq_ok_iff.mp h
    have htallied := tallied_of_mapM_readLive years ((hhours hours).mp hread)
    rw [List.map_map]
    exact (htallied.countEach years).sum_pageviews
  · obtain ⟨months, hread, rfl⟩ := series_eq_ok_iff.mp h
    have htallied := tallied_of_mapM_readLive years ((hmonths months).mp hread)
    rw [List.map_map]
    exact (htallied.countEach years).sum_pageviews
  · obtain ⟨hours, hread, rfl⟩ := series_eq_ok_iff.mp h
    obtain ⟨months, hread', rfl⟩ := series_eq_ok_iff.mp h'
    exact ⟨hours, months, hread, rfl, hread', rfl, rollsUp_of_tallied years
      (tallied_of_mapM_readLive years ((hhours hours).mp hread))
      (tallied_of_mapM_readLive years ((hmonths months).mp hread'))⟩

theorem scans_add_up_after_viewsOfTwoDays :
    (migrated.runAll viewsOfTwoDays).Complete ∧
      (migrated.runAll viewsOfTwoDays).AddsUp "blog" (.midnight (sampleDay 0))
        (.endOfDay (sampleDay 3)) (.midnight (sampleDay 3)) 2 := by
  have hcomplete : (migrated.runAll viewsOfTwoDays).Complete := by
    rw [← Account.store_run_opening]
    exact (Account.balanced_run viewsOfTwoDays).complete
  obtain ⟨total, h⟩ := scans_add_up _ hcomplete "blog" (.midnight (sampleDay 0))
    (.endOfDay (sampleDay 3)) (by decide) (by decide) (by decide) (by decide) (by decide)
    (.midnight (sampleDay 3))
  have hcounted : ((migrated.runAll viewsOfTwoDays).countPageviews "blog"
      (.midnight (sampleDay 0)) (.endOfDay (sampleDay 3))).toOption = some 2 := by
    decide +kernel
  rw [h.counted] at hcounted
  obtain rfl : total = 2 := Option.some.inj hcounted
  exact ⟨hcomplete, h⟩

end Store

end Footfall
