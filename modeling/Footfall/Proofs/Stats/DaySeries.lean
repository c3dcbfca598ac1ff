import Mathlib
import Footfall.Proofs.Calendar.TextOrder
import Footfall.Proofs.Stats.Handover

/-!
# The two sources of a day series

The days of a series come from the rows of the rollup or from the facts.  Either
source answers its days in order, one bucket for each day that has anything: the
rollup whatever part of a day the range covers, and the facts with those that
lie in the range.

Nothing is asked of how the rows came into being, so the statements here hold of
every store whose daily rows are keyed at midnights.

## Main Definitions

* `ServesDays` — buckets of some days, in order, with what is read for each
* `SumsOf` — totals that are sums of rows
* `Store.KeyedAtMidnights` — daily rows are keyed at midnights

## Main Statements

* `Store.historicBuckets_serve` — the days that the rollup serves
* `Store.liveBuckets_serve` — the days that the facts serve
-/

namespace Footfall

/-! ## Days and bounds -/

namespace Timestamp

/-- Bounds select the midnights of the days from one to the other. -/
theorem within_midnight_iff {d e : Day} {stop : Instant} (h : stop.Storable) :
    (midnight d).within (midnight e) stop.toTimestamp = true ↔ e ≤ d ∧ d ≤ stop.day := by
  have hday := Instant.dayNumber_toTimestamp h
  simp only [dayNumber, dayMicros] at hday
  simp only [within, Bool.and_eq_true, decide_eq_true_eq, le_iff, midnight, dayMicros,
    Day.le_iff]
  omega

/-- A moment between two bounds lies on one of their days. -/
theorem OnDay.of_within {d : Day} {t : Timestamp} {start stop : Instant} (ht : t.OnDay d)
    (hstart : start.Storable) (hstop : stop.Storable)
    (h : t.within start.toTimestamp stop.toTimestamp = true) :
    start.day ≤ d ∧ d ≤ stop.day := by
  have hfirst := Instant.dayNumber_toTimestamp hstart
  have hlast := Instant.dayNumber_toTimestamp hstop
  simp only [OnDay, dayNumber, dayMicros] at ht hfirst hlast
  simp only [within, Bool.and_eq_true, decide_eq_true_eq, le_iff] at h
  simp only [Day.le_iff]
  omega

theorem bucketText_midnight_injective {d e : Day} (hd : (midnight d).FourDigit)
    (he : (midnight e).FourDigit) (h : (midnight d).bucketText = (midnight e).bucketText) :
    d = e := by
  have hday : Instant.midnight d = Instant.midnight e := by
    apply Option.some.inj
    rw [← ofStoredText?_midnight hd, ← ofStoredText?_midnight he, h]
  rw [← Instant.day_midnight d, hday, Instant.day_midnight]

end Timestamp

/-! ## Buckets of days -/

/-- **Buckets of some days**: in order, one for each day that has anything, with
what is read for the day. -/
structure ServesDays (has : Day → Prop) (read : Day → Except StoreFault Totals)
    (buckets : List Bucket) : Prop where
  /-- Starts are strictly increasing. -/
  increasing : buckets.Pairwise fun a b => a.start < b.start
  /-- The buckets are those of the days. -/
  mem_iff : ∀ b, b ∈ buckets ↔ ∃ d, has d ∧ b.start = .midnight d ∧ read d = .ok b.totals
  /-- Every day can be read. -/
  answered : ∀ d, has d → ∃ totals, read d = .ok totals

namespace ServesDays

variable {has has₁ has₂ : Day → Prop} {read read' : Day → Except StoreFault Totals}
variable {buckets buckets₁ buckets₂ : List Bucket}

theorem nil (none : ∀ d, ¬ has d) : ServesDays has read [] where
  increasing := .nil
  mem_iff b := by
    simp only [List.not_mem_nil, false_iff, not_exists]
    intro d h
    exact none d h.1
  answered d h := absurd h (none d)

theorem congr (h : ServesDays has₁ read buckets) (days : ∀ d, has₁ d ↔ has₂ d)
    (reads : ∀ d, has₂ d → read d = read' d) : ServesDays has₂ read' buckets where
  increasing := h.increasing
  mem_iff b := by
    rw [h.mem_iff]
    refine exists_congr fun d => ?_
    rw [days]
    exact and_congr_right fun hd => by rw [reads d hd]
  answered d hd := by
    rw [← reads d hd]
    exact h.answered d ((days d).mpr hd)

/-- Buckets of later days follow buckets of earlier ones. -/
theorem append (h₁ : ServesDays has₁ read buckets₁) (h₂ : ServesDays has₂ read buckets₂)
    (lt : ∀ d e, has₁ d → has₂ e → d < e) :
    ServesDays (fun d => has₁ d ∨ has₂ d) read (buckets₁ ++ buckets₂) where
  increasing := by
    rw [List.pairwise_append]
    refine ⟨h₁.increasing, h₂.increasing, fun a ha b hb => ?_⟩
    obtain ⟨d, hd, hstart, -⟩ := (h₁.mem_iff a).mp ha
    obtain ⟨e, he, hstop, -⟩ := (h₂.mem_iff b).mp hb
    rw [hstart, hstop, Instant.midnight_lt_iff]
    exact lt d e hd he
  mem_iff b := by
    rw [List.mem_append, h₁.mem_iff, h₂.mem_iff, ← exists_or]
    exact exists_congr fun d => or_and_right.symm
  answered d hd := hd.elim (h₁.answered d) (h₂.answered d)

/-- One start belongs to one day. -/
theorem read_of_mem (h : ServesDays has read buckets) {b : Bucket} (hb : b ∈ buckets) {d : Day}
    (hd : b.start = .midnight d) : has d ∧ read d = .ok b.totals := by
  obtain ⟨e, he, hstart, hread⟩ := (h.mem_iff b).mp hb
  have heq : e = d := by
    rw [← Instant.day_midnight e, ← hstart, hd, Instant.day_midnight]
  exact heq ▸ ⟨he, hread⟩

theorem exists_mem_iff (h : ServesDays has read buckets) (d : Day) :
    (∃ b ∈ buckets, b.start = .midnight d) ↔ has d := by
  constructor
  · rintro ⟨b, hb, hd⟩
    exact (h.read_of_mem hb hd).1
  · intro hd
    obtain ⟨totals, hread⟩ := h.answered d hd
    exact ⟨⟨.midnight d, totals⟩, (h.mem_iff _).mpr ⟨d, hd, rfl, hread⟩, rfl⟩

/-- What is read for a day is the bucket of the day with its totals. -/
theorem map_bucket_eq_ok_iff {result : Except StoreFault Totals} {d : Day} {b : Bucket} :
    (result.map fun totals => (⟨.midnight d, totals⟩ : Bucket)) = .ok b ↔
      b.start = .midnight d ∧ result = .ok b.totals := by
  cases result with
  | error e => simp only [Except.map, reduceCtorEq, and_false]
  | ok totals =>
      simp only [Except.map, Except.ok.injEq]
      constructor
      · rintro rfl
        exact ⟨rfl, rfl⟩
      · rintro ⟨hstart, rfl⟩
        rw [← hstart]

/-- Reading one bucket for each key serves the days of the keys, if the keys are
in the order of their days. -/
theorem of_mapM {κ : Type} {keys : List κ} (key : Day → κ) (before : κ → κ → Prop)
    {f : κ → Except StoreFault Bucket} (h : keys.mapM f = .ok buckets)
    (mem : ∀ k, k ∈ keys ↔ ∃ d, has d ∧ k = key d) (sorted : keys.Pairwise before)
    (lt : ∀ d e, has d → has e → before (key d) (key e) → d < e)
    (reads : ∀ d, has d → f (key d) = (read d).map fun totals => ⟨.midnight d, totals⟩) :
    ServesDays has read buckets := by
  rw [mapM_eq_ok_iff] at h
  have hread : ∀ d, has d → ∀ b : Bucket,
      f (key d) = .ok b ↔ b.start = .midnight d ∧ read d = .ok b.totals := by
    intro d hd b
    rw [reads d hd]
    exact map_bucket_eq_ok_iff
  have hmem : ∀ b, b ∈ buckets ↔ ∃ k ∈ keys, f k = .ok b := by
    intro b
    rw [← List.mem_map, h, List.mem_map]
    simp only [Except.ok.injEq, exists_eq_right]
  refine ⟨?_, fun b => ?_, fun d hd => ?_⟩
  · -- the order of the keys is that of their days, and hence of the starts
    have hpairs : (buckets.map (Except.ok (ε := StoreFault))).Pairwise fun x y =>
        ∀ a b, x = .ok a → y = .ok b → a.start < b.start := by
      rw [← h, List.pairwise_map]
      refine sorted.imp_of_mem ?_
      intro k l hk hl hbefore a b ha hb
      obtain ⟨d, hd, rfl⟩ := (mem k).mp hk
      obtain ⟨e, he, rfl⟩ := (mem l).mp hl
      rw [((hread d hd a).mp ha).1, ((hread e he b).mp hb).1, Instant.midnight_lt_iff]
      exact lt d e hd he hbefore
    rw [List.pairwise_map] at hpairs
    exact hpairs.imp fun h => h _ _ rfl rfl
  · rw [hmem]
    constructor
    · rintro ⟨k, hk, hb⟩
      obtain ⟨d, hd, rfl⟩ := (mem k).mp hk
      exact ⟨d, hd, (hread d hd b).mp hb⟩
    · rintro ⟨d, hd, hb⟩
      exact ⟨key d, (mem _).mpr ⟨d, hd, rfl⟩, (hread d hd b).mpr hb⟩
  · have hkey : f (key d) ∈ keys.map f := List.mem_map_of_mem ((mem _).mpr ⟨d, hd, rfl⟩)
    rw [h] at hkey
    obtain ⟨b, -, hb⟩ := List.mem_map.mp hkey
    exact ⟨b.totals, ((hread d hd b).mp hb.symm).2⟩

end ServesDays

/-! ## The days of the rollup -/

/-- Totals that are the sums of rows, measure by measure. -/
structure SumsOf (rows : List (RollupKey × Measures)) (totals : Totals) : Prop where
  /-- The pageviews are summed. -/
  pageviews : totals.pageviews = total (rows.map (·.2.count))
  /-- The visitors are summed. -/
  visitors : totals.visitors = total (rows.map (·.2.visitors))
  /-- The bounces are summed. -/
  bounces : totals.bounces = total (rows.map (·.2.bounces))

namespace Store

theorem sumRows_eq_ok_iff {rows : List (RollupKey × Measures)} {t : Totals} :
    sumRows rows = .ok t ↔
      SumsOf rows t ∧ t.pageviews < 2 ^ 63 ∧ t.visitors < 2 ^ 63 ∧ t.bounces < 2 ^ 63 := by
  simp only [sumRows, bind_eq_ok_iff, readTotal_eq_ok_iff, Except.ok.injEq]
  constructor
  · rintro ⟨p, ⟨hp, hplt⟩, v, ⟨hv, hvlt⟩, b, ⟨hb, hblt⟩, rfl⟩
    exact ⟨⟨hp.symm, hv.symm, hb.symm⟩, hplt, hvlt, hblt⟩
  · rintro ⟨h, hplt, hvlt, hblt⟩
    exact ⟨_, ⟨h.pageviews.symm, hplt⟩, _, ⟨h.visitors.symm, hvlt⟩, _, ⟨h.bounces.symm, hblt⟩,
      rfl⟩

/-- The daily rows are keyed at midnights of the years 0 to 9999. -/
def KeyedAtMidnights (s : Store) : Prop :=
  ∀ r ∈ s.dailyTable.rows, ∃ d : Day, r.1.bucket = .midnight d ∧ (Timestamp.midnight d).FourDigit

section Historic

variable {s : Store} {site : String} {range : Span} {d : Day} {r : RollupKey × Measures}

theorem mem_siteRowsAt :
    r ∈ s.siteRowsAt site d ↔
      r ∈ s.dailyTable.rows ∧ r.1.site = site ∧ r.1.bucket = .midnight d := by
  simp only [siteRowsAt, List.mem_filter, Bool.and_eq_true, beq_iff_eq]

theorem KeyedAtMidnights.fourDigit (h : s.KeyedAtMidnights) (hr : r ∈ s.siteRowsAt site d) :
    (Timestamp.midnight d).FourDigit := by
  obtain ⟨hr, -, hd⟩ := mem_siteRowsAt.mp hr
  obtain ⟨e, he, hyear⟩ := h r hr
  rwa [← hd, he]

/-- A day of the range on which a site has rows. -/
def HasRows (s : Store) (site : String) (range : Span) (d : Day) : Prop :=
  range.start.day ≤ d ∧ d ≤ range.stop.day ∧ s.siteRowsAt site d ≠ []

/-- If the rows of a range can be read and there are any, the store takes its end. -/
theorem HasRows.storable (h : s.HasRows site range d)
    (accepted : ¬ range.fromMidnight.FailsAmong (s.siteBuckets site)) : range.stop.Storable := by
  by_contra hstop
  obtain ⟨hfrom, -, hrows⟩ := h
  obtain ⟨r, hr⟩ := List.exists_mem_of_ne_nil _ hrows
  obtain ⟨hr, hsite, hd⟩ := mem_siteRowsAt.mp hr
  have hbucket : .midnight d ∈ s.siteBuckets site :=
    List.mem_map.mpr ⟨r, List.mem_filter.mpr ⟨hr, beq_iff_eq.mpr hsite⟩, hd⟩
  refine accepted ⟨fun hrange => hstop hrange.2, _, hbucket, fun _ => ?_, fun h => absurd h hstop⟩
  rw [Span.fromMidnight, Instant.toTimestamp_midnight, Timestamp.le_iff]
  rw [Day.le_iff] at hfrom
  simp only [Timestamp.midnight, Timestamp.dayMicros]
  omega

/-- If the rows of a range can be read and the store does not take its end, there are none. -/
theorem siteRowsIn_eq_nil (accepted : ¬ range.fromMidnight.FailsAmong (s.siteBuckets site))
    (hstop : ¬ range.stop.Storable) : s.siteRowsIn site range = [] := by
  by_contra hne
  obtain ⟨r, hr⟩ := List.exists_mem_of_ne_nil _ hne
  exact hstop (storable_of_mem_siteRowsIn accepted hr).2

theorem HasRows.fourDigit (h : s.HasRows site range d) (keyed : s.KeyedAtMidnights) :
    (Timestamp.midnight d).FourDigit := by
  obtain ⟨r, hr⟩ := List.exists_mem_of_ne_nil _ h.2.2
  exact keyed.fourDigit hr

/-- The rows of a range are those of its days. -/
theorem KeyedAtMidnights.mem_siteRowsIn (h : s.KeyedAtMidnights) (hstop : range.stop.Storable) :
    r ∈ s.siteRowsIn site range ↔
      ∃ d, range.start.day ≤ d ∧ d ≤ range.stop.day ∧ r ∈ s.siteRowsAt site d := by
  simp only [siteRowsIn, List.mem_filter, Bool.and_eq_true, beq_iff_eq, mem_siteRowsAt]
  constructor
  · rintro ⟨hr, hsite, hwithin⟩
    obtain ⟨d, hd, -⟩ := h r hr
    rw [hd, Timestamp.within_midnight_iff hstop] at hwithin
    exact ⟨d, hwithin.1, hwithin.2, hr, hsite, hd⟩
  · rintro ⟨d, hfrom, hto, hr, hsite, hd⟩
    refine ⟨hr, hsite, ?_⟩
    rw [hd, Timestamp.within_midnight_iff hstop]
    exact ⟨hfrom, hto⟩

/-- The texts of the buckets of a range are those of the days that have rows. -/
theorem KeyedAtMidnights.mem_texts (h : s.KeyedAtMidnights) (hstop : range.stop.Storable)
    {text : String} :
    text ∈ (distinct ((s.siteRowsIn site range).map (·.1.bucket.bucketText))).mergeSort (· ≤ ·) ↔
      ∃ d, s.HasRows site range d ∧ text = (Timestamp.midnight d).bucketText := by
  rw [List.mem_mergeSort, mem_distinct, List.mem_map]
  constructor
  · rintro ⟨r, hr, rfl⟩
    obtain ⟨d, hfrom, hto, hr⟩ := (h.mem_siteRowsIn hstop).mp hr
    refine ⟨d, ⟨hfrom, hto, List.ne_nil_of_mem hr⟩, ?_⟩
    rw [(mem_siteRowsAt.mp hr).2.2]
  · rintro ⟨d, ⟨hfrom, hto, hrows⟩, rfl⟩
    obtain ⟨r, hr⟩ := List.exists_mem_of_ne_nil _ hrows
    refine ⟨r, (h.mem_siteRowsIn hstop).mpr ⟨d, hfrom, hto, hr⟩, ?_⟩
    rw [(mem_siteRowsAt.mp hr).2.2]

/-- Within a range, the text of a day selects the rows of the day. -/
theorem KeyedAtMidnights.filter_siteRowsIn (h : s.KeyedAtMidnights) (hstop : range.stop.Storable)
    (hd : s.HasRows site range d) :
    (s.siteRowsIn site range).filter
        (fun r => r.1.bucket.bucketText == (Timestamp.midnight d).bucketText) =
      s.siteRowsAt site d := by
  rw [siteRowsIn, siteRowsAt, List.filter_filter]
  refine List.filter_congr fun r hr => ?_
  obtain ⟨e, he, hyear⟩ := h r hr
  rw [Bool.eq_iff_iff]
  simp only [Bool.and_eq_true, beq_iff_eq, he, Timestamp.within_midnight_iff hstop]
  constructor
  · rintro ⟨htext, hsite, -⟩
    obtain rfl := Timestamp.bucketText_midnight_injective hyear (hd.fourDigit h) htext
    exact ⟨hsite, rfl⟩
  · rintro ⟨hsite, hmidnight⟩
    obtain rfl := Timestamp.midnight_injective hmidnight
    exact ⟨rfl, hsite, hd.1, hd.2.1⟩

theorem KeyedAtMidnights.historicBucket_eq (h : s.KeyedAtMidnights)
    (hstop : range.stop.Storable) (hd : s.HasRows site range d) :
    historicBucket (s.siteRowsIn site range) (Timestamp.midnight d).bucketText =
      (sumRows (s.siteRowsAt site d)).map fun totals => ⟨.midnight d, totals⟩ := by
  have hread := Timestamp.ofStoredText?_midnight (hd.fourDigit h)
  rw [historicBucket, h.filter_siteRowsIn hstop hd, hread]
  cases sumRows (s.siteRowsAt site d) with
  | error e => rfl
  | ok totals => rfl

/-- **The rollup serves the days of a range on which a site has rows**, each with
the sums of all of them. -/
theorem historicBuckets_serve (keyed : s.KeyedAtMidnights) {buckets : List Bucket}
    (h : s.historicBuckets site range = .ok buckets) :
    ServesDays (s.HasRows site range) (fun d => sumRows (s.siteRowsAt site d)) buckets := by
  rw [historicBuckets, bind_eq_ok_iff] at h
  obtain ⟨rows, hrows, h⟩ := h
  obtain ⟨-, accepted, rfl⟩ := siteRows_eq_ok_iff.mp hrows
  by_cases hstop : range.stop.Storable
  swap
  · -- nothing got as far as to be compared with the end
    have hread : (.ok [] : Except StoreFault (List Bucket)) = .ok buckets := by
      rw [siteRowsIn_eq_nil accepted hstop, List.map_nil, show distinct ([] : List String) = [] from
        rfl, List.mergeSort_nil, List.mapM_nil] at h
      exact h
    rw [← Except.ok.inj hread]
    exact ServesDays.nil fun d hd => hstop (hd.storable accepted)
  refine ServesDays.of_mapM (fun d => (Timestamp.midnight d).bucketText) (· < ·) h
    (fun text => keyed.mem_texts hstop) ?_ ?_ ?_
  · refine pairwise_mergeSort_distinct ?_ ?_ ?_ _
    · intro a b c hab hbc
      simp only [decide_eq_true_eq] at hab hbc ⊢
      exact le_trans hab hbc
    · intro a b
      simp only [Bool.or_eq_true, decide_eq_true_eq]
      exact le_total a b
    · intro a b hab hne
      simp only [decide_eq_true_eq] at hab
      exact lt_of_le_of_ne hab hne
  · intro d e hd he hlt
    exact (Timestamp.bucketText_midnight_lt_iff (hd.fourDigit keyed) (he.fourDigit keyed)).mp hlt
  · intro d hd
    exact keyed.historicBucket_eq hstop hd

end Historic

/-! ## The days of the facts -/

section Live

variable {s : Store} {site : String} {range : Span} {d : Day} {f : Fact}

/-- The facts of a site on a day that lie in a range. -/
def siteFactsIn (s : Store) (site : String) (range : Span) (d : Day) : List Fact :=
  (s.siteFactsOn site d).filter fun f =>
    f.time.within range.start.toTimestamp range.stop.toTimestamp

theorem mem_siteFactsIn :
    f ∈ s.siteFactsIn site range d ↔
      f ∈ s.siteFactsOn site d ∧
        f.time.within range.start.toTimestamp range.stop.toTimestamp = true :=
  List.mem_filter

/-- Within a range, the midnight of a day selects the facts of the day. -/
theorem filter_siteFactsWithin :
    (s.siteFactsWithin site range).filter (·.time.truncate .day == .midnight d) =
      s.siteFactsIn site range d := by
  rw [siteFactsWithin, siteFactsIn, siteFactsOn, factsOn, List.filter_filter, List.filter_filter,
    List.filter_filter]
  refine List.filter_congr fun f _ => ?_
  rw [Bool.eq_iff_iff]
  simp only [Bool.and_eq_true, beq_iff_eq, decide_eq_true_eq,
    Timestamp.truncate_day_eq_midnight_iff]
  exact ⟨fun h => ⟨⟨h.2.2, h.2.1⟩, h.1⟩, fun h => ⟨h.2, h.1.2, h.1.1⟩⟩

theorem fourDigit_of_siteFactsIn (years : ∀ f ∈ s.factList, f.time.FourDigit)
    (h : s.siteFactsIn site range d ≠ []) : (Timestamp.midnight d).FourDigit := by
  refine fourDigit_midnight (fun f hf => ?_) h fun f hf => ?_
  · exact years f (mem_siteFactsOn.mp (mem_siteFactsIn.mp hf).1).1
  · exact (mem_siteFactsOn.mp (mem_siteFactsIn.mp hf).1).2.1

/-- The buckets of a range start on the days that have facts in it. -/
theorem mem_bucketsOf_day (years : ∀ f ∈ s.factList, f.time.FourDigit) {t : Timestamp} :
    t ∈ bucketsOf .day (s.siteFactsWithin site range) ↔
      ∃ d, s.siteFactsIn site range d ≠ [] ∧ t = .midnight d := by
  rw [bucketsOf, List.mem_mergeSort, mem_distinct, List.mem_map]
  constructor
  · rintro ⟨f, hf, rfl⟩
    obtain ⟨d, hd, -⟩ := (years f (List.mem_filter.mp hf).1).exists_onDay
    have hmidnight := Timestamp.truncate_day_eq_midnight_iff.mpr hd
    refine ⟨d, List.ne_nil_of_mem (a := f) ?_, hmidnight⟩
    rw [← filter_siteFactsWithin, List.mem_filter, beq_iff_eq]
    exact ⟨hf, hmidnight⟩
  · rintro ⟨d, hd, rfl⟩
    obtain ⟨f, hf⟩ := List.exists_mem_of_ne_nil _ hd
    rw [← filter_siteFactsWithin, List.mem_filter, beq_iff_eq] at hf
    exact ⟨f, hf⟩

theorem pairwise_bucketsOf (g : Granularity) (facts : List Fact) :
    (bucketsOf g facts).Pairwise (· < ·) :=
  pairwise_distinct_timestamps _

/-- A day of the range on which a site has facts in the range. -/
def HasFacts (s : Store) (site : String) (range : Span) (d : Day) : Prop :=
  range.start.day ≤ d ∧ d ≤ range.stop.day ∧ s.siteFactsIn site range d ≠ []

/-- Facts in a range that can be read lie on its days. -/
theorem hasFacts_iff (accepted : ¬ range.FailsAmong (s.siteTimes site)) :
    s.HasFacts site range d ↔ s.siteFactsIn site range d ≠ [] := by
  refine ⟨fun h => h.2.2, fun h => ?_⟩
  obtain ⟨f, hf⟩ := List.exists_mem_of_ne_nil _ h
  obtain ⟨hon, hwithin⟩ := mem_siteFactsIn.mp hf
  obtain ⟨hlist, hday, hsite⟩ := mem_siteFactsOn.mp hon
  obtain ⟨hstart, hstop⟩ := range.storable_of_within accepted
    (mem_siteTimes_of_mem (mem_siteFactsWithin.mpr ⟨hlist, hsite, hwithin⟩)) hwithin
  obtain ⟨hfrom, hto⟩ := hday.of_within hstart hstop hwithin
  exact ⟨hfrom, hto, h⟩

/-- What is made of one bucket of the facts in a range. -/
theorem liveBucket_eq (years : ∀ f ∈ s.factList, f.time.FourDigit)
    (h : s.siteFactsIn site range d ≠ []) :
    (do
      let start ← (Timestamp.midnight d).readBucket
      let totals ← countFacts
        ((s.siteFactsWithin site range).filter (·.time.truncate .day == .midnight d))
      .ok ⟨start, totals⟩ : Except StoreFault Bucket) =
      (countFacts (s.siteFactsIn site range d)).map fun totals => ⟨.midnight d, totals⟩ := by
  rw [Timestamp.readBucket_midnight (fourDigit_of_siteFactsIn years h), filter_siteFactsWithin]
  cases countFacts (s.siteFactsIn site range d) with
  | error e => rfl
  | ok totals => rfl

/-- **The facts serve the days of a range that have facts in it**, each with the
totals of exactly these. -/
theorem liveBuckets_serve (years : ∀ f ∈ s.factList, f.time.FourDigit) {buckets : List Bucket}
    (h : s.liveBuckets site range .day = .ok buckets) :
    ServesDays (s.HasFacts site range) (fun d => countFacts (s.siteFactsIn site range d))
      buckets := by
  rw [liveBuckets, bind_eq_ok_iff] at h
  obtain ⟨facts, hfacts, h⟩ := h
  obtain ⟨-, accepted, rfl⟩ := siteFacts_eq_ok_iff.mp hfacts
  refine ServesDays.of_mapM Timestamp.midnight (· < ·) h ?_ (pairwise_bucketsOf .day _) ?_ ?_
  · intro t
    simp only [hasFacts_iff accepted]
    exact mem_bucketsOf_day years
  · intro d e _ _ hlt
    simp only [Timestamp.lt_iff, Timestamp.midnight, Timestamp.dayMicros] at hlt
    rw [Day.lt_iff]
    omega
  · intro d hd
    exact liveBucket_eq years hd.2.2

end Live

end Store

end Footfall
