import Mathlib
import Footfall.Proofs.Service.Ranges
import Footfall.Proofs.Stats.Filling
import Footfall.Service.Endpoints
import Footfall.Stats.Breakdown

/-!
# Ranges of dates

A request that names its range by two dates gets the days from one to the other, whole.
The range ends a microsecond before midnight, so all moments of the last day are in it
that the store can tell apart, and none of the next day is.  Counted in days a range has
a bucket for each date, and ranges that adjoin share no moment and leave none out.

## Main Definitions

* `Span.ofDays` — the range of the days from one to another
* `PointPerDay` — a series with one point for each date
* `Span.WholeDays`, `Span.Adjoins` — a range has whole days, and two ranges make up a third

## Main Statements

* `Span.wholeDays_ofDays`, `Span.adjoins_ofDays` — so it is for ranges of days
* `StatsParams.dates_select_whole_days` — these are the ranges of requests that name dates
-/

namespace Footfall

/-! ## Moments and days -/

/-- The range of the days from one to another. -/
def Span.ofDays (first last : Day) : Span :=
  ⟨.midnight first, .endOfDay last⟩

/-- **An instant lies in a range of days if its day is one of them.** -/
theorem Instant.Exact.contains_ofDays_iff {t : Instant} (exact : t.Exact) {first last : Day} :
    (Span.ofDays first last).Contains t ↔ first ≤ t.day ∧ t.day ≤ last :=
  and_congr Instant.midnight_le_iff exact.le_endOfDay_iff

/-- **So does a moment of the store.** -/
theorem Timestamp.within_ofDays_iff {t : Timestamp} {first last : Day} :
    t.within (Span.ofDays first last).start.toTimestamp
        (Span.ofDays first last).stop.toTimestamp = true ↔
      first.number ≤ t.dayNumber ∧ t.dayNumber ≤ last.number := by
  simp only [within, Span.ofDays, Instant.toTimestamp, Instant.endOfDay, Instant.midnight_seconds,
    Instant.midnight_nanos, le_iff, dayNumber, dayMicros, Bool.and_eq_true, decide_eq_true_eq]
  omega

/-! ## Facts of days -/

/-- Whether a fact of a site lies on one of the days. -/
def Fact.ofDays (site : String) (first last : Day) (f : Fact) : Bool :=
  f.ofSite site && decide (first.number ≤ f.time.dayNumber ∧ f.time.dayNumber ≤ last.number)

section Facts

variable {first mid next last : Day}

theorem Fact.ofDays_iff {site : String} {f : Fact} :
    ofDays site first last f = true ↔ f.ofSite site = true ∧
      first.number ≤ f.time.dayNumber ∧ f.time.dayNumber ≤ last.number := by
  rw [ofDays, Bool.and_eq_true, decide_eq_true_eq]

/-- Days that adjoin part the facts of all of them. -/
theorem Fact.filter_ofDays_perm (hmid : first ≤ mid) (hnext : mid.next? = some next)
    (hlast : next ≤ last) (site : String) (facts : List Fact) :
    (facts.filter (ofDays site first last)).Perm
      (facts.filter (ofDays site first mid) ++ facts.filter (ofDays site next last)) := by
  have hnumber := Day.number_of_next? hnext
  rw [Day.le_iff] at hmid hlast
  have hparts := List.filter_append_perm (fun f : Fact => decide (f.time.dayNumber ≤ mid.number))
    (facts.filter (ofDays site first last))
  rw [List.filter_filter, List.filter_filter] at hparts
  have hleft : facts.filter (fun f => decide (f.time.dayNumber ≤ mid.number) &&
      ofDays site first last f) = facts.filter (ofDays site first mid) := by
    refine List.filter_congr fun f _ => ?_
    rw [Bool.eq_iff_iff, Bool.and_eq_true, decide_eq_true_eq, ofDays_iff, ofDays_iff]
    constructor
    · rintro ⟨hle, hsite, hfrom, -⟩
      exact ⟨hsite, hfrom, hle⟩
    · rintro ⟨hsite, hfrom, hle⟩
      exact ⟨hle, hsite, hfrom, by omega⟩
  have hright : facts.filter (fun f => !decide (f.time.dayNumber ≤ mid.number) &&
      ofDays site first last f) = facts.filter (ofDays site next last) := by
    refine List.filter_congr fun f _ => ?_
    rw [Bool.eq_iff_iff, Bool.and_eq_true, Bool.not_eq_true', decide_eq_false_iff_not,
      ofDays_iff, ofDays_iff]
    constructor
    · rintro ⟨hgt, hsite, -, hto⟩
      exact ⟨hsite, by omega, hto⟩
    · rintro ⟨hsite, hfrom, hto⟩
      exact ⟨by omega, hsite, by omega, hto⟩
  rw [hleft, hright] at hparts
  exact hparts.symm

/-- No fact lies on days of both. -/
theorem Fact.ofDays_eq_false (hnext : mid.next? = some next) {site : String} {f : Fact}
    (h : ofDays site first mid f = true) : ofDays site next last f = false := by
  have hnumber := Day.number_of_next? hnext
  have hmid := (ofDays_iff.mp h).2.2
  refine Bool.eq_false_iff.mpr fun hnext => ?_
  have hle := (ofDays_iff.mp hnext).2.1
  omega

end Facts

namespace Store

variable {first last : Day} (storable : last.Storable) (order : first ≤ last)
include storable order

/-- **A range of days selects the facts of its days.** -/
theorem siteFacts_ofDays (s : Store) (site : String) :
    s.siteFacts site (.ofDays first last) =
      s.factRows.map (·.filter (Fact.ofDays site first last)) := by
  have hrange : (Span.ofDays first last).Storable :=
    ⟨Instant.storable_midnight_iff.mpr (storable.of_le order),
      Instant.storable_endOfDay_iff.mpr storable⟩
  rw [siteFacts]
  cases s.factRows with
  | error e => rfl
  | ok facts =>
      rw [ok_bind, selectRows_cons_ok]
      refine (Span.selects_iff _ _).mpr ⟨hrange.not_failsAmong, ?_⟩
      rw [List.filter_filter]
      refine List.filter_congr fun f _ => ?_
      rw [Bool.eq_iff_iff, Bool.and_eq_true, Fact.ofDays_iff, ← Timestamp.within_ofDays_iff,
        Fact.ofSite, beq_iff_eq, and_comm]

theorem countPageviews_ofDays (s : Store) (site : String) :
    s.countPageviews site (.midnight first) (.endOfDay last) =
      (s.factRows.map fun facts => (facts.filter (Fact.ofDays site first last)).length).mapError
        .query := by
  have hrange : checkRange (.midnight first) (.endOfDay last) = .ok () :=
    checkRange_eq_ok_iff.mpr (Instant.midnight_le_endOfDay_iff.mpr order)
  have hfacts := siteFacts_ofDays storable order s site
  rw [Span.ofDays] at hfacts
  rw [countPageviews, hrange, hfacts]
  cases s.factRows <;> rfl

end Store

/-! ## Points of days -/

/-- **A series has one point for each date**, in their order. -/
structure PointPerDay (first last : Day) (points : List Point) : Prop where
  /-- There are as many points as days. -/
  length_eq : (points.length : ℤ) = last.number - first.number + 1
  /-- They are in order, and none is repeated. -/
  increasing : (points.map (·.time)).Pairwise (· < ·)
  /-- Their times are the midnights of the days. -/
  mem_iff : ∀ t, t ∈ points.map (·.time) ↔ ∃ d, first ≤ d ∧ d ≤ last ∧ t = .midnight d

namespace Granularity

variable {first last : Day}

theorem bucketCount_day_ofDays :
    day.bucketCount (.midnight first) (.endOfDay last) = last.number - first.number + 1 := by
  rw [bucketCount_eq]
  simp only [numberOf, Instant.endOfDay, Instant.midnight_seconds]
  omega

theorem bucketCount_hour_ofDays :
    hour.bucketCount (.midnight first) (.endOfDay last) =
      24 * (last.number - first.number + 1) := by
  rw [bucketCount_eq]
  simp only [numberOf, Instant.endOfDay, Instant.midnight_seconds]
  omega

/-- The boundaries of a range of days are their midnights. -/
theorem mem_boundaries_ofDays {t : Instant} :
    t ∈ day.boundaries (.midnight first) (.endOfDay last) ↔
      ∃ d, first ≤ d ∧ d ≤ last ∧ t = .midnight d := by
  have hfirst : day.numberOf (Instant.midnight first).seconds = first.number := by
    simp only [numberOf, Instant.midnight_seconds]
    omega
  have hlast : day.numberOf (Instant.endOfDay last).seconds = last.number := by
    simp only [numberOf, Instant.endOfDay]
    omega
  rw [mem_boundaries, hfirst, hlast]
  constructor
  · rintro ⟨n, hfrom, hto, hstarts⟩
    have hlow := first.first_le
    have hhigh := last.le_last
    exact ⟨⟨n, by omega, by omega⟩, hfrom, hto, hstarts.unique ⟨rfl, rfl⟩⟩
  · rintro ⟨d, hfrom, hto, rfl⟩
    exact ⟨d.number, hfrom, hto, rfl, rfl⟩

/-- **A filled series of days has one point for each date.** -/
theorem pointPerDay (order : first ≤ last) (buckets : List Bucket) :
    PointPerDay first last
      (day.densify (buckets.map Bucket.point) (.midnight first) (.endOfDay last)) := by
  have htimes := times_filled buckets (day.boundaries (.midnight first) (.endOfDay last))
  rw [densify_eq_map_bucketAt]
  refine ⟨?_, ?_, fun t => ?_⟩
  · rw [List.length_map, List.length_map,
      length_boundaries (Instant.midnight_le_endOfDay_iff.mpr order), bucketCount_day_ofDays]
  · rw [htimes]
    exact pairwise_walk _ _ _
  · rw [htimes, mem_boundaries_ofDays]

end Granularity

/-! ## Ranges of days -/

namespace Span

/-- **A range has whole days**, from the first to the last. -/
structure WholeDays (range : Span) (first last : Day) : Prop where
  /-- An instant is in it if its day is. -/
  contains_iff : ∀ t : Instant, t.Exact → (range.Contains t ↔ first ≤ t.day ∧ t.day ≤ last)
  /-- It has a bucket for each day. -/
  days : Granularity.day.bucketCount range.start range.stop = last.number - first.number + 1
  /-- It has twenty-four for each day, if they are hours. -/
  hours : Granularity.hour.bucketCount range.start range.stop =
    24 * (last.number - first.number + 1)
  /-- It selects the facts of its days. -/
  facts : ∀ (s : Store) (site : String),
    s.siteFacts site range = s.factRows.map (·.filter (Fact.ofDays site first last))
  /-- A series that is served is filled to one point for each date. -/
  points : ∀ (s : Store) (site : String) (now : Instant) (points : List Point),
    s.series site range.start range.stop .day now = .ok points →
      PointPerDay first last (Granularity.day.densify points range.start range.stop)
  /-- A range of more days than a series may have buckets is refused. -/
  refused : (Granularity.maxBuckets : ℤ) < last.number - first.number + 1 →
    ∀ (s : Store) (site : String) (now : Instant),
      s.series site range.start range.stop .day now =
        .error (.invalidInput (.tooManyBuckets (last.number - first.number + 1) .day))

/-- **Two ranges make up a third.** -/
structure Adjoins (left right whole : Span) : Prop where
  /-- No instant is in both. -/
  disjoint : ∀ t : Instant, ¬ (left.Contains t ∧ right.Contains t)
  /-- They select the facts of the whole, and none of them twice. -/
  facts : ∀ (s : Store) (site : String) (all : List Fact), s.siteFacts site whole = .ok all →
    ∃ front back, s.siteFacts site left = .ok front ∧ s.siteFacts site right = .ok back ∧
      all.Perm (front ++ back) ∧ ∀ f ∈ front, f ∉ back
  /-- Their pageviews add up, and they fail together. -/
  counts : ∀ (s : Store) (site : String), s.countPageviews site whole.start whole.stop = (do
    .ok ((← s.countPageviews site left.start left.stop) +
      (← s.countPageviews site right.start right.stop)))

variable {first mid next last : Day}

/-- **A range of days has whole days**, up to the last one that the store can keep. -/
theorem wholeDays_ofDays (order : first ≤ last) (storable : last.Storable) :
    (ofDays first last).WholeDays first last where
  contains_iff _ exact := exact.contains_ofDays_iff
  days := Granularity.bucketCount_day_ofDays
  hours := Granularity.bucketCount_hour_ofDays
  facts s site := Store.siteFacts_ofDays storable order s site
  points s site now points h := by
    obtain ⟨buckets, -, rfl⟩ := Store.series_eq_ok_iff.mp h
    exact Granularity.pointPerDay order buckets
  refused many s site now := by
    have hrange : checkRange (.midnight first) (.endOfDay last) = .ok () :=
      checkRange_eq_ok_iff.mpr (Instant.midnight_le_endOfDay_iff.mpr order)
    rw [ofDays, Store.series, Store.buckets, hrange]
    simp only [checkBuckets, Granularity.bucketCount_day_ofDays, if_pos many]
    rfl

/-- **Ranges of days that adjoin make up the range of all their days.** -/
theorem adjoins_ofDays (hmid : first ≤ mid) (hnext : mid.next? = some next) (hlast : next ≤ last)
    (storable : last.Storable) :
    (ofDays first mid).Adjoins (ofDays next last) (ofDays first last) := by
  have hnumber := Day.number_of_next? hnext
  have hforward : mid ≤ next := by
    rw [Day.le_iff]
    omega
  have hmidLast : mid ≤ last := Int.le_trans hforward hlast
  have hall : first ≤ last := Int.le_trans hmid hmidLast
  have hleft := storable.of_le hmidLast
  refine ⟨fun t ⟨hin, hout⟩ => ?_, fun s site all h => ?_, fun s site => ?_⟩
  · have hle : t.day ≤ mid := Instant.le_endOfDay hin.2
    have hge : next ≤ t.day := Instant.midnight_le_iff.mp hout.1
    rw [Day.le_iff] at hle hge
    omega
  · rw [Store.siteFacts_ofDays storable hall] at h
    rw [Store.siteFacts_ofDays hleft hmid, Store.siteFacts_ofDays storable hlast]
    cases hfacts : s.factRows with
    | error e =>
        rw [hfacts] at h
        cases h
    | ok facts =>
        rw [hfacts] at h
        obtain rfl := Except.ok.inj h
        refine ⟨_, _, rfl, rfl, Fact.filter_ofDays_perm hmid hnext hlast site facts,
          fun f hf hback => ?_⟩
        rw [List.mem_filter] at hf hback
        rw [Fact.ofDays_eq_false hnext hf.2] at hback
        cases hback.2
  · simp only [ofDays]
    rw [Store.countPageviews_ofDays storable hall, Store.countPageviews_ofDays hleft hmid,
      Store.countPageviews_ofDays storable hlast]
    cases s.factRows with
    | error e => rfl
    | ok facts =>
        have hlength := (Fact.filter_ofDays_perm hmid hnext hlast site facts).length_eq
        rw [List.length_append] at hlength
        simp only [Except.map, Except.mapError, ok_bind, hlength]

end Span

/-! ## Requests -/

/-- A request names its range by two dates. -/
structure StatsParams.NamesDays (p : StatsParams) (first last : Day) : Prop where
  /-- The start is the text of the first day. -/
  start : p.start = some first.text
  /-- The end is the text of the last day. -/
  stop : p.stop = some last.text

section Requests

variable {first last : Day}

theorem Day.Storable.ne_last (h : last.Storable) : last ≠ Day.last := by
  rintro rfl
  exact absurd h (by decide)

/-- **Dates name the range of their days.** -/
theorem StatsParams.NamesDays.range_eq {p : StatsParams} (names : p.NamesDays first last)
    (storable : last.Storable) (now : Instant) : p.range now = .ok (.ofDays first last) := by
  rw [range_of_bounds names.start names.stop, Bound.parse_start_text,
    Bound.parse_stop_text storable.ne_last]
  rfl

/-- A request that is read has the range of its parameters. -/
theorem StatsRequest.range_of_read {r : Request} {q : StatsRequest} {now : Instant}
    (h : read now r = .ok q) : q.params.range now = .ok q.range := by
  simp only [read, bind_eq_ok_iff, mapError_eq_ok_iff, Except.ok.injEq] at h
  obtain ⟨params, -, _, -, range, hrange, rfl⟩ := h
  exact hrange

/-- **The series of a request for days has one point for each date.** -/
theorem Service.pointPerDay_of_timeseries {v : Service} {r : Request} {q : StatsRequest}
    {now : Instant} {answer : Response} (order : first ≤ last) (storable : last.Storable)
    (read : StatsRequest.read now r = .ok q) (names : q.params.NamesDays first last)
    (days : q.params.granularityOf = .ok .day) (h : v.timeseries now r = .ok answer) :
    ∃ points, answer = regular (.array (points.map Point.json)) ∧
      PointPerDay first last points := by
  have hrange : q.range = .ofDays first last :=
    Except.ok.inj ((StatsRequest.range_of_read read).symm.trans (names.range_eq storable now))
  rw [timeseries, read, ok_bind, days, hrange] at h
  simp only [Except.mapError, ok_bind] at h
  cases hseries : v.store.series q.params.site (Span.ofDays first last).start
      (Span.ofDays first last).stop .day now with
  | error e =>
      rw [hseries] at h
      cases h
  | ok points =>
      rw [hseries] at h
      exact ⟨_, (Except.ok.inj h).symm,
        (Span.wholeDays_ofDays order storable).points _ _ _ _ hseries⟩

end Requests

namespace StatsParams

/-- **Dates select whole days**, up to the last day that the store can keep.  The range has all
moments of its days and no others, a point for each of them if its series is served, and it is
made up by the ranges of dates that adjoin. -/
theorem dates_select_whole_days {first last : Day} (order : first ≤ last)
    (storable : last.Storable) {p : StatsParams} (names : p.NamesDays first last)
    (now : Instant) :
    ∃ range, p.range now = .ok range ∧ range.WholeDays first last ∧
      (∀ (v : Service) (r : Request) (q : StatsRequest) (answer : Response),
        StatsRequest.read now r = .ok q → q.params = p → p.granularityOf = .ok .day →
        v.timeseries now r = .ok answer →
        ∃ points, answer = regular (.array (points.map Point.json)) ∧
          PointPerDay first last points) ∧
      ∀ (mid next : Day) (left right : StatsParams), first ≤ mid → mid.next? = some next →
        next ≤ last → left.NamesDays first mid → right.NamesDays next last →
        ∃ front back, left.range now = .ok front ∧ right.range now = .ok back ∧
          front.Adjoins back range := by
  refine ⟨_, names.range_eq storable now, Span.wholeDays_ofDays order storable, ?_, ?_⟩
  · rintro v r q answer hread rfl hdays hanswer
    exact Service.pointPerDay_of_timeseries order storable hread names hdays hanswer
  · intro mid next left right hmid hnext hlast hleft hright
    have hforward : mid ≤ last := by
      have hnumber := Day.number_of_next? hnext
      rw [Day.le_iff] at hlast ⊢
      omega
    exact ⟨_, _, hleft.range_eq (storable.of_le hforward) now, hright.range_eq storable now,
      Span.adjoins_ofDays hmid hnext hlast storable⟩

/-- A request for the days around a leap day. -/
def leapDays : StatsParams where
  site := "blog"
  start := some "2024-02-28"
  stop := some "2024-03-01"

theorem range_of_leapDays :
    leapDays.NamesDays ⟨19781, by decide, by decide⟩ ⟨19783, by decide, by decide⟩ ∧
      ∃ range, leapDays.range (.midnight requestDay) = .ok range ∧
        range.WholeDays ⟨19781, by decide, by decide⟩ ⟨19783, by decide, by decide⟩ ∧
        Granularity.day.bucketCount range.start range.stop = 3 := by
  have hnames : leapDays.NamesDays ⟨19781, by decide, by decide⟩ ⟨19783, by decide, by decide⟩ :=
    ⟨by decide +kernel, by decide +kernel⟩
  obtain ⟨range, hrange, hwhole, -⟩ :=
    dates_select_whole_days (by decide) (by decide) hnames (.midnight requestDay)
  exact ⟨hnames, range, hrange, hwhole, hwhole.days⟩

end StatsParams

end Footfall
