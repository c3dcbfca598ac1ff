import Mathlib
import Footfall.Proofs.Stats.Additivity
import Footfall.Proofs.Stats.Listing

/-!
# Ranges that the store refuses

A request is checked before the store is touched, and a range that passes is handed to the
store as two texts.  The checks do not ask whether the store takes these texts.  It takes
neither a leap second nor a year after 9999, so with such a bound a query that passes its
checks fails in the store as soon as a fact of the site, or a row of the rollup, gets as far as
to be compared with it.

Nothing else goes wrong there.  All that visits leave behind bears times that the store
took, so it can be read back, whatever is asked for.

## Main Definitions

* `Timestamp.Readable` — a moment of a year up to 9999, before the year 0 included
* `Split.Storable` — a split range whose parts the store takes
* `Store.FailsOnSplit` — a part of a split range fails at a row or at a fact
* `FailsIff` — a query fails in the store in one case, and else is answered or refused
* `Store.Answerable` — a store that can read back what it holds
* `Store.FailsOnBounds` — when each query fails

## Main Statements

* `Account.Balanced.answerable`, `Store.answerable_runAll` — a reachable store can read back
  what it holds
* `Store.queries_fail_on_bounds` — only such a bound makes a query fail
-/

namespace Footfall

/-! ## Moments that can be read back -/

/-- The moment lies on a day of the calendar that the store can keep. -/
def Timestamp.Readable (t : Timestamp) : Prop :=
  ∃ d : Day, t.OnDay d ∧ d.Storable

/-- A stored instant can be read back. -/
theorem Instant.readable_toTimestamp {t : Instant} (h : t.Storable) : t.toTimestamp.Readable :=
  ⟨t.day, dayNumber_toTimestamp h, h.2⟩

namespace Timestamp.Readable

variable {t : Timestamp}

theorem year_le (h : t.Readable) : (Civil.ofDayNumber t.dayNumber).year ≤ 9999 := by
  obtain ⟨d, hd, storable⟩ := h
  rw [show t.dayNumber = d.number from hd]
  exact storable

/-- The calendar has every second of the moment's day. -/
theorem exists_ofParts (h : t.Readable) {nanos : ℕ} (hn : nanos < 1000000000) :
    ∃ i, Instant.ofParts? (t.micros / 1000000) nanos = some i := by
  obtain ⟨d, hd, -⟩ := h
  have hfirst := d.first_le
  have hlast := d.le_last
  simp only [OnDay, dayNumber, dayMicros] at hd
  exact ⟨⟨t.micros / 1000000, nanos, by omega, by omega, by omega, by omega⟩,
    Instant.ofParts?_eq_some_iff.mpr ⟨rfl, rfl⟩⟩

theorem exists_ofStoredText (h : t.Readable) :
    ∃ i, Instant.ofStoredText? t.bucketText = some i := by
  rw [ofStoredText?_bucketText h.year_le]
  exact h.exists_ofParts (by decide)

theorem exists_readBucket (h : t.Readable) : ∃ i, t.readBucket = .ok i := by
  obtain ⟨i, hi⟩ := h.exists_ofStoredText
  refine ⟨i, ?_⟩
  unfold readBucket
  rw [hi]

theorem exists_readExact (h : t.Readable) : ∃ i, t.readExact = .ok i := by
  have hread := ofStoredText?_append h.year_le (readFraction_six (t.micros % 1000000).toNat)
  obtain ⟨i, hi⟩ := h.exists_ofParts
    (show (t.micros % 1000000).toNat % 1000000 * 1000 < 1000000000 by omega)
  rw [← text] at hread
  refine ⟨i, ?_⟩
  unfold readExact
  rw [hread, hi]

/-- So can the start of its bucket, which lies on the same day or on the first of its month. -/
theorem truncate (h : t.Readable) (g : Granularity) : (t.truncate g).Readable := by
  obtain ⟨d, hd, storable⟩ := h
  cases g with
  | hour => exact ⟨d, (dayNumber_truncate_hour t).trans hd, storable⟩
  | day => exact ⟨d, (dayNumber_truncate_day t).trans hd, storable⟩
  | month =>
      have hstart : t.truncate .month = .midnight d.monthStart := by
        rw [Timestamp.truncate, midnight, Day.number_monthStart,
          show t.dayNumber = d.number from hd]
        rfl
      have hle : d.monthStart ≤ d := by
        rw [Day.le_iff, Day.number_monthStart]
        omega
      rw [hstart]
      exact ⟨d.monthStart, onDay_midnight _, storable.of_le hle⟩

end Timestamp.Readable

/-! ## Ranges that the store takes -/

/-- What is read of each part of a range can be told to the store.  Of the first instant of the
part before midnight, this is its day. -/
structure Split.Storable (parts : Split) : Prop where
  /-- Before midnight. -/
  historic : ∀ range, parts.historic = some range →
    range.start.day.Storable ∧ range.stop.Storable
  /-- From midnight on. -/
  live : ∀ range, parts.live = some range → range.Storable

section Split

variable {start stop now : Instant} {parts : Split} {part : Span}

/-- The part before midnight ends with yesterday. -/
theorem historic_eq_some_iff (hparts : split? start stop now = some parts) :
    parts.historic = some part ↔ start < .midnight now.day ∧
      ∃ yesterday : Day, yesterday.number + 1 = now.day.number ∧
        part = ⟨start, stop.min (.endOfDay yesterday)⟩ := by
  obtain ⟨yesterday, hyesterday⟩ := exists_pred_of_split? hparts
  rw [← Option.mem_def, mem_historic_iff hparts hyesterday]
  refine and_congr_right fun _ => ⟨fun h => ⟨yesterday, hyesterday, h⟩, ?_⟩
  rintro ⟨d, hd, rfl⟩
  rw [show d = yesterday from Day.eq_of_number (by omega)]

/-- The part from midnight on starts with today, or later. -/
theorem live_eq_some_iff (hparts : split? start stop now = some parts) :
    parts.live = some part ↔ .midnight now.day ≤ stop ∧ part = Store.liveSpan start stop now :=
  mem_live_iff hparts

/-- A range that the store takes is cut into parts that it takes. -/
theorem Span.Storable.split (h : Span.Storable ⟨start, stop⟩)
    (hparts : split? start stop now = some parts) : parts.Storable where
  historic part hpart := by
    obtain ⟨-, yesterday, -, rfl⟩ := (historic_eq_some_iff hparts).mp hpart
    exact ⟨h.1.2, Store.storable_min_endOfDay h.2⟩
  live part hpart := by
    obtain ⟨hle, rfl⟩ := (live_eq_some_iff hparts).mp hpart
    exact ⟨Store.storable_max_midnight h.1 h.2 hle, h.2⟩

end Split

/-- A part of a split range fails: that before midnight at a daily row of the site, or that from
midnight on at a fact. -/
def Store.FailsOnSplit (s : Store) (site : String) (parts : Split) : Prop :=
  (∃ range, parts.historic = some range ∧ range.fromMidnight.FailsAmong (s.siteBuckets site)) ∨
    ∃ range, parts.live = some range ∧ range.FailsAmong (s.siteTimes site)

theorem Store.not_failsOnSplit_iff {s : Store} {site : String} {parts : Split} :
    ¬ s.FailsOnSplit site parts ↔
      (∀ range, parts.historic = some range →
        ¬ range.fromMidnight.FailsAmong (s.siteBuckets site)) ∧
      ∀ range, parts.live = some range → ¬ range.FailsAmong (s.siteTimes site) := by
  simp only [FailsOnSplit, not_or, not_exists, not_and]

theorem Split.Storable.not_failsOnSplit {parts : Split} (h : parts.Storable) (s : Store)
    (site : String) : ¬ s.FailsOnSplit site parts := by
  rw [Store.not_failsOnSplit_iff]
  constructor
  · intro range hpart hfails
    exact hfails.1 (Span.storable_fromMidnight_iff.mpr (h.historic range hpart))
  · intro range hpart hfails
    exact hfails.1 (h.live range hpart)

/-! ## Failures of the store -/

/-- **A query fails in the store exactly if `p`.**  Otherwise it is answered, or refused
before the store is touched. -/
structure FailsIff {α : Type} (x : Except StatsError α) (p : Prop) : Prop where
  /-- The store refuses. -/
  fails : p → ∃ cause, x = .error (.query cause)
  /-- The store is not to blame. -/
  otherwise : ¬ p → (∃ a, x = .ok a) ∨ ∃ fault, x = .error (.invalidInput fault)

namespace FailsIff

variable {α β : Type} {x : Except StatsError α} {p q : Prop}

theorem congr (h : FailsIff x p) (hpq : p ↔ q) : FailsIff x q :=
  ⟨fun hq => h.fails (hpq.mpr hq), fun hq => h.otherwise fun hp => hq (hpq.mp hp)⟩

/-- What the store cannot read fails. -/
theorem of_read {read : Except StoreFault α} (h : (∃ a, read = .ok a) ↔ ¬ p) :
    FailsIff (read.mapError .query) p := by
  cases read with
  | error cause =>
      refine ⟨fun _ => ⟨cause, rfl⟩, fun hp => ?_⟩
      obtain ⟨a, ha⟩ := h.mpr hp
      cases ha
  | ok a => exact ⟨fun hp => absurd hp (h.mp ⟨a, rfl⟩), fun _ => .inl ⟨a, rfl⟩⟩

/-- A check comes before the store. -/
theorem after_check {check : Except InputFault Unit} (h : FailsIff x p) :
    FailsIff (check.mapError .invalidInput >>= fun _ => x) (check = .ok () ∧ p) := by
  cases check with
  | error fault =>
      refine ⟨fun hp => ?_, fun _ => .inr ⟨fault, rfl⟩⟩
      cases hp.1
  | ok => exact h.congr (by simp only [true_and])

/-- What is made of an answer makes no difference. -/
theorem bind (h : FailsIff x p) {f : α → Except StatsError β}
    (hf : ∀ a, x = .ok a → ∃ b, f a = .ok b) : FailsIff (x >>= f) p := by
  constructor
  · intro hp
    obtain ⟨cause, rfl⟩ := h.fails hp
    exact ⟨cause, rfl⟩
  · intro hp
    rcases h.otherwise hp with ⟨a, rfl⟩ | ⟨fault, rfl⟩
    · exact .inl (hf a rfl)
    · exact .inr ⟨fault, rfl⟩

end FailsIff

/-- What follows a reading makes no difference, if it never fails. -/
theorem exists_bind_iff {α β ε : Type} {x : Except ε α} {f : α → Except ε β}
    (hf : ∀ a, x = .ok a → ∃ b, f a = .ok b) : (∃ b, x >>= f = .ok b) ↔ ∃ a, x = .ok a := by
  simp only [bind_eq_ok_iff]
  exact ⟨fun ⟨_, a, ha, _⟩ => ⟨a, ha⟩, fun ⟨a, ha⟩ => (hf a ha).imp fun _ hb => ⟨a, ha, hb⟩⟩

/-- A part that may be absent can be read if it can be read where it is present. -/
theorem exists_elim_iff {α ε : Type} {part : Option Span} {none : α} {read : Span → Except ε α}
    {p : Span → Prop} (h : ∀ range, (∃ a, read range = .ok a) ↔ p range) :
    (∃ a, part.elim (.ok none) read = .ok a) ↔ ∀ range, part = some range → p range := by
  cases part with
  | none => simp
  | some range => simpa using h range

namespace Store

/-! ## Stores that can be read -/

/-- **A store that can read back what it holds.** -/
structure Answerable (s : Store) : Prop where
  /-- Every table stands. -/
  complete : s.Complete
  /-- The times of facts can be read. -/
  facts : ∀ f ∈ s.factList, f.time.Readable
  /-- So can the buckets of daily rows. -/
  rows : ∀ r ∈ s.dailyTable.rows, r.1.bucket.Readable
  /-- Rows chosen by bucket and site can be summed. -/
  sums : ∀ q, ByBucketAndSite q →
    ∃ totals, sumRows (s.dailyTable.rows.filter fun r => q r.1) = .ok totals
  /-- The facts can be counted. -/
  few : s.factList.length < 2 ^ 63

namespace Answerable

variable {s : Store} (h : s.Answerable) (site : String) (range : Span)
include h

theorem exists_siteFacts : (∃ facts, s.siteFacts site range = .ok facts) ↔
    ¬ range.FailsAmong (s.siteTimes site) := by
  simp only [siteFacts_eq_ok_iff]
  exact ⟨fun ⟨_, _, accepted, _⟩ => accepted,
    fun accepted => ⟨_, h.complete.facts, accepted, rfl⟩⟩

theorem exists_siteRows : (∃ rows, s.siteRows site range = .ok rows) ↔
    ¬ range.fromMidnight.FailsAmong (s.siteBuckets site) := by
  simp only [siteRows_eq_ok_iff]
  exact ⟨fun ⟨_, _, accepted, _⟩ => accepted,
    fun accepted => ⟨_, h.complete.daily, accepted, rfl⟩⟩

/-- Some of the facts can be counted. -/
theorem exists_countFacts {facts : List Fact} (some_of : facts.Sublist s.factList) :
    ∃ totals, countFacts facts = .ok totals :=
  ⟨_, countFacts_eq_ok_iff.mpr ⟨rfl, some_of.length_le.trans_lt h.few⟩⟩

/-- The facts of a bucket can be counted, and its start can be read. -/
theorem exists_readLive {g : Granularity} {facts : List Fact}
    (some_of : facts.Sublist s.factList) {t : Timestamp} (ht : t ∈ bucketsOf g facts) :
    ∃ b, readLive g facts t = .ok b := by
  obtain ⟨f, hf, rfl⟩ := mem_bucketsOf.mp ht
  obtain ⟨i, hi⟩ := ((h.facts f (some_of.subset hf)).truncate g).exists_readBucket
  have hbucket : (facts.filter (·.time.truncate g == f.time.truncate g)).Sublist s.factList :=
    List.filter_sublist.trans some_of
  obtain ⟨totals, htotals⟩ := h.exists_countFacts hbucket
  refine ⟨⟨i, totals⟩, ?_⟩
  rw [readLive, hi, htotals, ok_bind, ok_bind]

/-- The rows of some buckets of a range can be summed. -/
theorem exists_sums_siteRowsIn (p : Timestamp → Bool) :
    ∃ totals, sumRows ((s.siteRowsIn site range).filter fun r => p r.1.bucket) = .ok totals := by
  rw [siteRowsIn, List.filter_filter]
  refine h.sums (fun k => p k.bucket && (k.site == site &&
    k.bucket.within (.midnight range.start.day) range.stop.toTimestamp)) fun k k' hb hs => ?_
  simp only [hb, hs]

variable {site range}

/-- The rows of a text can be summed, and the text can be read as a start. -/
theorem exists_historicBucket {text : String} (ht : text ∈ bucketTexts (s.siteRowsIn site range)) :
    ∃ b, historicBucket (s.siteRowsIn site range) text = .ok b := by
  obtain ⟨r, hr, rfl⟩ := mem_bucketTexts.mp ht
  obtain ⟨totals, htotals⟩ :=
    h.exists_sums_siteRowsIn site range fun t => t.bucketText == r.1.bucket.bucketText
  obtain ⟨i, hi⟩ := (h.rows r (List.mem_of_mem_filter hr)).exists_ofStoredText
  refine ⟨⟨i, totals⟩, ?_⟩
  rw [historicBucket, htotals, ok_bind, hi]

variable (site range)

/-! ## The parts of queries -/

theorem exists_liveTotals : (∃ totals, (s.siteFacts site range >>= countFacts) = .ok totals) ↔
    ¬ range.FailsAmong (s.siteTimes site) := by
  refine (exists_bind_iff fun facts hfacts => ?_).trans (h.exists_siteFacts site range)
  obtain ⟨-, -, rfl⟩ := siteFacts_eq_ok_iff.mp hfacts
  exact h.exists_countFacts List.filter_sublist

theorem exists_liveBuckets (g : Granularity) :
    (∃ buckets, s.liveBuckets site range g = .ok buckets) ↔
      ¬ range.FailsAmong (s.siteTimes site) := by
  refine (exists_bind_iff fun facts hfacts => ?_).trans (h.exists_siteFacts site range)
  obtain ⟨-, -, rfl⟩ := siteFacts_eq_ok_iff.mp hfacts
  exact (exists_mapM_ok fun t ht => h.exists_readLive List.filter_sublist ht).imp fun _ => And.left

theorem exists_historicTotals : (∃ totals, (s.siteRows site range >>= sumRows) = .ok totals) ↔
    ¬ range.fromMidnight.FailsAmong (s.siteBuckets site) := by
  refine (exists_bind_iff fun rows hrows => ?_).trans (h.exists_siteRows site range)
  obtain ⟨-, -, rfl⟩ := siteRows_eq_ok_iff.mp hrows
  have hsums := h.exists_sums_siteRowsIn site range fun _ => true
  rwa [List.filter_true] at hsums

theorem exists_historicBuckets : (∃ buckets, s.historicBuckets site range = .ok buckets) ↔
    ¬ range.fromMidnight.FailsAmong (s.siteBuckets site) := by
  refine (exists_bind_iff fun rows hrows => ?_).trans (h.exists_siteRows site range)
  obtain ⟨-, -, rfl⟩ := siteRows_eq_ok_iff.mp hrows
  exact (exists_mapM_ok fun text ht => h.exists_historicBucket ht).imp fun _ => And.left

theorem exists_readRanking (d : Dimension) :
    (∃ ranked, s.readRanking d site range = .ok ranked) ↔
      ¬ range.FailsAmong (s.siteTimes site) := by
  rw [readRanking, h.complete.dimensionRows, ok_bind]
  exact (exists_bind_iff fun facts _ => ⟨_, rfl⟩).trans (h.exists_siteFacts site range)

/-- For no page at all, no fact is looked at. -/
theorem exists_readTopPages (limit : ℕ) :
    (∃ ranked, s.readTopPages site range limit = .ok ranked) ↔
      ¬ (limit ≠ 0 ∧ range.FailsAmong (s.siteTimes site)) := by
  by_cases hlimit : limit = 0
  · rw [readTopPages, if_pos hlimit, h.complete.dimensionRows, h.complete.factRows]
    exact iff_of_true ⟨[], rfl⟩ fun hfails => hfails.1 hlimit
  · rw [readTopPages, if_neg hlimit, and_iff_right hlimit]
    exact (exists_bind_iff fun ranked _ => ⟨_, rfl⟩).trans (h.exists_readRanking site range .path)

theorem exists_readListing (limit offset : ℕ) :
    (∃ page, s.readListing site range limit offset = .ok page) ↔
      ¬ (limit ≠ 0 ∧ range.FailsAmong (s.siteTimes site)) := by
  rw [readListing, allDimensionRows_eq h.complete, ok_bind]
  by_cases hlimit : limit = 0
  · rw [hlimit, listedFacts_zero h.complete, ok_bind, List.take_zero]
    exact iff_of_true ⟨[], rfl⟩ fun hfails => hfails.1 rfl
  · rw [listedFacts_of_ne_zero hlimit, and_iff_right hlimit]
    refine (exists_bind_iff fun facts hfacts => ?_).trans (h.exists_siteFacts site range)
    obtain ⟨-, -, rfl⟩ := siteFacts_eq_ok_iff.mp hfacts
    refine (exists_mapM_ok fun f hf => ?_).imp fun _ => And.left
    obtain ⟨i, hi⟩ := (h.facts f (List.mem_of_mem_filter (mem_of_mem_page hf))).exists_readExact
    rw [hi, ok_bind]
    exact ⟨_, rfl⟩

/-! ## Both sides of midnight -/

variable (parts : Split)

theorem exists_dayBuckets :
    (∃ buckets, s.dayBuckets site parts = .ok buckets) ↔ ¬ s.FailsOnSplit site parts := by
  simp only [dayBuckets_eq_ok_iff, not_failsOnSplit_iff]
  constructor
  · rintro ⟨_, past, live, hpast, hlive, -⟩
    exact ⟨(exists_elim_iff (h.exists_historicBuckets site)).mp ⟨past, hpast⟩,
      (exists_elim_iff (h.exists_liveBuckets site · .day)).mp ⟨live, hlive⟩⟩
  · rintro ⟨hhistoric, hlive⟩
    obtain ⟨past, hpast⟩ := (exists_elim_iff (h.exists_historicBuckets site)).mpr hhistoric
    obtain ⟨live, hlive⟩ := (exists_elim_iff (h.exists_liveBuckets site · .day)).mpr hlive
    exact ⟨_, past, live, hpast, hlive, rfl⟩

theorem exists_splitTotals :
    (∃ totals, s.splitTotals site parts = .ok totals) ↔ ¬ s.FailsOnSplit site parts := by
  simp only [Account.splitTotals_eq_ok_iff, not_failsOnSplit_iff]
  constructor
  · rintro ⟨_, past, live, hpast, hlive, -⟩
    exact ⟨(exists_elim_iff (h.exists_historicTotals site)).mp ⟨past, hpast⟩,
      (exists_elim_iff (h.exists_liveTotals site)).mp ⟨live, hlive⟩⟩
  · rintro ⟨hhistoric, hlive⟩
    obtain ⟨past, hpast⟩ := (exists_elim_iff (h.exists_historicTotals site)).mpr hhistoric
    obtain ⟨live, hlive⟩ := (exists_elim_iff (h.exists_liveTotals site)).mpr hlive
    exact ⟨_, past, live, hpast, hlive, rfl⟩

end Answerable

/-! ## All queries -/

/-- **When each query over a range fails in the store.**  A query over facts fails if it passes
its checks, the store does not take the range, and a fact of the site gets as far as to be
compared with what it does not take.  A query that is split at midnight fails if a part does.
No fact is looked at for an answer without rows. -/
structure FailsOnBounds (s : Store) (site : String) (start stop now : Instant) : Prop where
  /-- The number of pageviews. -/
  count : FailsIff (s.countPageviews site start stop)
    (start ≤ stop ∧ Span.FailsAmong ⟨start, stop⟩ (s.siteTimes site))
  /-- The most viewed pages. -/
  pages : ∀ limit, FailsIff (s.topPages site start stop limit)
    (start ≤ stop ∧ limit ≠ 0 ∧ Span.FailsAmong ⟨start, stop⟩ (s.siteTimes site))
  /-- The device classes. -/
  devices : FailsIff (s.deviceUsage site start stop)
    (start ≤ stop ∧ Span.FailsAmong ⟨start, stop⟩ (s.siteTimes site))
  /-- A page of the listing. -/
  listing : ∀ limit offset, FailsIff (s.listPageviews site start stop limit offset)
    (start ≤ stop ∧ offset ≤ maxOffset ∧ limit ≠ 0 ∧
      Span.FailsAmong ⟨start, stop⟩ (s.siteTimes site))
  /-- A series of hours or months. -/
  liveSeries : ∀ g, g ≠ .day → FailsIff (s.series site start stop g now)
    (start ≤ stop ∧ g.bucketCount start stop ≤ Granularity.maxBuckets ∧
      Span.FailsAmong ⟨start, stop⟩ (s.siteTimes site))
  /-- A series of days. -/
  daySeries : ∀ parts, split? start stop now = some parts →
    FailsIff (s.series site start stop .day now)
      (start ≤ stop ∧ Granularity.day.bucketCount start stop ≤ Granularity.maxBuckets ∧
        s.FailsOnSplit site parts)
  /-- The summary. -/
  summary : ∀ parts, split? start stop now = some parts →
    FailsIff (s.summary site start stop now) (start ≤ stop ∧ s.FailsOnSplit site parts)
  /-- At a range that the store takes nothing fails ... -/
  storable : Span.Storable ⟨start, stop⟩ → ¬ Span.FailsAmong ⟨start, stop⟩ (s.siteTimes site)
  /-- ... and neither does a part of it. -/
  split : Span.Storable ⟨start, stop⟩ → ∀ parts, split? start stop now = some parts →
    ¬ s.FailsOnSplit site parts

/-- A limit is cut off at a positive number. -/
theorem min_maxRows_ne_zero {limit : ℕ} : min limit maxRows ≠ 0 ↔ limit ≠ 0 := by
  have hpos : 0 < maxRows := by decide
  omega

namespace Answerable

variable {s : Store} (h : s.Answerable) (site : String) (start stop : Instant)
include h

theorem countPageviews_failsIff : FailsIff (s.countPageviews site start stop)
    (start ≤ stop ∧ Span.FailsAmong ⟨start, stop⟩ (s.siteTimes site)) := by
  rw [← checkRange_eq_ok_iff]
  exact ((FailsIff.of_read (h.exists_siteFacts site ⟨start, stop⟩)).bind
    fun facts _ => ⟨facts.length, rfl⟩).after_check

theorem topPages_failsIff (limit : ℕ) : FailsIff (s.topPages site start stop limit)
    (start ≤ stop ∧ limit ≠ 0 ∧ Span.FailsAmong ⟨start, stop⟩ (s.siteTimes site)) := by
  rw [← checkRange_eq_ok_iff, ← min_maxRows_ne_zero]
  exact ((FailsIff.of_read (h.exists_readTopPages site ⟨start, stop⟩ _)).bind
    fun ranked _ => ⟨_, rfl⟩).after_check

/-- The device classes fail where their total does, since both read the same range. -/
theorem deviceUsage_failsIff : FailsIff (s.deviceUsage site start stop)
    (start ≤ stop ∧ Span.FailsAmong ⟨start, stop⟩ (s.siteTimes site)) := by
  refine (h.countPageviews_failsIff site start stop).bind fun total htotal => ?_
  obtain ⟨-, -, hread⟩ := bind_eq_ok_iff.mp htotal
  obtain ⟨facts, hfacts, -⟩ := bind_eq_ok_iff.mp hread
  have accepted := (h.exists_siteFacts site ⟨start, stop⟩).mp ⟨facts, mapError_eq_ok_iff.mp hfacts⟩
  obtain ⟨ranked, hranked⟩ :=
    (h.exists_readRanking site ⟨start, stop⟩ .deviceType).mpr accepted
  split
  · exact ⟨[], rfl⟩
  · rw [hranked]
    exact ⟨_, rfl⟩

theorem listPageviews_failsIff (limit offset : ℕ) :
    FailsIff (s.listPageviews site start stop limit offset)
      (start ≤ stop ∧ offset ≤ maxOffset ∧ limit ≠ 0 ∧
        Span.FailsAmong ⟨start, stop⟩ (s.siteTimes site)) := by
  rw [← checkRange_eq_ok_iff, ← min_maxRows_ne_zero]
  refine FailsIff.after_check ?_
  split
  · next hfar => exact ⟨fun hp => absurd hp.1 (Nat.not_le.mpr hfar), fun _ => .inr ⟨_, rfl⟩⟩
  · next hnear =>
    refine (FailsIff.of_read
      (h.exists_readListing site ⟨start, stop⟩ (min limit maxRows) offset)).congr ?_
    exact (and_iff_right (Nat.not_lt.mp hnear)).symm

theorem liveSeries_failsIff {g : Granularity} (live : g ≠ .day) (now : Instant) :
    FailsIff (s.series site start stop g now)
      (start ≤ stop ∧ g.bucketCount start stop ≤ Granularity.maxBuckets ∧
        Span.FailsAmong ⟨start, stop⟩ (s.siteTimes site)) := by
  rw [← checkRange_eq_ok_iff, ← checkBuckets_eq_ok_iff]
  refine FailsIff.bind ?_ fun buckets _ => ⟨_, rfl⟩
  have hread := FailsIff.of_read (h.exists_liveBuckets site ⟨start, stop⟩ g)
  cases g with
  | day => exact absurd rfl live
  | hour | month => exact hread.after_check.after_check

variable {start stop} {now : Instant} {parts : Split}

theorem daySeries_failsIff (hparts : split? start stop now = some parts) :
    FailsIff (s.series site start stop .day now)
      (start ≤ stop ∧ Granularity.day.bucketCount start stop ≤ Granularity.maxBuckets ∧
        s.FailsOnSplit site parts) := by
  rw [← checkRange_eq_ok_iff, ← checkBuckets_eq_ok_iff]
  refine FailsIff.bind ?_ fun buckets _ => ⟨_, rfl⟩
  rw [Store.buckets, hparts]
  exact (FailsIff.of_read (h.exists_dayBuckets site parts)).after_check.after_check

theorem summary_failsIff (hparts : split? start stop now = some parts) :
    FailsIff (s.summary site start stop now) (start ≤ stop ∧ s.FailsOnSplit site parts) := by
  rw [← checkRange_eq_ok_iff]
  refine FailsIff.bind ?_ fun totals _ => ⟨_, rfl⟩
  rw [totals, hparts]
  exact (FailsIff.of_read (h.exists_splitTotals site parts)).after_check

/-- **Only bounds that the store does not take make a query fail.** -/
theorem failsOnBounds (start stop now : Instant) : s.FailsOnBounds site start stop now where
  count := h.countPageviews_failsIff site start stop
  pages := h.topPages_failsIff site start stop
  devices := h.deviceUsage_failsIff site start stop
  listing := h.listPageviews_failsIff site start stop
  liveSeries _ live := h.liveSeries_failsIff site start stop live now
  daySeries _ hparts := h.daySeries_failsIff site hparts
  summary _ hparts := h.summary_failsIff site hparts
  storable hrange := hrange.not_failsAmong
  split hrange _ hparts := (hrange.split hparts).not_failsOnSplit s site

end Answerable

end Store

/-! ## Reachable stores -/

namespace Account

/-- What visits leave behind bears times that the store took. -/
theorem readable_of_mem {as : List Action} {f : Fact}
    (hf : f ∈ (opening.run as).store.factList) : f.time.Readable := by
  obtain ⟨v, now, -, hsight⟩ := exists_record hf
  obtain ⟨storable, htime, -⟩ := Visit.sighting?_eq_some hsight
  rw [show f.time = (v.time now).toTimestamp from htime]
  exact Instant.readable_toTimestamp storable

/-- No fact is counted twice, so no more facts are counted than there are. -/
theorem Balanced.length_counted_le {x : Account} (h : x.Balanced)
    (readable : ∀ f ∈ x.store.factList, f.time.Readable) :
    x.counted.length ≤ x.store.factList.length := by
  refine List.Subperm.length_le (List.subperm_iff_count.mpr fun f => ?_)
  by_cases hf : f ∈ x.counted
  · obtain ⟨d, hd, -⟩ := readable f (h.known f hf)
    calc x.counted.count f
        = (factsOfDay d x.counted).count f :=
          (List.count_filter (p := fun e : Fact => e.time.OnDay d) (decide_eq_true hd)).symm
      _ ≤ (x.store.factsOn d).count f := (h.first d).sublist.count_le f
      _ ≤ x.store.factList.count f := List.filter_sublist.count_le f
  · rw [List.count_eq_zero_of_not_mem hf]
    exact Nat.zero_le _

/-- **A reachable store can read back what it holds.** -/
theorem Balanced.answerable {x : Account} (h : x.Balanced)
    (readable : ∀ f ∈ x.store.factList, f.time.Readable)
    (few : x.store.factList.length < 2 ^ 63) : x.store.Answerable where
  complete := h.complete
  facts := readable
  rows r hr := by
    obtain ⟨f, hf, hkey⟩ := Rollup.exists_fact_of_mem_rows h.daily hr
    rw [← hkey]
    exact (readable f (h.known f hf)).truncate .day
  sums q hq := by
    have hlength := (List.length_filter_le (fun f : Fact => q (f.key .day)) x.counted).trans
      (h.length_counted_le readable)
    refine ⟨_, (Store.sumRows_of_get? h.daily hq).trans (Totals.checked_ofRows_iff.mpr
      ⟨rfl, hlength.trans_lt few⟩)⟩
  few := few

end Account

namespace Store

theorem answerable_runAll {as : List Action} (few : (migrated.runAll as).factList.length < 2 ^ 63) :
    (migrated.runAll as).Answerable := by
  rw [← Account.store_run_opening] at few ⊢
  exact (Account.balanced_run as).answerable (fun _ => Account.readable_of_mem) few

/-- **Only bounds that the store does not take make a query fail in the store**, in every
reachable state, and they do if a fact or a row is compared with them. -/
theorem queries_fail_on_bounds (ops : List Operation)
    (few : (migrated.perform ops).factList.length < 2 ^ 63) (site : String)
    (start stop now : Instant) : (migrated.perform ops).FailsOnBounds site start stop now :=
  (answerable_runAll few).failsOnBounds site start stop now

/-- An hour less a millisecond into the year 10000, which an offset makes the end of 9999. -/
def afterLastYear : Instant :=
  ⟨253402304399, 999000000, by decide, by decide, by decide, by decide⟩

theorem length_viewsOfTwoDays_lt :
    (migrated.perform (viewsOfTwoDays.map .call)).factList.length < 2 ^ 63 := by
  rw [perform_map_call]
  decide +kernel

theorem queries_fail_on_leapSecond :
    (migrated.perform (viewsOfTwoDays.map .call)).factList.length < 2 ^ 63 ∧
      (migrated.perform (viewsOfTwoDays.map .call)).FailsOnBounds "blog" leapSecond leapSecond
        (.midnight (sampleDay 3)) :=
  ⟨length_viewsOfTwoDays_lt, queries_fail_on_bounds _ length_viewsOfTwoDays_lt _ _ _ _⟩

/-- **A caller can name bounds that fail in the store**, if it holds a single view of the site. -/
theorem requested_bounds_fail_in_store :
    Instant.parseRfc3339? "2016-12-31T23:59:60Z" = some leapSecond ∧
      (migrated.runAll [viewOn (sampleDay 0) "blog" "/"]).countPageviews "blog" leapSecond
        leapSecond = .error (.query (.notTimestamp "2016-12-31 23:59:60.000000")) ∧
      Instant.parseRfc3339? "9999-12-31T23:59:59.999-01:00" = some afterLastYear ∧
      (migrated.runAll [viewOn (sampleDay 0) "blog" "/"]).countPageviews "blog" afterLastYear
        afterLastYear = .error (.query (.notTimestamp "+10000-01-01 00:59:59.999000")) :=
  ⟨by decide +kernel, by decide +kernel, by decide +kernel, by decide +kernel⟩

end Store

end Footfall
