import Mathlib
import Footfall.Proofs.Stats.Filling
import Footfall.Proofs.Stats.Refusals
import Footfall.Proofs.Stats.RoundTrip

/-!
# One more fact

A fact is appended to the table of facts, and the daily rollup stays as it was.  Every
range then falls on one of two sides.  If it covers the instant of the fact, cut to whole
microseconds as the store cuts it, one more pageview is counted: by the total, by the
summary and by the series of each granularity, there in the bucket of the instant.  If it
does not, nothing is read that was not read before.

For days and for the summary this needs a clock of the day of the instant.  The range is
then cut before the fact, and the fact is on the side where facts are counted.  On the
other side the rollup is read, and none of its buckets can be that of today.

## Main Definitions

* `Span.Covers` — what lies in a range at the precision of the store
* `Granularity.parts?` — what is read from the rollup, and what from facts
* `OneMoreAt` — some buckets have one more pageview than others
* `Store.Gains` — a store has one more fact than another
* `Store.CountsOneMore`, `Store.CountsSame` — how the answers of both compare

## Main Statements

* `Tallied.oneMoreAt` — buckets of facts, of which there is one more
* `Store.Gains.countsOneMore` — a range that covers the fact
* `Store.Gains.countsSame` — a range that does not, and a site that is not its own
-/

namespace Footfall

/-! ## Ranges at the precision of the store -/

/-- The instant lies in the range, all of them cut to whole microseconds. -/
structure Span.Covers (range : Span) (t : Instant) : Prop where
  /-- Not before the start. -/
  start_le : range.start.cut ≤ t.cut
  /-- Not after the end. -/
  le_stop : t.cut ≤ range.stop.cut

instance (range : Span) (t : Instant) : Decidable (range.Covers t) :=
  decidable_of_iff (range.start.cut ≤ t.cut ∧ t.cut ≤ range.stop.cut)
    ⟨fun h => ⟨h.1, h.2⟩, fun h => ⟨h.1, h.2⟩⟩

/-- The bucket of an instant is found from what is stored of it. -/
theorem Instant.bucketStart?_toTimestamp {t : Instant} (g : Granularity) (h : t.FourDigit) :
    t.toTimestamp.bucketStart? g = some (g.truncate t) := by
  rw [Timestamp.bucketStart?_of_fourDigit g h.toTimestamp, toInstant_toTimestamp h,
    Option.some_inj]
  exact (g.starts_truncate t.cut).unique (g.starts_truncate t)

namespace Span.Covers

variable {start stop t : Instant} {range : Span}

/-- What lies in a range lies in it at the precision of the store. -/
theorem of_le (hstart : start ≤ t) (hstop : t ≤ stop) : Covers ⟨start, stop⟩ t :=
  ⟨Instant.cut_mono hstart, Instant.cut_mono hstop⟩

/-- The store selects what a range covers. -/
theorem within_iff (hrange : range.Storable) (ht : t.Storable) :
    t.toTimestamp.within range.start.toTimestamp range.stop.toTimestamp = true ↔
      range.Covers t := by
  rw [Timestamp.within, Bool.and_eq_true, decide_eq_true_eq, decide_eq_true_eq,
    ← Instant.cut_le_cut_iff hrange.1 ht, ← Instant.cut_le_cut_iff ht hrange.2]
  exact ⟨fun h => ⟨h.1, h.2⟩, fun h => ⟨h.1, h.2⟩⟩

end Span.Covers

/-! ## What is read from facts -/

/-- The part of a range that a series reads from the rollup, and the part that it reads from
facts. -/
def Granularity.parts? (g : Granularity) (start stop now : Instant) : Option Split :=
  match g with
  | day => split? start stop now
  | _ => some ⟨none, some ⟨start, stop⟩⟩

section Parts

variable {g : Granularity} {start stop now t : Instant} {parts : Split}

/-- Nothing is covered by the part from midnight on and not by the range. -/
theorem Span.Covers.of_split {part : Span} (hparts : split? start stop now = some parts)
    (hpart : parts.live = some part) (h : part.Covers t) : Covers ⟨start, stop⟩ t := by
  obtain ⟨-, rfl⟩ := (live_eq_some_iff hparts).mp hpart
  have hle : start ≤ start.max (.midnight now.day) := (Instant.max_le_iff.mp (Int.le_refl _)).1
  exact ⟨Int.le_trans (Instant.cut_mono hle) h.start_le, h.le_stop⟩

/-- On the day of an instant a range that covers it is cut before it. -/
theorem exists_parts (g : Granularity) (hstart : start.FourDigit) (htoday : now.day = t.day)
    (h : Span.Covers ⟨start, stop⟩ t) : ∃ parts, g.parts? start stop now = some parts := by
  cases g with
  | hour | month => exact ⟨_, rfl⟩
  | day =>
      have hday : start.day ≤ now.day := by
        rw [htoday]
        exact Instant.day_le_of_cut_le h.start_le
      have hfirst : Day.first < now.day := by
        rw [← Day.not_le]
        intro hle
        have hyear := hstart.year_nonneg.trans ((Day.year_mono hday).trans (Day.year_mono hle))
        exact absurd hyear (by decide)
      obtain ⟨yesterday, hyesterday⟩ := exists_pred_of_lt hfirst
      exact ⟨_, split?_of_pred hyesterday start stop⟩

/-- The part from the cut on covers it. -/
theorem exists_live_of_covers (hparts : g.parts? start stop now = some parts)
    (order : start ≤ stop) (hstart : start.FourDigit) (hstop : stop.FourDigit)
    (htoday : now.day = t.day) (h : Span.Covers ⟨start, stop⟩ t) :
    ∃ part, parts.live = some part ∧ part.Covers t ∧ part.start ≤ part.stop ∧
      part.start.FourDigit ∧ part.stop.FourDigit := by
  cases g with
  | hour | month =>
      obtain rfl := Option.some.inj hparts
      exact ⟨_, rfl, h, order, hstart, hstop⟩
  | day =>
      have hmidnight : Instant.midnight now.day ≤ t := by
        rw [htoday]
        exact Instant.midnight_day_le t
      have hle : Instant.midnight now.day ≤ stop :=
        Instant.midnight_le_of_le_cut (Int.le_trans (Instant.cut_mono hmidnight) h.le_stop)
      refine ⟨_, (live_eq_some_iff hparts).mpr ⟨hle, rfl⟩, ?_⟩
      have hstorable := Store.storable_max_midnight hstart.storable hstop.storable hle
      unfold Store.liveSpan
      unfold Instant.max at hstorable ⊢
      split
      · next hbefore =>
        rw [if_pos hbefore] at hstorable
        have hday : start.day ≤ (Instant.midnight now.day).day := by
          rw [← Instant.midnight_le_iff]
          exact Int.le_trans (Instant.midnight_day_le start) hbefore
        exact ⟨⟨Instant.cut_mono hmidnight, h.le_stop⟩, hle,
          ⟨hstorable, hstart.year_nonneg.trans (Day.year_mono hday)⟩, hstop⟩
      · exact ⟨h, order, hstart, hstop⟩

end Parts

namespace Store

/-! ## Both sources of a series -/

section Sources

variable {s : Store} {site : String} {g : Granularity} {start stop now : Instant} {parts : Split}
  {buckets historic : List Bucket}

/-- A series of any granularity is what is read from both sources. -/
theorem buckets_eq_ok_iff_parts : s.buckets site start stop g now = .ok buckets ↔
    start ≤ stop ∧ g.bucketCount start stop ≤ Granularity.maxBuckets ∧
      ∃ parts, g.parts? start stop now = some parts ∧
        ∃ historic live, parts.historic.elim (.ok []) (s.historicBuckets site) = .ok historic ∧
          parts.live.elim (.ok []) (s.liveBuckets site · g) = .ok live ∧
          buckets = historic ++ live := by
  by_cases hg : g = .day
  · subst hg
    simp only [buckets_day_eq_ok_iff, checkRange_eq_ok_iff, checkBuckets_eq_ok_iff,
      dayBuckets_eq_ok_iff, Granularity.parts?]
  · rw [buckets_live_eq_ok_iff hg]
    have hparts : g.parts? start stop now = some ⟨none, some ⟨start, stop⟩⟩ := by
      cases g with
      | day => exact absurd rfl hg
      | hour | month => rfl
    simp only [hparts, Option.some.injEq, exists_eq_left', Option.elim_none, Option.elim_some,
      Except.ok.injEq]
    refine and_congr_right fun _ => and_congr_right fun _ => ⟨fun h => ⟨[], _, rfl, h, rfl⟩, ?_⟩
    rintro ⟨_, live, rfl, hlive, rfl⟩
    exact hlive

/-- A store that can be read answers the series of every range that it takes. -/
theorem Answerable.exists_series (h : s.Answerable) (site : String) (order : start ≤ stop)
    (fits : g.bucketCount start stop ≤ Granularity.maxBuckets)
    (hrange : Span.Storable ⟨start, stop⟩) (hparts : g.parts? start stop now = some parts) :
    ∃ points, s.series site start stop g now = .ok points := by
  have storable : parts.Storable := by
    cases g with
    | day => exact hrange.split hparts
    | hour | month =>
        obtain rfl := Option.some.inj hparts
        exact ⟨fun range hpart => (by cases hpart),
          fun range hpart => Option.some.inj hpart ▸ hrange⟩
  obtain ⟨hhistoric, hlive⟩ := not_failsOnSplit_iff.mp (storable.not_failsOnSplit s site)
  obtain ⟨past, hpast⟩ := (exists_elim_iff (h.exists_historicBuckets site)).mpr hhistoric
  obtain ⟨live, hlive⟩ := (exists_elim_iff (h.exists_liveBuckets site · g)).mpr hlive
  exact ⟨_, series_eq_ok_iff.mpr ⟨_, buckets_eq_ok_iff_parts.mpr
    ⟨order, fits, parts, hparts, past, live, hpast, hlive, rfl⟩, rfl⟩⟩

/-- No bucket of the rollup is that of today or of a later day. -/
theorem day_lt_of_historic (hparts : g.parts? start stop now = some parts)
    (hread : parts.historic.elim (.ok []) (s.historicBuckets site) = .ok historic) {b : Bucket}
    (hb : b ∈ historic) : g = .day ∧ b.start.day < now.day := by
  cases g with
  | hour | month =>
      obtain rfl := Option.some.inj hparts
      obtain rfl := Except.ok.inj hread
      cases hb
  | day =>
      refine ⟨rfl, ?_⟩
      cases hpart : parts.historic with
      | none =>
          rw [hpart] at hread
          obtain rfl := Except.ok.inj hread
          cases hb
      | some part =>
          rw [hpart, Option.elim_some] at hread
          obtain ⟨text, htext, hof⟩ := exists_of_forall₂ (historicBuckets_of_ok hread) hb
          obtain ⟨r, hr, rfl⟩ := mem_bucketTexts.mp htext
          obtain ⟨rows, hrows, -⟩ := bind_eq_ok_iff.mp hread
          obtain ⟨-, accepted, rfl⟩ := siteRows_eq_ok_iff.mp hrows
          obtain ⟨d, hd, storable, -, hpast, -⟩ := exists_day_of_historic hparts hpart accepted hr
          -- the text of a row names an instant of the day of the row
          have hread : r.1.bucket.readBucket = .ok b.start := by
            unfold Timestamp.readBucket
            rw [hof.start]
          have hnumber := Timestamp.number_day_of_readBucket
            (Timestamp.Readable.year_le ⟨d, hd, storable⟩) hread
          rw [Day.lt_iff, hnumber, show r.1.bucket.dayNumber = d.number from hd]
          exact hpast

end Sources

end Store

/-! ## One more view in a bucket -/

section Buckets

variable {g : Granularity} {facts : List Fact} {f : Fact} {t : Instant}
  {past live live' buckets buckets' : List Bucket}

/-- **Some buckets have one more pageview than others**, in the bucket of an instant, and are
the same otherwise. -/
structure OneMoreAt (t : Instant) (buckets buckets' : List Bucket) : Prop where
  /-- The pageviews of each bucket. -/
  at_start : ∀ b, (bucketAt buckets' b).totals.pageviews =
    (bucketAt buckets b).totals.pageviews + if b = t then 1 else 0
  /-- The pageviews of all. -/
  sum : (buckets'.map (·.totals.pageviews)).sum = (buckets.map (·.totals.pageviews)).sum + 1

/-- What is shown at an instant is the later of the buckets that start there. -/
theorem bucketAt_append (past live : List Bucket) (b : Instant) :
    bucketAt (past ++ live) b =
      if b ∈ live.map (·.start) then bucketAt live b else bucketAt past b := by
  rw [bucketAt, List.reverse_append, List.find?_append]
  split
  · next hmem =>
    obtain ⟨c, hc, rfl⟩ := List.mem_map.mp hmem
    have hsome : (live.reverse.find? (·.start == c.start)).isSome := by
      rw [List.find?_isSome]
      exact ⟨c, List.mem_reverse.mpr hc, beq_self_eq_true _⟩
    obtain ⟨found, hfound⟩ := Option.isSome_iff_exists.mp hsome
    rw [hfound, Option.some_or, bucketAt, hfound]
  · next hmem =>
    have hnone : live.reverse.find? (·.start == b) = none := by
      rw [List.find?_eq_none]
      intro c hc heq
      exact hmem (List.mem_map.mpr ⟨c, List.mem_reverse.mp hc, beq_iff_eq.mp heq⟩)
    rw [hnone, Option.none_or, bucketAt]

theorem Tallied.mem_starts (h : Tallied g facts live) {b : Instant} :
    b ∈ live.map (·.start) ↔ factsFrom g facts b ≠ [] := by
  rw [List.mem_map, h.start_iff]
  constructor
  · rintro ⟨e, he, hstart⟩
    exact List.ne_nil_of_mem (mem_factsFrom.mpr ⟨he, hstart⟩)
  · intro hne
    obtain ⟨e, he⟩ := List.exists_mem_of_ne_nil _ hne
    exact ⟨e, mem_factsFrom.mp he⟩

/-- Where buckets of facts start, they hide the buckets before them. -/
theorem Tallied.pageviews_bucketAt_append (h : Tallied g facts live) (past : List Bucket)
    (b : Instant) : (bucketAt (past ++ live) b).totals.pageviews =
      if factsFrom g facts b = [] then (bucketAt past b).totals.pageviews
      else (factsFrom g facts b).length := by
  rw [bucketAt_append]
  by_cases hnil : factsFrom g facts b = []
  · rw [if_neg fun hmem => h.mem_starts.mp hmem hnil, if_pos hnil]
  · have hmem := h.mem_starts.mpr hnil
    rw [if_pos hmem, if_neg hnil]
    obtain ⟨c, hc, rfl⟩ := List.mem_map.mp hmem
    rw [bucketAt_start (Instant.nodup_of_pairwise_lt (List.pairwise_map.mpr h.increasing)) hc,
      h.totals c hc]
    rfl

theorem factsFrom_concat (g : Granularity) (facts : List Fact) (hf : f.time.bucketStart? g = some t)
    (b : Instant) : factsFrom g (facts ++ [f]) b =
      factsFrom g facts b ++ if b = t then [f] else [] := by
  rw [factsFrom, List.filter_append, factsFrom, List.filter_singleton, hf]
  by_cases hb : b = t
  · simp [hb]
  · simp [hb, Ne.symm hb]

/-- **Buckets that tally facts, of which there is one more**, behind some buckets that start
elsewhere. -/
theorem Tallied.oneMoreAt (h : Tallied g facts live) (h' : Tallied g (facts ++ [f]) live')
    (years : ∀ e ∈ facts ++ [f], e.time.FourDigit) (hf : f.time.bucketStart? g = some t)
    (elsewhere : ∀ c ∈ past, c.start ≠ t) : OneMoreAt t (past ++ live) (past ++ live') where
  at_start b := by
    rw [h.pageviews_bucketAt_append, h'.pageviews_bucketAt_append, factsFrom_concat g facts hf]
    by_cases hb : b = t
    · subst hb
      have hpast : (bucketAt past b).totals.pageviews = 0 := by
        rw [bucketAt_of_notMem fun hmem => ?_]
        obtain ⟨c, hc, hstart⟩ := List.mem_map.mp hmem
        exact elsewhere c hc hstart
      rw [if_pos rfl, if_pos rfl, if_neg (by simp), List.length_append, hpast]
      split
      · next hnil => rw [hnil]; rfl
      · rfl
    · rw [if_neg hb, if_neg hb, List.append_nil, Nat.add_zero]
  sum := by
    have hsum := (h.countEach fun e he => years e (List.mem_append_left _ he)).sum_pageviews
    have hsum' := (h'.countEach years).sum_pageviews
    rw [List.map_append, List.map_append, List.sum_append, List.sum_append, hsum, hsum',
      List.length_append, List.length_singleton, Nat.add_assoc]

end Buckets

namespace Store

/-! ## A store with one more fact -/

/-- **A store has one more fact than another**, of an instant, and the same daily rollup. -/
structure Gains (s s' : Store) (f : Fact) (t : Instant) : Prop where
  /-- There is a table of facts. -/
  before : s.facts = .table s.factList
  /-- The fact is its last row. -/
  after : s'.facts = .table (s.factList ++ [f])
  /-- The rollup has the same rows. -/
  daily : s'.daily = s.daily
  /-- The store can keep the instant. -/
  storable : t.Storable
  /-- The fact bears it. -/
  time : f.time = t.toTimestamp

/-- **The answers over a range count one more pageview**, in the bucket of an instant. -/
structure CountsOneMore (s s' : Store) (site : String) (start stop now t : Instant) : Prop where
  /-- The number of pageviews. -/
  count : ∃ n, s.countPageviews site start stop = .ok n ∧
    s'.countPageviews site start stop = .ok (n + 1)
  /-- The summary. -/
  summary : ∀ sum', s'.summary site start stop now = .ok sum' →
    ∃ sum, s.summary site start stop now = .ok sum ∧ sum'.pageviews = sum.pageviews + 1
  /-- The series of each granularity, and each of its buckets. -/
  series : ∀ g points', s'.series site start stop g now = .ok points' →
    ∃ points, s.series site start stop g now = .ok points ∧
      (points'.map (·.pageviews)).sum = (points.map (·.pageviews)).sum + 1 ∧
      ∀ b, (pointAt points' b).pageviews =
        (pointAt points b).pageviews + if b = g.truncate t then 1 else 0
  /-- All of them are answered, as far as the facts can be counted. -/
  answered : s'.factList.length < 2 ^ 63 →
    (∃ sum', s'.summary site start stop now = .ok sum') ∧
      ∀ g : Granularity, g.bucketCount start stop ≤ Granularity.maxBuckets →
        ∃ points', s'.series site start stop g now = .ok points'

/-- **The answers over a range are the same**, refusals and failures among them. -/
structure CountsSame (s s' : Store) (site : String) (start stop now : Instant) : Prop where
  /-- The number of pageviews. -/
  count : s'.countPageviews site start stop = s.countPageviews site start stop
  /-- The summary. -/
  summary : s'.summary site start stop now = s.summary site start stop now
  /-- The series of each granularity. -/
  series : ∀ g, s'.series site start stop g now = s.series site start stop g now

namespace Gains

variable {s s' : Store} {f : Fact} {t : Instant} (h : s.Gains s' f t)
include h

theorem factList_eq : s'.factList = s.factList ++ [f] := by
  rw [factList, h.after, Slot.rowsOr]

theorem siteRows_eq (site : String) (range : Span) :
    s'.siteRows site range = s.siteRows site range := by
  rw [siteRows, siteRows, dailyRows, dailyRows, h.daily]

theorem historicBuckets_eq (site : String) (range : Span) :
    s'.historicBuckets site range = s.historicBuckets site range := by
  rw [historicBuckets, historicBuckets, h.siteRows_eq]

/-- What is selected for a range of the site of the fact. -/
theorem siteFactsWithin_of_covers {range : Span} (hrange : range.Storable)
    (covers : range.Covers t) :
    s'.siteFactsWithin f.site range = s.siteFactsWithin f.site range ++ [f] := by
  have hwithin := (Span.Covers.within_iff hrange h.storable).mpr covers
  rw [← h.time] at hwithin
  have hsite : f.ofSite f.site = true := beq_self_eq_true _
  rw [siteFactsWithin, siteFactsWithin, h.factList_eq, List.filter_append,
    List.filter_cons_of_pos (by rw [hsite, hwithin]; rfl), List.filter_nil]

/-! ### A range that does not cover the fact -/

variable {site : String} {start stop now : Instant}

/-- The fact of another site is not looked at, and one that a range does not cover is kept back
if the store takes the range. -/
theorem siteFacts_eq {range : Span}
    (hidden : f.site = site → range.Storable ∧ ¬ range.Covers t) :
    s'.siteFacts site range = s.siteFacts site range := by
  by_cases hsite : f.site = site
  · obtain ⟨hrange, hnot⟩ := hidden hsite
    have hselected : s'.siteFactsWithin site range = s.siteFactsWithin site range := by
      have hkept : (f.ofSite site &&
          f.time.within range.start.toTimestamp range.stop.toTimestamp) = false := by
        rw [Bool.and_eq_false_iff, ← Bool.not_eq_true, ← Bool.not_eq_true, h.time,
          Span.Covers.within_iff hrange h.storable]
        exact .inr hnot
      rw [siteFactsWithin, siteFactsWithin, h.factList_eq, List.filter_append,
        List.filter_cons_of_neg (by rw [hkept]; exact Bool.false_ne_true), List.filter_nil,
        List.append_nil]
    have stands : s'.facts = .table s'.factList := by rw [h.after, h.factList_eq]
    rw [siteFacts_of_storable stands hrange,
      siteFacts_of_storable h.before hrange, hselected]
  · have hother : f.ofSite site = false := beq_false_of_ne hsite
    rw [siteFacts, siteFacts, factRows, factRows, h.after, h.before, Slot.read, Slot.read, ok_bind,
      ok_bind, selectRows_cons_ok, selectRows_cons_ok, List.filter_append,
      List.filter_cons_of_neg (by rw [hother]; exact Bool.false_ne_true), List.filter_nil,
      List.append_nil]

/-- **A range that does not cover the fact, or a site that is not its own**, is answered as
before. -/
theorem countsSame
    (hidden : f.site = site → Span.Storable ⟨start, stop⟩ ∧ ¬ Span.Covers ⟨start, stop⟩ t) :
    s.CountsSame s' site start stop now := by
  have hlive : ∀ g, s'.liveBuckets site ⟨start, stop⟩ g = s.liveBuckets site ⟨start, stop⟩ g := by
    intro g
    rw [liveBuckets, liveBuckets, h.siteFacts_eq hidden]
  -- the part from midnight on covers no more than the range
  have hpart : ∀ parts, split? start stop now = some parts → ∀ range, parts.live = some range →
      s'.siteFacts site range = s.siteFacts site range := by
    intro parts hparts range hrange
    exact h.siteFacts_eq fun hsite =>
      ⟨((hidden hsite).1.split hparts).live range hrange,
        fun covers => (hidden hsite).2 (covers.of_split hparts hrange)⟩
  have hdays : ∀ parts, split? start stop now = some parts →
      s'.dayBuckets site parts = s.dayBuckets site parts := by
    intro parts hparts
    rw [dayBuckets, dayBuckets]
    cases hrange : parts.live with
    | none => simp only [h.historicBuckets_eq]
    | some range => simp only [h.historicBuckets_eq, liveBuckets, hpart parts hparts range hrange]
  have htotals : ∀ parts, split? start stop now = some parts →
      s'.splitTotals site parts = s.splitTotals site parts := by
    intro parts hparts
    rw [splitTotals, splitTotals]
    cases hrange : parts.live with
    | none => simp only [h.siteRows_eq]
    | some range => simp only [h.siteRows_eq, hpart parts hparts range hrange]
  constructor
  · rw [countPageviews, countPageviews, h.siteFacts_eq hidden]
  · unfold summary totals
    cases hparts : split? start stop now with
    | none => rfl
    | some parts => simp only [htotals parts hparts]
  · intro g
    unfold series Store.buckets
    cases g with
    | hour | month => simp only [hlive]
    | day =>
        cases hparts : split? start stop now with
        | none => rfl
        | some parts => simp only [hdays parts hparts]

/-! ### A range that covers the fact -/

/-- The part of facts has buckets of one more. -/
theorem exists_liveBuckets {g : Granularity} {part : Span} (covers : part.Covers t)
    (order : part.start ≤ part.stop) (hstart : part.start.FourDigit) (hstop : part.stop.FourDigit)
    (year : t.FourDigit) {live' : List Bucket}
    (hread : s'.liveBuckets f.site part g = .ok live') :
    ∃ live, s.liveBuckets f.site part g = .ok live ∧
      ∀ past : List Bucket, (∀ c ∈ past, c.start ≠ g.truncate t) →
        OneMoreAt (g.truncate t) (past ++ live) (past ++ live') := by
  obtain ⟨-, -, hread'⟩ := liveBuckets_eq_ok_iff.mp hread
  have years' := fourDigit_of_siteFactsWithin s' f.site order hstart.storable hstart.year_nonneg
    hstop.storable
  have hselected := h.siteFactsWithin_of_covers ⟨hstart.storable, hstop.storable⟩ covers
  rw [show (⟨part.start, part.stop⟩ : Span) = part from rfl] at years'
  rw [hselected] at hread' years'
  have years : ∀ e ∈ s.siteFactsWithin f.site part, e.time.FourDigit :=
    fun e he => years' e (List.mem_append_left _ he)
  obtain ⟨live, hlive⟩ := (exists_mapM_readLive (g := g) years).mpr fun b =>
    ((List.sublist_append_left _ [f]).filter _).length_le.trans_lt
      ((exists_mapM_readLive years').mp ⟨live', hread'⟩ b)
  have accepted : ¬ part.FailsAmong (s.siteTimes f.site) :=
    Span.Storable.not_failsAmong ⟨hstart.storable, hstop.storable⟩
  refine ⟨live, liveBuckets_eq_ok_iff.mpr ⟨h.before, accepted, hlive⟩, fun past elsewhere => ?_⟩
  refine (tallied_of_mapM_readLive years hlive).oneMoreAt (tallied_of_mapM_readLive years' hread')
    years' ?_ elsewhere
  rw [h.time]
  exact Instant.bucketStart?_toTimestamp g year

/-- So has the total of this part. -/
theorem exists_liveTotals {part : Span} (covers : part.Covers t) (hpart : part.Storable)
    {totals' : Totals} (hread : (s'.siteFacts f.site part >>= countFacts) = .ok totals') :
    ∃ totals, (s.siteFacts f.site part >>= countFacts) = .ok totals ∧
      totals'.pageviews = totals.pageviews + 1 := by
  obtain ⟨_, hfacts, hcount⟩ := bind_eq_ok_iff.mp hread
  obtain ⟨-, -, rfl⟩ := siteFacts_eq_ok_iff.mp hfacts
  obtain ⟨rfl, few⟩ := countFacts_eq_ok_iff.mp hcount
  rw [h.siteFactsWithin_of_covers hpart covers, List.length_append] at few
  refine ⟨_, bind_eq_ok_iff.mpr ⟨_, siteFacts_of_storable h.before hpart,
    countFacts_eq_ok_iff.mpr ⟨rfl, by omega⟩⟩, ?_⟩
  rw [h.siteFactsWithin_of_covers hpart covers, Totals.ofFacts, Totals.ofFacts, List.length_append,
    List.length_singleton]

section Covered

variable (order : start ≤ stop) (hstart : start.FourDigit) (hstop : stop.FourDigit)
  (htoday : now.day = t.day) (covers : Span.Covers ⟨start, stop⟩ t)
include order hstart hstop covers

theorem exists_count : ∃ n, s.countPageviews f.site start stop = .ok n ∧
    s'.countPageviews f.site start stop = .ok (n + 1) := by
  have stands : s'.facts = .table s'.factList := by rw [h.after, h.factList_eq]
  refine ⟨_, countPageviews_of_storable h.before order hstart.storable hstop.storable, ?_⟩
  rw [countPageviews_of_storable stands order hstart.storable hstop.storable,
    h.siteFactsWithin_of_covers ⟨hstart.storable, hstop.storable⟩ covers, List.length_append,
    List.length_singleton]

include htoday

theorem exists_summary {sum' : Summary} (hsum : s'.summary f.site start stop now = .ok sum') :
    ∃ sum, s.summary f.site start stop now = .ok sum ∧ sum'.pageviews = sum.pageviews + 1 := by
  obtain ⟨_, ht, rfl⟩ := summary_eq_ok_iff.mp hsum
  obtain ⟨hrange, parts, hparts, hsplit⟩ := totals_eq_ok_iff.mp ht
  obtain ⟨past, live', hpast, hlive', rfl⟩ := Account.splitTotals_eq_ok_iff.mp hsplit
  obtain ⟨part, hpart, hcovers, -, hfrom, hto⟩ :=
    exists_live_of_covers (g := .day) hparts order hstart hstop htoday covers
  rw [hpart, Option.elim_some] at hlive'
  obtain ⟨live, hlive, hmore⟩ :=
    h.exists_liveTotals hcovers ⟨hfrom.storable, hto.storable⟩ hlive'
  simp only [h.siteRows_eq] at hpast
  have hsplit' : s.splitTotals f.site parts = .ok (past.add live) :=
    Account.splitTotals_eq_ok_iff.mpr ⟨past, live, hpast, by rw [hpart]; exact hlive, rfl⟩
  refine ⟨_, summary_eq_ok_iff.mpr ⟨_, totals_eq_ok_iff.mpr ⟨hrange, parts, hparts, hsplit'⟩,
    rfl⟩, ?_⟩
  simp only [Totals.add, hmore, Nat.add_assoc]

theorem exists_series {g : Granularity} {points' : List Point}
    (hseries : s'.series f.site start stop g now = .ok points') :
    ∃ points, s.series f.site start stop g now = .ok points ∧
      (points'.map (·.pageviews)).sum = (points.map (·.pageviews)).sum + 1 ∧
      ∀ b, (pointAt points' b).pageviews =
        (pointAt points b).pageviews + if b = g.truncate t then 1 else 0 := by
  obtain ⟨_, hbuckets, rfl⟩ := series_eq_ok_iff.mp hseries
  obtain ⟨-, fits, parts, hparts, past, live', hpast, hlive', rfl⟩ :=
    buckets_eq_ok_iff_parts.mp hbuckets
  obtain ⟨part, hpart, hcovers, horder, hfrom, hto⟩ :=
    exists_live_of_covers hparts order hstart hstop htoday covers
  have year : t.FourDigit := ⟨h.storable, hstart.year_nonneg.trans
    (Day.year_mono (Instant.day_le_of_cut_le covers.start_le))⟩
  -- the bucket of the fact is that of today, and the rollup has none of today
  have elsewhere : ∀ c ∈ past, c.start ≠ g.truncate t := by
    intro c hc heq
    obtain ⟨rfl, hlt⟩ := day_lt_of_historic hparts hpast hc
    rw [heq, Granularity.truncate, Instant.day_midnight, ← htoday] at hlt
    exact Int.lt_irrefl _ hlt
  rw [hpart, Option.elim_some] at hlive'
  obtain ⟨live, hlive, hmore⟩ := h.exists_liveBuckets hcovers horder hfrom hto year hlive'
  have hmore := hmore past elsewhere
  rw [show s'.historicBuckets f.site = s.historicBuckets f.site from
    funext (h.historicBuckets_eq f.site)] at hpast
  refine ⟨_, series_eq_ok_iff.mpr ⟨past ++ live, buckets_eq_ok_iff_parts.mpr ⟨order, fits, parts,
    hparts, past, live, hpast, by rw [hpart]; exact hlive, rfl⟩, rfl⟩, ?_, fun b => ?_⟩
  · rw [List.map_map, List.map_map]
    exact hmore.sum
  · rw [pointAt_map_point, pointAt_map_point]
    exact hmore.at_start b

/-- **A range that covers the fact** counts one more pageview, on the day of the fact. -/
theorem countsOneMore (answerable : s'.factList.length < 2 ^ 63 → s'.Answerable) :
    s.CountsOneMore s' f.site start stop now t where
  count := h.exists_count order hstart hstop covers
  summary _ hsum := h.exists_summary order hstart hstop htoday covers hsum
  series _ _ hseries := h.exists_series order hstart hstop htoday covers hseries
  answered few := by
    have hrange : Span.Storable ⟨start, stop⟩ := ⟨hstart.storable, hstop.storable⟩
    refine ⟨?_, fun g fits => ?_⟩
    · obtain ⟨parts, hparts⟩ := exists_parts .day hstart htoday covers
      obtain ⟨totals, htotals⟩ :=
        ((answerable few).exists_splitTotals f.site parts).mpr
          ((hrange.split hparts).not_failsOnSplit s' f.site)
      exact ⟨_, summary_eq_ok_iff.mpr ⟨totals, totals_eq_ok_iff.mpr
        ⟨checkRange_eq_ok_iff.mpr order, parts, hparts, htotals⟩, rfl⟩⟩
    · obtain ⟨parts, hparts⟩ := exists_parts g hstart htoday covers
      exact (answerable few).exists_series f.site order fits hrange hparts

end Covered

end Gains

end Store

end Footfall
