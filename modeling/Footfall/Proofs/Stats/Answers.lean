import Mathlib
import Footfall.Proofs.Rollup.Ledger
import Footfall.Proofs.Stats.Selection
import Footfall.Proofs.Stats.Split
import Footfall.Proofs.Tally.Alike
import Footfall.Stats.Summary

/-!
# What answers depend on

Every answer about a site is a function of two lists of sightings: those of the
site, and those among them that the rollups stand for.  Neither ids nor the order
of the lists matter, and neither do the facts of another site.  Whether a bound is
refused is told by these lists as well, for it is compared with them alone.

## Main Definitions

* `Store.SeenAlike` — two stores hold alike facts of a site
* `Account.CountedAlike` — two accounts count alike facts of a site
* `Account.Covers` — only rows of some facts of the site are read
* `Store.SameRangeAnswers` — two stores answer alike about a range of a site
* `Store.SameAnswers` — and about all of them, and whatever else is asked

## Main Statements

* `Store.SeenAlike.exists_readRanking`, `Store.SeenAlike.liveBuckets_eq` — answers
  from facts
* `Account.CountedAlike.rows` — the rows that answers are made of
* `Account.sameRangeAnswers`, `Account.sameAnswers` — all of them
-/

namespace Footfall

/-! ## Alike selections -/

/-- **Alike facts are selected alike** by conditions on what they show. -/
theorem Alike.selectRows {s₁ s₂ : Store} {facts₁ facts₂ : List Fact}
    (h : Alike s₁ facts₁ s₂ facts₂) (cs : List (Condition Fact)) (p : Sighting → Bool)
    (shown : ∀ (s : Store) f, cs.all (·.admits f) = p (s.sight f)) :
    (∃ e, selectRows cs facts₁ = .error e ∧ selectRows cs facts₂ = .error e) ∨
      ∃ selected₁ selected₂, selectRows cs facts₁ = .ok selected₁ ∧
        selectRows cs facts₂ = .ok selected₂ ∧ Alike s₁ selected₁ s₂ selected₂ := by
  have hadmitted : Alike s₁ (admittedRows cs facts₁) s₂ (admittedRows cs facts₂) := by
    have hfilter : ∀ (s : Store) (facts : List Fact),
        admittedRows cs facts = facts.filter fun f => p (s.sight f) :=
      fun s facts => List.filter_congr fun f _ => shown s f
    rw [hfilter s₁, hfilter s₂]
    exact h.filter p
  have hnil : admittedRows cs facts₁ = [] ↔ admittedRows cs facts₂ = [] := by
    rw [← List.length_eq_zero_iff, hadmitted.length_eq, List.length_eq_zero_iff]
  rcases selectRows_cases rfl hnil with herror | ⟨h₁, h₂⟩
  · exact .inl herror
  · exact .inr ⟨_, _, h₁, h₂, hadmitted⟩

namespace Store

/-! ## Answers from facts -/

/-- Two stores hold alike facts of a site. -/
def SeenAlike (s₁ s₂ : Store) (site : String) : Prop :=
  Alike s₁ (s₁.factList.filter (·.ofSite site)) s₂ (s₂.factList.filter (·.ofSite site))

/-- Conditions on the site of a fact, and on its time as compared with two instants. -/
def timeConditions (site : String) (start stop : Instant)
    (above below : Timestamp → Timestamp → Bool) : List (Condition Fact) :=
  [.ok (·.ofSite site), start.condition fun t f => above t f.time,
    stop.condition fun t f => below t f.time]

namespace SeenAlike

variable {s₁ s₂ : Store} {site : String}

theorem siteFactsWithin (h : SeenAlike s₁ s₂ site) (range : Span) :
    Alike s₁ (s₁.siteFactsWithin site range) s₂ (s₂.siteFactsWithin site range) := by
  rw [Store.siteFactsWithin_eq_filter, Store.siteFactsWithin_eq_filter]
  exact h.filter fun σ => σ.time.within range.start.toTimestamp range.stop.toTimestamp

/-- **Facts of the site are selected alike** by comparisons of their times with two instants. -/
theorem selectRows_times (h : SeenAlike s₁ s₂ site) (start stop : Instant)
    (above below : Timestamp → Timestamp → Bool) :
    (∃ e, selectRows (timeConditions site start stop above below) s₁.factList = .error e ∧
        selectRows (timeConditions site start stop above below) s₂.factList = .error e) ∨
      ∃ facts₁ facts₂,
        selectRows (timeConditions site start stop above below) s₁.factList = .ok facts₁ ∧
        selectRows (timeConditions site start stop above below) s₂.factList = .ok facts₂ ∧
        Alike s₁ facts₁ s₂ facts₂ := by
  have hcases := h.selectRows
    [start.condition fun t f => above t f.time, stop.condition fun t f => below t f.time]
    (fun σ => (start.Storable → above start.toTimestamp σ.time = true) ∧
      (stop.Storable → below stop.toTimestamp σ.time = true)) fun s f => by
    rw [Bool.eq_iff_iff]
    simp only [List.all_cons, List.all_nil, Bool.and_true, Bool.and_eq_true,
      Instant.admits_condition, decide_eq_true_eq]
    rfl
  rw [← selectRows_cons_ok, ← selectRows_cons_ok] at hcases
  exact hcases

variable (c₁ : s₁.Complete) (c₂ : s₂.Complete)
include c₁ c₂

/-- **Both stores fail on a range, or neither does.** -/
theorem siteFacts_cases (h : SeenAlike s₁ s₂ site) (range : Span) :
    (∃ e, s₁.siteFacts site range = .error e ∧ s₂.siteFacts site range = .error e) ∨
      s₁.siteFacts site range = .ok (s₁.siteFactsWithin site range) ∧
        s₂.siteFacts site range = .ok (s₂.siteFactsWithin site range) := by
  have hcases := h.selectRows_times range.start range.stop (· ≤ ·) fun stop t => t ≤ stop
  have hread : ∀ {s : Store}, s.Complete → s.siteFacts site range =
      selectRows (timeConditions site range.start range.stop (· ≤ ·) fun stop t => t ≤ stop)
        s.factList := by
    intro s c
    rw [siteFacts, c.factRows, ok_bind]
    rfl
  rw [← hread c₁, ← hread c₂] at hcases
  rcases hcases with herror | ⟨facts₁, facts₂, h₁, h₂, -⟩
  · exact .inl herror
  · refine .inr ⟨?_, ?_⟩
    · rw [h₁, (siteFacts_eq_ok_iff.mp h₁).2.2]
    · rw [h₂, (siteFacts_eq_ok_iff.mp h₂).2.2]

theorem liveBuckets_eq (h : SeenAlike s₁ s₂ site) (range : Span) (g : Granularity) :
    s₁.liveBuckets site range g = s₂.liveBuckets site range g := by
  rw [liveBuckets, liveBuckets]
  rcases h.siteFacts_cases c₁ c₂ range with ⟨e, h₁, h₂⟩ | ⟨h₁, h₂⟩
  · rw [h₁, h₂]
  · have halike := h.siteFactsWithin range
    have htotals : ∀ t, countFacts ((s₁.siteFactsWithin site range).filter
        (·.time.truncate g == t)) =
          countFacts ((s₂.siteFactsWithin site range).filter (·.time.truncate g == t)) :=
      fun t => (halike.filter fun σ => σ.time.truncate g == t).countFacts_eq
    rw [h₁, h₂]
    simp only [ok_bind, halike.bucketsOf_eq, htotals]

theorem countPageviews_eq (h : SeenAlike s₁ s₂ site) (start stop : Instant) :
    s₁.countPageviews site start stop = s₂.countPageviews site start stop := by
  rw [countPageviews, countPageviews]
  rcases h.siteFacts_cases c₁ c₂ ⟨start, stop⟩ with ⟨e, h₁, h₂⟩ | ⟨h₁, h₂⟩
  · rw [h₁, h₂]
  · rw [h₁, h₂]
    simp only [Except.mapError, ok_bind, (h.siteFactsWithin ⟨start, stop⟩).length_eq]

/-- **Both stores have one ranking of the values of a dimension**, and alike
facts of each value. -/
theorem exists_readRanking (h : SeenAlike s₁ s₂ site) (d : Dimension) (range : Span) :
    (∃ e, s₁.readRanking d site range = .error e ∧ s₂.readRanking d site range = .error e) ∨
      ∃ (labels : List String) (of₁ of₂ : String → List Fact),
        s₁.readRanking d site range = .ok (labels.map fun l => (l, of₁ l)) ∧
        s₂.readRanking d site range = .ok (labels.map fun l => (l, of₂ l)) ∧
        ∀ l, Alike s₁ (of₁ l) s₂ (of₂ l) := by
  have hlabel : ∀ (s : Store) (f : Fact), labelOf (s.rowsOf d) (f.ids.get d) =
      ((s.sight f).names.get d).getD unknownLabel := by
    intro s f
    rw [sight, names, PerDimension.get_ofFn, labelOf]
  rw [readRanking, readRanking, c₁.dimensionRows, c₂.dimensionRows]
  rcases h.siteFacts_cases c₁ c₂ range with ⟨e, h₁, h₂⟩ | ⟨h₁, h₂⟩
  · rw [h₁, h₂]
    exact .inl ⟨e, rfl, rfl⟩
  · rw [h₁, h₂]
    obtain ⟨labels, hranking₁, hranking₂, halike⟩ := (h.siteFactsWithin range).exists_ranking
      (fun σ => (σ.names.get d).getD unknownLabel) (hlabel s₁) (hlabel s₂)
    exact .inr ⟨labels, _, _, congrArg Except.ok hranking₁, congrArg Except.ok hranking₂, halike⟩

theorem topPages_eq (h : SeenAlike s₁ s₂ site) (start stop : Instant) (limit : ℕ) :
    s₁.topPages site start stop limit = s₂.topPages site start stop limit := by
  rw [topPages, topPages, readTopPages, readTopPages, c₁.dimensionRows, c₂.dimensionRows,
    c₁.factRows, c₂.factRows]
  rcases exists_readRanking c₁ c₂ h .path ⟨start, stop⟩ with
    ⟨e, h₁, h₂⟩ | ⟨labels, of₁, of₂, h₁, h₂, halike⟩
  · rw [h₁, h₂]
    rfl
  · rw [h₁, h₂]
    -- without a limit of zero, the first rows of both rankings have the same labels
    split
    · rfl
    · simp only [Except.mapError, ok_bind, ← List.map_take, List.map_map, Function.comp_def,
        (halike _).length_eq, (halike _).length_visitorsOf_eq]

theorem deviceUsage_eq (h : SeenAlike s₁ s₂ site) (start stop : Instant) :
    s₁.deviceUsage site start stop = s₂.deviceUsage site start stop := by
  rw [deviceUsage, deviceUsage, countPageviews_eq c₁ c₂ h]
  rcases exists_readRanking c₁ c₂ h .deviceType ⟨start, stop⟩ with
    ⟨e, h₁, h₂⟩ | ⟨labels, of₁, of₂, h₁, h₂, halike⟩
  · rw [h₁, h₂]
  · rw [h₁, h₂]
    simp only [Except.mapError, ok_bind, List.map_map, Function.comp_def,
      (halike _).length_eq]

end SeenAlike

end Store

/-! ## Answers from rollups -/

namespace Account

variable {x₁ x₂ : Account} {site : String} {p : Timestamp → Bool}

/-- Two accounts count alike facts of a site among those whose time is chosen by
`p`. -/
def CountedAlike (x₁ x₂ : Account) (site : String) (p : Timestamp → Bool) : Prop :=
  Alike x₁.store (x₁.counted.filter fun f => f.ofSite site && p f.time)
    x₂.store (x₂.counted.filter fun f => f.ofSite site && p f.time)

/-- A choice of rows of one site, whose buckets hold chosen times only. -/
structure Covers (g : Granularity) (site : String) (p : Timestamp → Bool)
    (q : RollupKey → Bool) : Prop where
  /-- Ids make no difference. -/
  byBucketAndSite : ByBucketAndSite q
  /-- The rows are of the site. -/
  ofSite : ∀ k, q k = true → k.site = site
  /-- Their buckets hold chosen times. -/
  times : ∀ k, q k = true → ∀ t : Timestamp, t.truncate g = k.bucket → p t = true

/-- The counted facts of the chosen rows are alike. -/
theorem CountedAlike.of_covers (h : CountedAlike x₁ x₂ site p) {g : Granularity}
    {q : RollupKey → Bool} (covers : Covers g site p q) :
    Alike x₁.store (x₁.counted.filter fun f => q (f.key g))
      x₂.store (x₂.counted.filter fun f => q (f.key g)) := by
  -- the choice does not look at ids, so it can be made by what a fact shows
  have hfilter : ∀ x : Account, (x.counted.filter fun f => q (f.key g)) =
      (x.counted.filter fun f => f.ofSite site && p f.time).filter fun f =>
        q ⟨(x.store.sight f).time.truncate g, (x.store.sight f).site, .replicate 0⟩ := by
    intro x
    rw [List.filter_filter]
    refine List.filter_congr fun f _ => ?_
    have hkey : q ⟨(x.store.sight f).time.truncate g, (x.store.sight f).site, .replicate 0⟩ =
        q (f.key g) := covers.byBucketAndSite _ _ rfl rfl
    rw [hkey]
    cases hq : q (f.key g) with
    | false => rfl
    | true =>
        have hsite : f.ofSite site = true := by
          rw [Fact.ofSite, beq_iff_eq]
          exact covers.ofSite _ hq
        rw [hsite, covers.times _ hq f.time rfl]
        rfl
  rw [hfilter, hfilter]
  exact h.filter fun σ => q ⟨σ.time.truncate g, σ.site, .replicate 0⟩

/-- **The chosen rows are alike.** -/
theorem CountedAlike.rows (h : CountedAlike x₁ x₂ site p) (h₁ : x₁.Balanced)
    (h₂ : x₂.Balanced) {g : Granularity} {q : RollupKey → Bool} (covers : Covers g site p q)
    {t₁ t₂ : Rollup} (rows₁ : ∀ k, t₁.get? k = Rollup.row? g x₁.counted k)
    (rows₂ : ∀ k, t₂.get? k = Rollup.row? g x₂.counted k) :
    AlikeRows x₁.store (t₁.rows.filter fun r => q r.1)
      x₂.store (t₂.rows.filter fun r => q r.1) := by
  have hholds : ∀ {x : Account}, x.Balanced →
      ∀ f ∈ x.counted.filter fun f => q (f.key g), x.store.Holds f.ids :=
    fun hx f hf => hx.holds f (hx.known f (List.mem_of_mem_filter hf))
  have hperm₁ := Rollup.filter_rows_perm rows₁ covers.byBucketAndSite
  have hperm₂ := Rollup.filter_rows_perm rows₂ covers.byBucketAndSite
  have haggregate := (h.of_covers covers).aggregate h₁.referential h₂.referential (hholds h₁)
    (hholds h₂) g
  exact (hperm₁.map _).trans (haggregate.trans (hperm₂.map _).symm)

theorem CountedAlike.dailyRows (h : CountedAlike x₁ x₂ site p) (h₁ : x₁.Balanced)
    (h₂ : x₂.Balanced) {q : RollupKey → Bool} (covers : Covers .day site p q) :
    AlikeRows x₁.store (x₁.store.dailyTable.rows.filter fun r => q r.1)
      x₂.store (x₂.store.dailyTable.rows.filter fun r => q r.1) :=
  h.rows h₁ h₂ covers h₁.daily h₂.daily

/-- **Rows of a site are selected alike** by conditions on their buckets. -/
theorem CountedAlike.selectRows (h : CountedAlike x₁ x₂ site p) (h₁ : x₁.Balanced)
    (h₂ : x₂.Balanced) (cs : List (Condition (RollupKey × Measures))) {q : RollupKey → Bool}
    (covers : Covers .day site p q)
    (shown : ∀ r : RollupKey × Measures, cs.all (·.admits r) = q r.1) :
    (∃ e, selectRows cs x₁.store.dailyTable.rows = .error e ∧
        selectRows cs x₂.store.dailyTable.rows = .error e) ∨
      ∃ selected₁ selected₂, selectRows cs x₁.store.dailyTable.rows = .ok selected₁ ∧
        selectRows cs x₂.store.dailyTable.rows = .ok selected₂ ∧
        AlikeRows x₁.store selected₁ x₂.store selected₂ := by
  have hadmitted : AlikeRows x₁.store (admittedRows cs x₁.store.dailyTable.rows)
      x₂.store (admittedRows cs x₂.store.dailyTable.rows) := by
    have hfilter : ∀ rows : List (RollupKey × Measures),
        admittedRows cs rows = rows.filter fun r => q r.1 :=
      fun rows => List.filter_congr fun r _ => shown r
    rw [hfilter, hfilter]
    exact h.dailyRows h₁ h₂ covers
  have hnil : admittedRows cs x₁.store.dailyTable.rows = [] ↔
      admittedRows cs x₂.store.dailyTable.rows = [] := by
    have hlength := List.Perm.length_eq hadmitted
    rw [List.length_map, List.length_map] at hlength
    rw [← List.length_eq_zero_iff, hlength, List.length_eq_zero_iff]
  rcases selectRows_cases rfl hnil with herror | ⟨hread₁, hread₂⟩
  · exact .inl herror
  · exact .inr ⟨_, _, hread₁, hread₂, hadmitted⟩

/-- The keys that get past the comparisons with a range of the daily rollup of a site. -/
def keyAdmitted (site : String) (range : Span) (k : RollupKey) : Bool :=
  k.site == site && range.fromMidnight.Admits k.bucket

/-- Keys of a site are chosen without regard to ids, and at whatever times. -/
theorem covers_of_site {q : RollupKey → Bool} (h : ByBucketAndSite q)
    (ofSite : ∀ k, q k = true → k.site = site) : Covers .day site (fun _ => true) q :=
  ⟨h, ofSite, fun _ _ _ _ => rfl⟩

theorem byBucketAndSite_keyAdmitted (site : String) (range : Span) :
    ByBucketAndSite (keyAdmitted site range) := by
  intro k k' hbucket hsite
  rw [keyAdmitted, keyAdmitted, hbucket, hsite]

theorem site_of_keyAdmitted {range : Span} {k : RollupKey}
    (h : keyAdmitted site range k = true) : k.site = site := by
  rw [keyAdmitted, Bool.and_eq_true, beq_iff_eq] at h
  exact h.1

/-- The moments before the midnight of today. -/
def beforeToday (now : Instant) (t : Timestamp) : Bool :=
  t.dayNumber < now.day.number

/-- An end that the store takes keeps back the rows of later days. -/
theorem covers_keyAdmitted {now : Instant} {range : Span} (storable : range.stop.Storable)
    (h : range.stop.day < now.day) :
    Covers .day site (beforeToday now) (keyAdmitted site range) where
  byBucketAndSite := byBucketAndSite_keyAdmitted site range
  ofSite _ hk := site_of_keyAdmitted hk
  times := by
    intro k hk t ht
    simp only [keyAdmitted, Bool.and_eq_true, decide_eq_true_eq] at hk
    -- a moment lies on the day of its bucket, which is no later than the range
    have hday : t.dayNumber = k.bucket.dayNumber := by
      rw [← ht, Timestamp.dayNumber_truncate_day]
    have hle : k.bucket.dayNumber ≤ range.stop.toTimestamp.dayNumber :=
      Int.ediv_le_ediv (by decide) (hk.2.2 storable)
    rw [Instant.dayNumber_toTimestamp storable] at hle
    rw [beforeToday, decide_eq_true_eq]
    rw [Day.lt_iff] at h
    omega

end Account

/-! ## All answers -/

namespace Store

/-- Two stores answer a range alike from facts and rollup. -/
structure SameRangeAnswers (s₁ s₂ : Store) (site : String) (start stop now : Instant) : Prop where
  /-- The series of every granularity. -/
  series : ∀ g, s₁.series site start stop g now = s₂.series site start stop g now
  /-- The summary. -/
  summary : s₁.summary site start stop now = s₂.summary site start stop now

/-- Two stores answer alike about a site at a time. -/
structure SameAnswers (s₁ s₂ : Store) (site : String) (now : Instant) : Prop where
  /-- The series of every range and granularity. -/
  series : ∀ start stop g, s₁.series site start stop g now = s₂.series site start stop g now
  /-- The summary of every range. -/
  summary : ∀ start stop, s₁.summary site start stop now = s₂.summary site start stop now
  /-- The most viewed pages of every range. -/
  topPages : ∀ start stop limit,
    s₁.topPages site start stop limit = s₂.topPages site start stop limit
  /-- The device classes of every range. -/
  deviceUsage : ∀ start stop, s₁.deviceUsage site start stop = s₂.deviceUsage site start stop
  /-- The number of pageviews of every range. -/
  countPageviews : ∀ start stop,
    s₁.countPageviews site start stop = s₂.countPageviews site start stop

end Store

namespace Account

/-- The totals of the historic part of a range. -/
def historicTotals (s : Store) (site : String) : Option Span → Except StoreFault Totals
  | some range => s.siteRows site range >>= Store.sumRows
  | none => .ok {}

/-- The totals of the live part of a range. -/
def liveTotals (s : Store) (site : String) : Option Span → Except StoreFault Totals
  | some range => s.siteFacts site range >>= countFacts
  | none => .ok {}

theorem splitTotals_eq (s : Store) (site : String) (parts : Split) :
    s.splitTotals site parts =
      (historicTotals s site parts.historic).bind fun historic =>
        (liveTotals s site parts.live).map historic.add := by
  obtain ⟨historic, live⟩ := parts
  unfold Store.splitTotals historicTotals liveTotals
  -- a part is absent, or what it reads is an error or a value
  cases historic with
  | none =>
      cases live with
      | none => rfl
      | some range =>
          dsimp only
          cases s.siteFacts site range with
          | error e => rfl
          | ok facts =>
              simp only [ok_bind]
              cases countFacts facts <;> rfl
  | some part =>
      dsimp only
      cases s.siteRows site part with
      | error e => rfl
      | ok rows =>
          simp only [ok_bind]
          cases Store.sumRows rows with
          | error e => rfl
          | ok totals =>
              cases live with
              | none => rfl
              | some range =>
                  dsimp only
                  cases s.siteFacts site range with
                  | error e => rfl
                  | ok facts =>
                      simp only [ok_bind]
                      cases countFacts facts <;> rfl

/-- The totals of a split range are those of its parts. -/
theorem splitTotals_eq_ok_iff {s : Store} {site : String} {parts : Split} {t : Totals} :
    s.splitTotals site parts = .ok t ↔
      ∃ past live,
        parts.historic.elim (.ok {}) (fun range => s.siteRows site range >>= Store.sumRows) =
          .ok past ∧
        parts.live.elim (.ok {}) (fun range => s.siteFacts site range >>= countFacts) = .ok live ∧
        t = past.add live := by
  have hpast : historicTotals s site parts.historic =
      parts.historic.elim (.ok {}) fun range => s.siteRows site range >>= Store.sumRows := by
    cases parts.historic <;> rfl
  have hlive : liveTotals s site parts.live =
      parts.live.elim (.ok {}) fun range => s.siteFacts site range >>= countFacts := by
    cases parts.live <;> rfl
  rw [splitTotals_eq, ← hpast, ← hlive]
  cases historicTotals s site parts.historic with
  | error cause => simp [Except.bind]
  | ok past =>
      cases liveTotals s site parts.live with
      | error cause => simp [Except.bind, Except.map]
      | ok live => simp [Except.bind, Except.map, eq_comm]

/-- Facts and rollup of a day are counted alike. -/
theorem crossCheck_eq {x₁ x₂ : Account} {site : String} (h₁ : x₁.Balanced)
    (h₂ : x₂.Balanced) (counted : CountedAlike x₁ x₂ site fun _ => true)
    (seen : Store.SeenAlike x₁.store x₂.store site) (d : Day) :
    x₁.store.crossCheck site d = x₂.store.crossCheck site d := by
  let first := Instant.midnight d
  let last := Instant.midnight (d.next?.getD d)
  have hfacts := seen.selectRows_times first last (· ≤ ·) fun stop t => t < stop
  have covers : Covers .day site (fun _ => true) fun k =>
      k.site == site && (first.Storable → k.bucket = first.toTimestamp) :=
    covers_of_site (fun k k' hbucket hsite => by simp only [hbucket, hsite]) fun k hk => by simp_all
  have hrows := counted.selectRows h₁ h₂
    [.ok (·.1.site == site), first.condition fun start r => r.1.bucket == start] covers fun r => by
    rw [Bool.eq_iff_iff]
    simp only [List.all_cons, List.all_nil, Bool.and_true, Bool.and_eq_true,
      Condition.admits_ok, Instant.admits_condition, decide_eq_true_eq, beq_iff_eq]
  simp only [Store.timeConditions] at hfacts
  unfold Store.crossCheck Store.readCrossCheck
  rw [h₁.complete.factRows, h₂.complete.factRows, h₁.complete.dailyRows, h₂.complete.dailyRows]
  simp only [ok_bind]
  rcases hfacts with ⟨e, hread₁, hread₂⟩ | ⟨facts₁, facts₂, hread₁, hread₂, hfacts⟩
  · rw [hread₁, hread₂]
    rfl
  · rw [hread₁, hread₂]
    rcases hrows with ⟨e, hread₁, hread₂⟩ | ⟨rows₁, rows₂, hread₁, hread₂, hrows⟩
    · rw [hread₁, hread₂]
      simp only [ok_bind, hfacts.countFacts_eq]
    · rw [hread₁, hread₂]
      simp only [ok_bind, hfacts.countFacts_eq, hrows.total_eq (·.count),
        hrows.total_eq (·.bounces)]

variable {x₁ x₂ : Account} {site : String} {p : Timestamp → Bool} {now : Instant}
  (h₁ : x₁.Balanced) (h₂ : x₂.Balanced) (counted : CountedAlike x₁ x₂ site p)
include h₁ h₂ counted

/-- A range of the rollup is answered alike, if only rows of counted facts get past its
comparisons. -/
theorem historic_eq {range : Span} (covers : Covers .day site p (keyAdmitted site range)) :
    x₁.store.historicBuckets site range = x₂.store.historicBuckets site range ∧
      (x₁.store.siteRows site range >>= Store.sumRows) =
        (x₂.store.siteRows site range >>= Store.sumRows) := by
  have hcases := counted.selectRows h₁ h₂
    [.ok (·.1.site == site), (Granularity.day.truncate range.start).condition (· ≤ ·.1.bucket),
      range.stop.condition fun stop r => r.1.bucket ≤ stop] covers fun r => by
    rw [Bool.eq_iff_iff]
    simp only [keyAdmitted, List.all_cons, List.all_nil, Bool.and_true, Bool.and_eq_true,
      Condition.admits_ok, Instant.admits_condition, decide_eq_true_eq]
    rfl
  rw [Store.historicBuckets, Store.historicBuckets, Store.siteRows, Store.siteRows,
    h₁.complete.dailyRows, h₂.complete.dailyRows, ok_bind, ok_bind]
  rcases hcases with ⟨e, hread₁, hread₂⟩ | ⟨rows₁, rows₂, hread₁, hread₂, halike⟩
  · rw [hread₁, hread₂]
    exact ⟨rfl, rfl⟩
  · rw [hread₁, hread₂]
    exact ⟨halike.historicBuckets_eq, halike.sumRows_eq⟩

variable (seen : Store.SeenAlike x₁.store x₂.store site) {start stop : Instant}
  (covers : ∀ parts, split? start stop now = some parts → ∀ range, parts.historic = some range →
    Covers .day site p (keyAdmitted site range))
include seen covers

theorem buckets_eq (g : Granularity) :
    x₁.store.buckets site start stop g now = x₂.store.buckets site start stop g now := by
  have hlive := fun range g => seen.liveBuckets_eq h₁.complete h₂.complete range g
  have hday : ∀ parts, split? start stop now = some parts →
      x₁.store.dayBuckets site parts = x₂.store.dayBuckets site parts := by
    intro parts hsplit
    rw [Store.dayBuckets, Store.dayBuckets]
    cases hhistoric : parts.historic with
    | none => simp only [hlive]
    | some range =>
        simp only [hlive, (historic_eq h₁ h₂ counted (covers parts hsplit range hhistoric)).1]
  unfold Store.buckets
  -- only the day series reads the rollup
  cases g with
  | hour | month => simp only [hlive]
  | day =>
      cases hsplit : split? start stop now with
      | none => rfl
      | some parts => simp only [hday parts hsplit]

theorem totals_eq :
    x₁.store.totals site start stop now = x₂.store.totals site start stop now := by
  have hlive : ∀ part, liveTotals x₁.store site part = liveTotals x₂.store site part := by
    intro part
    cases part with
    | none => rfl
    | some range =>
        rw [liveTotals, liveTotals]
        rcases seen.siteFacts_cases h₁.complete h₂.complete range with
          ⟨e, hread₁, hread₂⟩ | ⟨hread₁, hread₂⟩
        · rw [hread₁, hread₂]
        · rw [hread₁, hread₂, ok_bind, ok_bind, (seen.siteFactsWithin range).countFacts_eq]
  have hsplit : ∀ parts, split? start stop now = some parts →
      x₁.store.splitTotals site parts = x₂.store.splitTotals site parts := by
    intro parts hparts
    have hhistoric : historicTotals x₁.store site parts.historic =
        historicTotals x₂.store site parts.historic := by
      cases hrange : parts.historic with
      | none => rfl
      | some range => exact (historic_eq h₁ h₂ counted (covers parts hparts range hrange)).2
    rw [splitTotals_eq, splitTotals_eq, hhistoric, hlive]
  unfold Store.totals
  cases hparts : split? start stop now with
  | none => rfl
  | some parts => simp only [hsplit parts hparts]

/-- **Accounts that hold alike facts of a site, and count alike facts of it, answer a range
alike**, if the counted ones are all that it can read of the rollup. -/
theorem sameRangeAnswers : x₁.store.SameRangeAnswers x₂.store site start stop now where
  series g := by
    rw [Store.series, Store.series, buckets_eq h₁ h₂ counted seen covers]
  summary := by
    rw [Store.summary, Store.summary, totals_eq h₁ h₂ counted seen covers]

omit counted seen covers in
/-- **Accounts that hold and count alike facts of a site answer alike.** -/
theorem sameAnswers (counted : CountedAlike x₁ x₂ site fun _ => true)
    (seen : Store.SeenAlike x₁.store x₂.store site) :
    x₁.store.SameAnswers x₂.store site now := by
  have hranges : ∀ start stop, x₁.store.SameRangeAnswers x₂.store site start stop now :=
    fun start stop => sameRangeAnswers h₁ h₂ counted seen fun _ _ range _ =>
      covers_of_site (byBucketAndSite_keyAdmitted site range) fun _ => site_of_keyAdmitted
  exact {
    series := fun start stop => (hranges start stop).series
    summary := fun start stop => (hranges start stop).summary
    topPages := seen.topPages_eq h₁.complete h₂.complete
    deviceUsage := seen.deviceUsage_eq h₁.complete h₂.complete
    countPageviews := seen.countPageviews_eq h₁.complete h₂.complete }

end Account

end Footfall
