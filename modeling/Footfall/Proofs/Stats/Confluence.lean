import Mathlib
import Footfall.Proofs.Rollup.Chronicle
import Footfall.Proofs.Rollup.Counts
import Footfall.Proofs.Stats.Listing

/-!
# The order of events makes no difference

Two runs that record the same visits in any two orders give out different ids and
leave different rollups behind on the way.  Once both have compacted the days of
the past for good, what they answer is the same: the last compaction of a day counts
all of its facts, and which facts there are is told by the visits.

Rows of today and of later days may be left behind as well.  They are not counted, but
a range of the past is compared with them, and if it ends in a leap second it is refused
there.  Without such a row it is empty.

## Main Definitions

* `Store.EndsCompacted` — every past day is compacted after its last visit
* `EndsInPastLeap` — a range ends in a leap second of the past
* `SettledAnswers` — two stores answer alike, but for a refusal of such a range

## Main Statements

* `Account.seenAlike_of_perm` — the same visits leave alike facts
* `Account.Balanced.counted_perm` — after the last compactions, all past facts are counted
* `Store.sameUnlessRefused_of_endsInPastLeap` — where two stores may disagree
* `Store.same_answers_of_same_visits` — hence all other answers are the same
-/

namespace Footfall

/-! ## What was seen -/

/-- The sightings of a run are those of its visits. -/
theorem Chronicle.seen_eq_flatMap {as : List Action} (dated : ∀ v ∈ visitsOf as, v.Dated)
    (now : Instant) :
    (Chronicle.of as).seen = (visitsOf as).flatMap fun v => (v.sighting? now).toList := by
  rw [seen_of]
  induction as with
  | nil => rfl
  | cons a as ih =>
      rw [List.flatMap_cons]
      cases a with
      | record v clock =>
          have hvisits : visitsOf (.record v clock :: as) = v :: visitsOf as := rfl
          rw [hvisits] at dated ⊢
          rw [List.flatMap_cons, Action.sightings,
            (dated v List.mem_cons_self).sighting?_eq clock now,
            ih fun w hw => dated w (List.mem_cons_of_mem v hw)]
      | resolve k => exact ih dated
      | compact d clock => exact ih dated

namespace Account

variable {as bs : List Action} {x : Account} {d : Day} {now : Instant} {site : String}

/-- **The same visits leave alike facts**, in whatever order they came. -/
theorem seenAlike_of_perm (dated : ∀ v ∈ visitsOf as, v.Dated)
    (same : (visitsOf as).Perm (visitsOf bs)) (site : String) :
    (opening.run as).store.SeenAlike (opening.run bs).store site := by
  have halike : Alike (opening.run as).store (opening.run as).store.factList
      (opening.run bs).store (opening.run bs).store.factList := by
    rw [Alike, (tells_run as).seen, (tells_run bs).seen,
      Chronicle.seen_eq_flatMap dated (.midnight .first),
      Chronicle.seen_eq_flatMap (fun v hv => dated v (same.mem_iff.mpr hv)) (.midnight .first)]
    exact same.flatMap_right _
  exact halike.filter fun σ => σ.site == site

/-- Dated visits leave facts in the years 0 to 9999. -/
theorem fourDigit_of_dated (dated : ∀ v ∈ visitsOf as, v.Dated) :
    ∀ f ∈ (opening.run as).store.factList, f.time.FourDigit :=
  fun _ hf => fourDigit_of_inYears hf fun v now ha _ =>
    (dated v (mem_visitsOf ha)).inYears now

/-! ## What is counted -/

/-- All facts of a day stay counted as long as no visit is recorded. -/
theorem Balanced.counted_step (h : x.Balanced) {a : Action} (ha : ¬ a.IsRecord)
    (hd : factsOfDay d x.counted = x.store.factsOn d) :
    factsOfDay d (x.step a).counted = (x.step a).store.factsOn d := by
  have hstep := h.becomes_step a
  generalize x.step a = y at hstep
  cases hstep with
  | quiet grown =>
      rw [Store.factsOn, grown.factList]
      exact hd
  | fact => exact absurd trivial ha
  | @compacted e clock =>
      by_cases hde : d = e
      · rw [hde]
        exact factsOfDay_recount_self x e
      · exact (factsOfDay_recount_of_ne x hde).trans hd

theorem Balanced.counted_run (h : x.Balanced) (unrecorded : ∀ a ∈ as, ¬ a.IsRecord)
    (hd : factsOfDay d x.counted = x.store.factsOn d) :
    factsOfDay d (x.run as).counted = (x.run as).store.factsOn d := by
  induction as generalizing x with
  | nil => exact hd
  | cons a as ih =>
      exact ih (h.step a) (fun b hb => unrecorded b (List.mem_cons_of_mem a hb))
        (h.counted_step (unrecorded a List.mem_cons_self) hd)

end Account

namespace Store

/-- Every past day on which there are facts was compacted, and no visit was
recorded after that. -/
def EndsCompacted (as : List Action) (now : Instant) : Prop :=
  ∀ d, d < now.day → (migrated.runAll as).factsOn d ≠ [] →
    ∃ before clock after, as = before ++ .compact d clock :: after ∧
      migrated.Compacts before d clock ∧ ∀ a ∈ after, ¬ a.IsRecord

end Store

namespace Account

variable {as bs : List Action} {x : Account} {d : Day} {now : Instant} {site : String}

/-- After the last compaction of a past day, all of its facts are counted. -/
theorem counted_of_endsCompacted (h : Store.EndsCompacted as now) (hd : d < now.day) :
    factsOfDay d (opening.run as).counted = (opening.run as).store.factsOn d := by
  -- a day without facts need not be compacted
  by_cases hnil : (opening.run as).store.factsOn d = []
  · have hfirst := (balanced_run as).first d
    rw [hnil] at hfirst ⊢
    exact List.prefix_nil.mp hfirst
  · rw [store_run_opening] at hnil
    obtain ⟨before, clock, after, rfl, hcompacts, hafter⟩ := h d hd hnil
    have hbefore := balanced_run before
    rw [run_append]
    refine (hbefore.step (.compact d clock)).counted_run hafter ?_
    rw [step_of_compactable hbefore.complete (compacts_iff.mp hcompacts)]
    exact factsOfDay_recount_self _ d

/-- **If all facts of every past day are counted, the past facts are the counted
ones.** -/
theorem Balanced.counted_perm (h : x.Balanced)
    (years : ∀ f ∈ x.store.factList, f.time.FourDigit)
    (hcounted : ∀ d, d < now.day → factsOfDay d x.counted = x.store.factsOn d) :
    (x.counted.filter fun f => beforeToday now f.time).Perm
      (x.store.factList.filter fun f => beforeToday now f.time) := by
  refine List.perm_iff_count.mpr fun f => ?_
  by_cases hpast : ∃ d : Day, f.time.OnDay d ∧ d < now.day
  · obtain ⟨d, hon, hd⟩ := hpast
    have hbefore : beforeToday now f.time = true := by
      rw [beforeToday, hon, decide_eq_true_eq]
      exact hd
    have hday := congrArg (List.count f) (hcounted d hd)
    rw [Store.factsOn, factsOfDay, List.count_filter (by simpa using hon),
      List.count_filter (by simpa using hon)] at hday
    have hcount := fun facts : List Fact => List.count_filter (l := facts)
      (p := fun f : Fact => beforeToday now f.time) hbefore
    rw [hcount, hcount, hday]
  · -- a fact that lies on no past day is in neither list
    have hnone : ∀ facts : List Fact, (∀ b ∈ facts, b ∈ x.store.factList) →
        (facts.filter fun b => beforeToday now b.time).count f = 0 := by
      intro facts hfacts
      rw [List.count_eq_zero, List.mem_filter]
      rintro ⟨hf, hbefore⟩
      obtain ⟨d, hon, -⟩ := (years f (hfacts f hf)).exists_onDay
      rw [beforeToday, hon, decide_eq_true_eq] at hbefore
      exact hpast ⟨d, hon, hbefore⟩
    rw [hnone _ h.known, hnone _ fun _ hb => hb]

/-- Alike facts are counted alike if all of them are counted. -/
theorem countedAlike_of_perm {x₁ x₂ : Account} {p : Timestamp → Bool}
    (seen : x₁.store.SeenAlike x₂.store site)
    (h₁ : (x₁.counted.filter fun f => p f.time).Perm
      (x₁.store.factList.filter fun f => p f.time))
    (h₂ : (x₂.counted.filter fun f => p f.time).Perm
      (x₂.store.factList.filter fun f => p f.time)) : CountedAlike x₁ x₂ site p := by
  have hsite : ∀ {x : Account}, (x.counted.filter fun f => p f.time).Perm
      (x.store.factList.filter fun f => p f.time) →
      (x.counted.filter fun f => f.ofSite site && p f.time).Perm
        ((x.store.factList.filter (·.ofSite site)).filter fun f => p f.time) := by
    intro x h
    have hfilter := h.filter (·.ofSite site)
    rw [List.filter_filter, List.filter_filter] at hfilter
    rw [List.filter_filter]
    simpa only [Bool.and_comm] using hfilter
  have hseen := seen.filter fun σ => p σ.time
  exact ((hsite h₁).map _).trans (hseen.trans ((hsite h₂).map _).symm)

end Account

/-! ## What is answered -/

/-- A range up to `stop` ends in a leap second of the past, up to the last microsecond of
yesterday.  So the rows of the rollup are compared with an end that the store does not take. -/
structure EndsInPastLeap (stop now : Instant) : Prop where
  /-- The end is a leap second. -/
  leap : stop.isLeap = true
  /-- It is history. -/
  past : ∃ yesterday : Day, yesterday.number + 1 = now.day.number ∧ stop ≤ .endOfDay yesterday

/-- There is nothing to answer, or the store refuses a text. -/
def EmptyOrRefused {α : Type} (nothing : α) (fault : StoreFault) (x : Except StatsError α) : Prop :=
  x = .ok nothing ∨ x = .error (.query fault)

/-- Two answers are the same, unless one of them is empty and the other one is refused. -/
def SameUnlessRefused {α : Type} (nothing : α) (x y : Except StatsError α) : Prop :=
  x = y ∨ ∃ fault, EmptyOrRefused nothing fault x ∧ EmptyOrRefused nothing fault y

/-- **Two stores answer alike** about a site, if both have compacted the past.  They need not
agree on whether a day series or a summary is refused that ends in a leap second of the past. -/
structure SettledAnswers (s₁ s₂ : Store) (site : String) (now : Instant) : Prop where
  /-- All series and the summary of a range that ends elsewhere. -/
  ranges : ∀ start stop, ¬ EndsInPastLeap stop now →
    s₁.SameRangeAnswers s₂ site start stop now
  /-- The series of hours and months, which are counted from facts. -/
  fromFacts : ∀ start stop g, g ≠ .day →
    s₁.series site start stop g now = s₂.series site start stop g now
  /-- The day series of a range that ends in a leap second. -/
  days : ∀ start stop, EndsInPastLeap stop now →
    SameUnlessRefused [] (s₁.series site start stop .day now) (s₂.series site start stop .day now)
  /-- The summary of a range that ends in a leap second. -/
  summary : ∀ start stop, EndsInPastLeap stop now →
    SameUnlessRefused ⟨0, 0, 0.0⟩ (s₁.summary site start stop now) (s₂.summary site start stop now)
  /-- The most viewed pages of every range. -/
  topPages : ∀ start stop limit,
    s₁.topPages site start stop limit = s₂.topPages site start stop limit
  /-- The device classes of every range. -/
  deviceUsage : ∀ start stop, s₁.deviceUsage site start stop = s₂.deviceUsage site start stop
  /-- The number of pageviews of every range. -/
  countPageviews : ∀ start stop,
    s₁.countPageviews site start stop = s₂.countPageviews site start stop
  /-- All pages of the listing of every range, up to ids. -/
  listing : ∀ start stop limit,
    SameContents (s₁.fullListing site start stop limit) (s₂.fullListing site start stop limit)

namespace Store

section PastLeap

variable {s s₁ s₂ : Store} {site : String} {start stop now : Instant} {fault : StoreFault}

/-- A range that ends in a leap second of the past is all history. -/
theorem split?_of_endsInPastLeap (h : EndsInPastLeap stop now) (order : start ≤ stop) :
    split? start stop now = some ⟨some ⟨start, stop⟩, none⟩ := by
  obtain ⟨yesterday, hyesterday, hle⟩ := h.past
  have hpast : stop < .midnight now.day := by
    have hday := Instant.le_endOfDay hle
    rw [Day.le_iff] at hday
    rw [Instant.lt_midnight_iff, Day.lt_iff]
    omega
  have hstart : start < .midnight now.day := Int.lt_of_le_of_lt order hpast
  have hlive : ¬ .midnight now.day ≤ stop := Int.not_le.mpr hpast
  rw [split?_of_pred hyesterday, if_pos hstart, if_neg hlive, Instant.min, if_pos hle]

/-- The series of a range that is all history is that of its rows. -/
theorem series_of_siteRows_nil (hrows : s.siteRows site ⟨start, stop⟩ = .ok [])
    (hrange : checkRange start stop = .ok ()) (hcap : checkBuckets .day start stop = .ok ())
    (hsplit : split? start stop now = some ⟨some ⟨start, stop⟩, none⟩) :
    s.series site start stop .day now = .ok [] := by
  have hbuckets : s.historicBuckets site ⟨start, stop⟩ = .ok [] := by
    rw [historicBuckets, hrows, ok_bind, List.map_nil,
      show distinct ([] : List String) = [] from rfl, List.mergeSort_nil]
    rfl
  rw [series, buckets, hrange, hcap]
  simp only [hsplit, dayBuckets, hbuckets]
  rfl

theorem series_of_siteRows_error (hrows : s.siteRows site ⟨start, stop⟩ = .error fault)
    (hrange : checkRange start stop = .ok ()) (hcap : checkBuckets .day start stop = .ok ())
    (hsplit : split? start stop now = some ⟨some ⟨start, stop⟩, none⟩) :
    s.series site start stop .day now = .error (.query fault) := by
  rw [series, buckets, hrange, hcap]
  simp only [hsplit, dayBuckets, historicBuckets, hrows]
  rfl

theorem emptyOrRefused_summary
    (hrows : s.siteRows site ⟨start, stop⟩ = .ok [] ∨ s.siteRows site ⟨start, stop⟩ = .error fault)
    (hrange : checkRange start stop = .ok ())
    (hsplit : split? start stop now = some ⟨some ⟨start, stop⟩, none⟩) :
    EmptyOrRefused ⟨0, 0, 0.0⟩ fault (s.summary site start stop now) := by
  rw [summary, totals, hrange]
  simp only [hsplit, splitTotals]
  rcases hrows with h | h
  · rw [h]
    exact .inl rfl
  · rw [h]
    exact .inr rfl

/-- **Stores may disagree on such a range only by a refusal**, whatever rows they have. -/
theorem sameUnlessRefused_of_endsInPastLeap (c₁ : s₁.Complete) (c₂ : s₂.Complete)
    (h : EndsInPastLeap stop now) (site : String) (start : Instant) :
    SameUnlessRefused [] (s₁.series site start stop .day now)
        (s₂.series site start stop .day now) ∧
      SameUnlessRefused ⟨0, 0, 0.0⟩ (s₁.summary site start stop now)
        (s₂.summary site start stop now) := by
  have hunstorable : ¬ stop.Storable := fun storable => by
    have hleap := h.leap
    rw [storable.1] at hleap
    cases hleap
  let range : Span := ⟨start, stop⟩
  obtain ⟨fault, hrows⟩ : ∃ fault, ∀ s : Store, s.Complete →
      s.siteRows site range = .ok [] ∨ s.siteRows site range = .error fault :=
    siteRows_of_not_storable hunstorable site
  cases hrange : checkRange start stop with
  | error e =>
      constructor
      · exact .inl (by rw [series, series, buckets, buckets, hrange]; rfl)
      · exact .inl (by rw [summary, summary, totals, totals, hrange]; rfl)
  | ok u =>
      have hsplit := split?_of_endsInPastLeap h (checkRange_eq_ok_iff.mp hrange)
      constructor
      · cases hcap : checkBuckets .day start stop with
        | error e => exact .inl (by rw [series, series, buckets, buckets, hrange, hcap]; rfl)
        | ok u =>
            have hseries : ∀ s : Store, s.Complete →
                EmptyOrRefused [] fault (s.series site start stop .day now) := fun s c =>
              (hrows s c).imp (series_of_siteRows_nil · hrange hcap hsplit)
                (series_of_siteRows_error · hrange hcap hsplit)
            exact .inr ⟨fault, hseries s₁ c₁, hseries s₂ c₂⟩
      · exact .inr ⟨fault, emptyOrRefused_summary (hrows s₁ c₁) hrange hsplit,
          emptyOrRefused_summary (hrows s₂ c₂) hrange hsplit⟩

end PastLeap

end Store

namespace Account

/-- Facts of the years up to 9999 all come before a later day. -/
theorem CountedAlike.of_late {x₁ x₂ : Account} (h₁ : x₁.Balanced) (h₂ : x₂.Balanced)
    (years₁ : ∀ f ∈ x₁.store.factList, f.time.FourDigit)
    (years₂ : ∀ f ∈ x₂.store.factList, f.time.FourDigit) (late : ¬ now.day.Storable)
    (h : CountedAlike x₁ x₂ site (beforeToday now)) : CountedAlike x₁ x₂ site fun _ => true := by
  have hall : ∀ {x : Account}, x.Balanced → (∀ f ∈ x.store.factList, f.time.FourDigit) →
      (x.counted.filter fun f => f.ofSite site && beforeToday now f.time) =
        x.counted.filter fun f => f.ofSite site && true := by
    intro x hx years
    refine List.filter_congr fun f hf => ?_
    obtain ⟨d, hon, storable⟩ := (years f (hx.known f hf)).exists_onDay
    have hbefore : beforeToday now f.time = true := by
      rw [beforeToday, hon, decide_eq_true_eq]
      exact Day.not_le.mp fun hle => late (storable.of_le hle)
    rw [hbefore]
  rw [CountedAlike, hall h₁ years₁, hall h₂ years₂] at h
  exact h

/-- Of a range that does not end in a leap second of the past, only rows of past facts can be
read. -/
theorem covers_historic {start stop : Instant} {parts : Split} {range : Span}
    (storable : now.day.Storable) (h : ¬ EndsInPastLeap stop now)
    (hparts : split? start stop now = some parts) (hrange : parts.historic = some range) :
    Covers .day site (beforeToday now) (keyAdmitted site range) := by
  obtain ⟨yesterday, hyesterday⟩ := exists_pred_of_split? hparts
  obtain ⟨-, rfl⟩ := (mem_historic_iff hparts hyesterday).mp hrange
  have hle : yesterday ≤ now.day := by
    rw [Day.le_iff]
    omega
  have hstorable : yesterday.Storable := storable.of_le hle
  apply covers_keyAdmitted
  · show (stop.min (.endOfDay yesterday)).Storable
    unfold Instant.min
    split
    · next hle =>
      refine ⟨?_, hstorable.of_le (Instant.le_endOfDay hle)⟩
      by_contra hleap
      exact h ⟨Bool.not_eq_false _ ▸ hleap, yesterday, hyesterday, hle⟩
    · exact Instant.storable_endOfDay_iff.mpr hstorable
  · exact (historic_bounds hparts hrange).2.2

end Account

namespace Store

/-- **Two runs that record the same visits, in any two orders and with any compactions between,
answer alike about every site** once both have compacted the past. -/
theorem same_answers_of_same_visits {as bs : List Action}
    (dated : ∀ v ∈ visitsOf as, v.Dated) (same : (visitsOf as).Perm (visitsOf bs))
    (now : Instant) (compacted₁ : EndsCompacted as now) (compacted₂ : EndsCompacted bs now)
    (site : String) : SettledAnswers (migrated.runAll as) (migrated.runAll bs) site now := by
  have h₁ := Account.balanced_run as
  have h₂ := Account.balanced_run bs
  have years₁ := Account.fourDigit_of_dated dated
  have years₂ : ∀ f ∈ (Account.opening.run bs).store.factList, f.time.FourDigit :=
    Account.fourDigit_of_dated fun v hv => dated v (same.mem_iff.mpr hv)
  have seen := Account.seenAlike_of_perm dated same site
  have counted := Account.countedAlike_of_perm seen
    (h₁.counted_perm years₁ fun d hd => Account.counted_of_endsCompacted compacted₁ hd)
    (h₂.counted_perm years₂ fun d hd => Account.counted_of_endsCompacted compacted₂ hd)
  rw [← Account.store_run_opening, ← Account.store_run_opening]
  exact {
    ranges := fun start stop h => by
      by_cases storable : now.day.Storable
      · exact Account.sameRangeAnswers h₁ h₂ counted seen fun parts hparts range hrange =>
          Account.covers_historic storable h hparts hrange
      · have hanswers : SameAnswers _ _ site now := Account.sameAnswers h₁ h₂
          (counted.of_late h₁ h₂ years₁ years₂ storable) seen
        exact ⟨hanswers.series start stop, hanswers.summary start stop⟩
    fromFacts := fun start stop g hg => by
      have hlive := seen.liveBuckets_eq h₁.complete h₂.complete ⟨start, stop⟩ g
      cases g with
      | day => exact absurd rfl hg
      | hour | month => simp only [series, buckets, hlive]
    days := fun start stop h =>
      (sameUnlessRefused_of_endsInPastLeap h₁.complete h₂.complete h site start).1
    summary := fun start stop h =>
      (sameUnlessRefused_of_endsInPastLeap h₁.complete h₂.complete h site start).2
    topPages := seen.topPages_eq h₁.complete h₂.complete
    deviceUsage := seen.deviceUsage_eq h₁.complete h₂.complete
    countPageviews := seen.countPageviews_eq h₁.complete h₂.complete
    listing := seen.sameContents h₁.complete h₂.complete (fun f hf _ => years₁ f hf)
      fun f hf _ => years₂ f hf }

/-- If all visits are of one day, no other day has facts. -/
theorem eq_of_factsOn {as : List Action} {d e : Day}
    (days : ∀ v now, .record v now ∈ as → (v.time now).day = d)
    (hfacts : (migrated.runAll as).factsOn e ≠ []) : e = d := by
  rw [← Account.store_run_opening] at hfacts
  obtain ⟨f, hf⟩ := List.exists_mem_of_ne_nil _ hfacts
  obtain ⟨hf, he⟩ := List.mem_filter.mp hf
  obtain ⟨v, record, hmem, hsight⟩ := Account.exists_record hf
  obtain ⟨storable, htime, -⟩ := Visit.sighting?_eq_some hsight
  have hd : f.time.OnDay d := by
    rw [← days v record hmem, show f.time = (v.time record).toTimestamp from htime]
    exact Instant.dayNumber_toTimestamp storable
  exact (of_decide_eq_true he).unique hd

/-- Visits of one day, and its compaction after them. -/
theorem endsCompacted_concat {as : List Action} {d : Day} {clock : Instant}
    (h : Compactable d clock) (days : ∀ v now, .record v now ∈ as → (v.time now).day = d)
    (now : Instant) : EndsCompacted (as ++ [.compact d clock]) now := by
  intro e _ hfacts
  obtain rfl := eq_of_factsOn (fun v now hrecord => days v now (by simpa using hrecord)) hfacts
  exact ⟨as, clock, [], rfl, Account.compacts_iff.mpr h, by simp⟩

/-- On the day of all visits, nothing has to be compacted. -/
theorem endsCompacted_of_today {as : List Action} {now : Instant}
    (days : ∀ v clock, .record v clock ∈ as → (v.time clock).day = now.day) :
    EndsCompacted as now := by
  intro e he hfacts
  rw [eq_of_factsOn days hfacts, Day.lt_iff] at he
  omega

/-- The visits among some views and compactions are of the day of the views. -/
theorem days_of_views {as : List Action} {d : Day}
    (h : ∀ a ∈ as, (∃ path, a = viewOn d "blog" path) ∨ ∃ e clock, a = .compact e clock) :
    ∀ v now, .record v now ∈ as → (v.time now).day = d := by
  intro v now hrecord
  rcases h _ hrecord with ⟨path, heq⟩ | ⟨e, clock, heq⟩
  · obtain ⟨rfl, rfl⟩ := Action.record.inj heq
    exact Instant.day_midnight d
  · cases heq

/-- Two views with a compaction between them, and one after. -/
def viewsCompactedTwice : List Action :=
  [viewOn (sampleDay 0) "blog" "/", .compact (sampleDay 0) (.midnight (sampleDay 3)),
    viewOn (sampleDay 0) "blog" "/about"] ++ [.compact (sampleDay 0) (.midnight (sampleDay 3))]

/-- The same views in the other order, and a compaction after them. -/
def viewsCompactedOnce : List Action :=
  [viewOn (sampleDay 0) "blog" "/about", viewOn (sampleDay 0) "blog" "/"] ++
    [.compact (sampleDay 0) (.midnight (sampleDay 3))]

theorem same_answers_of_views :
    (∀ v ∈ visitsOf viewsCompactedTwice, v.Dated) ∧
      (visitsOf viewsCompactedTwice).Perm (visitsOf viewsCompactedOnce) ∧
      EndsCompacted viewsCompactedTwice (.midnight (sampleDay 13)) ∧
      EndsCompacted viewsCompactedOnce (.midnight (sampleDay 13)) ∧
      SettledAnswers (migrated.runAll viewsCompactedTwice) (migrated.runAll viewsCompactedOnce)
        "blog" (.midnight (sampleDay 13)) := by
  have dated : ∀ v ∈ visitsOf viewsCompactedTwice, v.Dated := by
    intro v hv
    have hv : v ∈ [_, _] := hv
    simp only [List.mem_cons, List.not_mem_nil, or_false] at hv
    rcases hv with rfl | rfl
    · exact ⟨_, rfl, by decide⟩
    · exact ⟨_, rfl, by decide⟩
  have same : (visitsOf viewsCompactedTwice).Perm (visitsOf viewsCompactedOnce) :=
    List.Perm.swap _ _ []
  have compacted₁ : EndsCompacted viewsCompactedTwice (.midnight (sampleDay 13)) :=
    endsCompacted_concat (by decide) (days_of_views (by simp)) _
  have compacted₂ : EndsCompacted viewsCompactedOnce (.midnight (sampleDay 13)) :=
    endsCompacted_concat (by decide) (days_of_views (by simp)) _
  exact ⟨dated, same, compacted₁, compacted₂,
    same_answers_of_same_visits dated same _ compacted₁ compacted₂ "blog"⟩

/-- Runs with the same visits may answer differently: with a row of a later day, a day series up
to a leap second is refused, and without one it is empty. -/
theorem not_sameAnswers_in_leapSecond :
    ∃ (as bs : List Action) (now : Instant), (∀ v ∈ visitsOf as, v.Dated) ∧
      (visitsOf as).Perm (visitsOf bs) ∧ EndsCompacted as now ∧ EndsCompacted bs now ∧
      ¬ (migrated.runAll as).SameAnswers (migrated.runAll bs) "blog" now := by
  let d : Day := ⟨17171, by decide, by decide⟩
  let as : List Action := [viewOn d "blog" "/", .compact d (.midnight (sampleDay 0))]
  let bs : List Action := [viewOn d "blog" "/"]
  have hrange : checkRange (.midnight newYearsEve) leapSecond = .ok () := by decide
  have hcap : checkBuckets .day (.midnight newYearsEve) leapSecond = .ok () := by decide
  have hsplit : split? (.midnight newYearsEve) leapSecond (.midnight d) =
      some ⟨some ⟨.midnight newYearsEve, leapSecond⟩, none⟩ := by decide
  have complete : (migrated.runAll bs).Complete :=
    Account.store_run_opening bs ▸ (Account.balanced_run bs).complete
  have hnil : (migrated.runAll bs).siteRows "blog" ⟨.midnight newYearsEve, leapSecond⟩ =
      .ok [] := siteRows_eq_ok_iff.mpr ⟨complete.daily, by decide, by decide⟩
  obtain ⟨fault, hrefused⟩ : ∃ fault, (migrated.runAll as).siteRows "blog"
      ⟨.midnight newYearsEve, leapSecond⟩ = .error fault := by
    cases hrows : (migrated.runAll as).siteRows "blog" ⟨.midnight newYearsEve, leapSecond⟩ with
    | error fault => exact ⟨fault, rfl⟩
    | ok rows =>
        refine absurd (siteRows_eq_ok_iff.mp hrows).2.1 ?_
        decide
  have hday : (Instant.midnight d).day = d := Instant.day_midnight d
  have compacted₁ : EndsCompacted as (.midnight d) :=
    endsCompacted_of_today (hday.symm ▸ days_of_views (by simp [as]))
  have compacted₂ : EndsCompacted bs (.midnight d) :=
    endsCompacted_of_today (hday.symm ▸ days_of_views (by simp [bs]))
  refine ⟨as, bs, .midnight d, ?_, .refl _, compacted₁, compacted₂, fun h => ?_⟩
  · intro v hv
    obtain rfl := List.mem_singleton.mp (hv : v ∈ [_])
    exact ⟨_, rfl, by decide⟩
  · have hseries := h.series (.midnight newYearsEve) leapSecond .day
    rw [series_of_siteRows_error hrefused hrange hcap hsplit,
      series_of_siteRows_nil hnil hrange hcap hsplit] at hseries
    cases hseries

end Store

end Footfall
