import Mathlib
import Footfall.Proofs.Stats.Handover

/-!
# Watermarks and cross-checks find the same days

There are two ways to learn that a rollup is out of date.  A watermark tells how
many facts of a day were counted, whatever their sites.  A cross-check compares
pageviews and bounces of one site.  They agree, for a fact that was not counted
is missing in the pageviews of its site, and where all facts were counted the
bounces of the rows are those of the visitors.

## Main Definitions

* `Store.recordedFacts` — the number of facts that the watermark of a day tells
* `Store.SumsAgree` — pageviews and bounces of a site are the same in rows and
  facts
* `Store.CrossChecked` — a cross-check is answered, and it is consistent
* `Store.AsksDay` — the store can be asked for the facts of a day
* `Store.MatchesCrossChecks` — the scan for stale days finds what cross-checks
  find

## Main Statements

* `Store.crossChecked_iff` — a cross-check is consistent exactly if the sums
  agree and can be counted
* `Store.crossChecked_iff_of_not_storable` — after the year 9999, exactly if there is nothing
* `Account.Balanced.sumsAgree_iff` — the sums of all sites agree exactly if all
  facts of the day were counted
* `Store.stale_days_match_cross_checks` — both in every reachable state
-/

namespace Footfall

namespace Store

variable {s : Store} {site : String} {d : Day}

/-- How many facts of a day were counted, as its watermark tells; none without one. -/
def recordedFacts (s : Store) (d : Day) : ℤ :=
  (s.marks.get? (.midnight d)).elim 0 (·.factCount)

/-- Summed over reference ids, the daily rows of a site on a day have the
pageviews of its facts and the bounces of its visitors. -/
structure SumsAgree (s : Store) (site : String) (d : Day) : Prop where
  /-- The pageviews are the facts. -/
  pageviews : total ((s.siteRowsAt site d).map (·.2.count)) = (s.siteFactsOn site d).length
  /-- The bounces are the visitors with a single view. -/
  bounces : total ((s.siteRowsAt site d).map (·.2.bounces)) =
    (Totals.ofFacts (s.siteFactsOn site d)).bounces

/-- The cross-check of a site and a day is answered, and it is consistent. -/
def CrossChecked (s : Store) (site : String) (d : Day) : Prop :=
  ∃ check, s.crossCheck site d = .ok check ∧ check.consistent = true

/-- The store can be asked for the facts of the day: it takes both midnights, or it takes the
first one and no fact comes after that. -/
def AsksDay (s : Store) (d : Day) : Prop :=
  d.Storable ∧ ∃ next, d.next? = some next ∧
    (next.Storable ∨ ∀ f ∈ s.factList, ¬ .midnight d ≤ f.time)

/-- The facts that a cross-check selects. -/
theorem AsksDay.selectRows_facts (h : s.AsksDay d) :
    selectRows [.ok (·.ofSite site), (Instant.midnight d).condition (· ≤ ·.time),
      (Instant.midnight (d.next?.getD d)).condition fun stop f => f.time < stop] s.factList =
        .ok (s.siteFactsOn site d) := by
  obtain ⟨hd, next, hnext, hasked⟩ := h
  rw [hnext, Option.getD_some, selectRows_cons_ok, selectRows_between_eq_ok_iff]
  simp only [Instant.storable_midnight_iff, Instant.toTimestamp_midnight, decide_eq_true_eq]
  refine ⟨?_, ?_⟩
  · rw [siteFactsOn, factsOn, List.filter_filter, List.filter_filter]
    refine List.filter_congr fun f _ => ?_
    have hday := Timestamp.fromUpTo_midnight_iff hnext (t := f.time)
    rw [Timestamp.fromUpTo] at hday
    rw [Bool.eq_iff_iff, Bool.and_eq_true, Bool.and_eq_true, hday, decide_eq_true_eq, and_comm]
  · rcases hasked with storable | hnone
    · exact .inl ⟨hd, storable⟩
    · exact .inr fun f hf hadmits => hnone f (List.mem_of_mem_filter hf) (hadmits.1 hd)

/-- The rows that a cross-check selects. -/
theorem selectRows_siteRowsAt (hd : d.Storable) :
    selectRows [.ok (·.1.site == site),
      (Instant.midnight d).condition fun start r => r.1.bucket == start] s.dailyTable.rows =
        .ok (s.siteRowsAt site d) := by
  rw [selectRows_cons_ok, selectRows_at_eq_ok_iff, Instant.toTimestamp_midnight, List.filter_filter]
  refine ⟨?_, .inl (Instant.storable_midnight_iff.mpr hd)⟩
  rw [siteRowsAt]
  exact List.filter_congr fun r _ => Bool.and_comm _ _

/-- What a cross-check reads, on a complete store that can be asked for the day. -/
theorem crossCheck_of_asksDay (c : s.Complete) (h : s.AsksDay d) :
    s.crossCheck site d =
      (do
        let totals ← countFacts (s.siteFactsOn site d)
        let pageviews ← readTotal (total ((s.siteRowsAt site d).map (·.2.count)))
        let bounces ← readTotal (total ((s.siteRowsAt site d).map (·.2.bounces)))
        .ok ⟨site, d, totals.pageviews, pageviews, totals.bounces, bounces⟩ :
          Except StoreFault CrossCheck).mapError .query := by
  unfold crossCheck readCrossCheck
  rw [c.factRows, c.dailyRows]
  simp only [ok_bind, h.selectRows_facts, selectRows_siteRowsAt h.1]

/-- **After the year 9999 a cross-check is answered only for a site that has neither facts nor
rows**, on whatever days. -/
theorem crossChecked_iff_of_not_storable (c : s.Complete) (storable : ¬ d.Storable) :
    s.CrossChecked site d ↔ s.factList.filter (·.ofSite site) = [] ∧
      s.dailyTable.rows.filter (·.1.site == site) = [] := by
  have hnext : ¬ (d.next?.getD d).Storable := by
    refine fun hnext => storable (hnext.of_le ?_)
    cases h : d.next? with
    | none => exact Int.le_refl _
    | some next =>
        rw [Option.getD_some, Day.le_iff, Day.number_of_next? h]
        omega
  have hfacts : ∀ {facts}, selectRows [.ok (·.ofSite site),
      (Instant.midnight d).condition (· ≤ ·.time), (Instant.midnight (d.next?.getD d)).condition
        fun stop f => f.time < stop] s.factList = .ok facts ↔
      facts = [] ∧ s.factList.filter (·.ofSite site) = [] := by
    intro facts
    rw [selectRows_cons_ok, selectRows_between_eq_ok_iff]
    simp only [Instant.storable_midnight_iff, storable, hnext, false_imp_iff, and_self,
      not_true_eq_false, false_or, imp_false, ← List.eq_nil_iff_forall_not_mem]
    exact and_congr_left fun hnil => by rw [hnil, List.filter_nil]
  have hrows : ∀ {rows}, selectRows [.ok (·.1.site == site),
      (Instant.midnight d).condition fun start r => r.1.bucket == start] s.dailyTable.rows =
        .ok rows ↔ rows = [] ∧ s.dailyTable.rows.filter (·.1.site == site) = [] := by
    intro rows
    rw [selectRows_cons_ok, selectRows_at_eq_ok_iff]
    simp only [Instant.storable_midnight_iff, storable, false_or]
    exact and_congr_left fun hnil => by rw [hnil, List.filter_nil]
  unfold CrossChecked crossCheck readCrossCheck
  simp only [mapError_eq_ok_iff, bind_eq_ok_iff, c.factRows, c.dailyRows, Except.ok.injEq,
    exists_eq_left', hfacts, hrows]
  constructor
  · rintro ⟨check, ⟨facts, ⟨-, hnofacts⟩, totals, -, rows, ⟨-, hnorows⟩, -⟩, -⟩
    exact ⟨hnofacts, hnorows⟩
  · rintro ⟨hnofacts, hnorows⟩
    exact ⟨⟨site, d, 0, 0, 0, 0⟩,
      ⟨[], ⟨rfl, hnofacts⟩, _, rfl, [], ⟨rfl, hnorows⟩, 0, rfl, 0, rfl, rfl⟩, rfl⟩

/-- The number of facts bounds everything that is counted of them. -/
theorem bounces_ofFacts_le (facts : List Fact) :
    (Totals.ofFacts facts).bounces ≤ facts.length := by
  calc (Totals.ofFacts facts).bounces
      ≤ (visitorsOf facts).length := List.countP_le_length
    _ ≤ (facts.map (·.visitor)).length := length_distinct_le _
    _ = facts.length := List.length_map _

/-- **A cross-check is consistent exactly if the sums agree** and the facts are
not too many to be counted. -/
theorem crossChecked_iff (c : s.Complete) (h : s.AsksDay d) :
    s.CrossChecked site d ↔ s.SumsAgree site d ∧ (s.siteFactsOn site d).length < 2 ^ 63 := by
  rw [CrossChecked, crossCheck_of_asksDay c h]
  constructor
  · rintro ⟨check, hcheck, hconsistent⟩
    -- the check was answered, so each of its four numbers was read
    cases hfacts : countFacts (s.siteFactsOn site d) with
    | error e => rw [hfacts] at hcheck; cases hcheck
    | ok totals =>
        obtain ⟨rfl, few⟩ := countFacts_eq_ok_iff.mp hfacts
        cases hpageviews : readTotal (total ((s.siteRowsAt site d).map (·.2.count))) with
        | error e => rw [hfacts, hpageviews] at hcheck; cases hcheck
        | ok pageviews =>
            cases hbounces : readTotal (total ((s.siteRowsAt site d).map (·.2.bounces))) with
            | error e => rw [hfacts, hpageviews, hbounces] at hcheck; cases hcheck
            | ok bounces =>
                rw [hfacts, hpageviews, hbounces] at hcheck
                obtain rfl := Except.ok.inj hcheck
                simp only [CrossCheck.consistent, Bool.and_eq_true, beq_iff_eq] at hconsistent
                refine ⟨⟨?_, ?_⟩, few⟩
                · rw [(readTotal_eq_ok_iff.mp hpageviews).1, ← hconsistent.1]
                  rfl
                · rw [(readTotal_eq_ok_iff.mp hbounces).1, hconsistent.2]
  · rintro ⟨agree, few⟩
    have hfacts := countFacts_eq_ok_iff.mpr ⟨rfl, few⟩
    have hpageviews := readTotal_eq_ok_iff.mpr ⟨agree.pageviews, few⟩
    have hbounces := readTotal_eq_ok_iff.mpr
      ⟨agree.bounces, (bounces_ofFacts_le _).trans_lt few⟩
    rw [hfacts, hpageviews, hbounces]
    refine ⟨_, rfl, ?_⟩
    simp [CrossCheck.consistent, Totals.ofFacts]

end Store

/-! ## Rows and facts of one site -/

/-- If the front of a list has as many facts of every site as the whole list, it
is the whole list. -/
theorem eq_of_prefix_of_sites {facts others : List Fact} (h : facts <+: others)
    (sites : ∀ site, (facts.filter (·.ofSite site)).length =
      (others.filter (·.ofSite site)).length) : facts = others := by
  obtain ⟨rest, rfl⟩ := h
  cases rest with
  | nil => rw [List.append_nil]
  | cons f rest =>
      -- the first fact of the rest is one more of its site
      have hsite := sites f.site
      have hf : f.ofSite f.site = true := beq_self_eq_true _
      rw [List.filter_append, List.length_append, List.filter_cons_of_pos hf,
        List.length_cons] at hsite
      omega

namespace Account

variable {x : Account} {site : String} {d : Day}

/-- The counted facts of a site on a day. -/
def siteCountedOn (x : Account) (site : String) (d : Day) : List Fact :=
  (factsOfDay d x.counted).filter (·.ofSite site)

theorem sameBucket_siteCountedOn : Totals.SameBucket .day (x.siteCountedOn site d) := by
  have hmem : ∀ f ∈ x.siteCountedOn site d, f.site = site ∧ f.time.OnDay d := by
    intro f hf
    obtain ⟨hday, hsite⟩ := List.mem_filter.mp hf
    exact ⟨by simpa [Fact.ofSite] using hsite, (mem_factsOfDay.mp hday).2⟩
  intro a ha b hb
  exact ⟨(hmem a ha).1.trans (hmem b hb).1.symm,
    (Timestamp.truncate_day_eq_midnight_iff.mpr (hmem a ha).2).trans
      (Timestamp.truncate_day_eq_midnight_iff.mpr (hmem b hb).2).symm⟩

/-- The rows of a site on a day are those of its counted facts. -/
theorem Balanced.siteRowsAt_perm (h : x.Balanced) :
    (x.store.siteRowsAt site d).Perm (Rollup.aggregate .day (x.siteCountedOn site d)) := by
  have hfacts : x.siteCountedOn site d = x.counted.filter fun f =>
      (f.key .day).site == site && (f.key .day).bucket == .midnight d := by
    rw [siteCountedOn, factsOfDay, List.filter_filter]
    refine List.filter_congr fun f _ => ?_
    rw [Bool.eq_iff_iff, Bool.and_eq_true, Bool.and_eq_true, decide_eq_true_eq, beq_iff_eq,
      beq_iff_eq, ← Timestamp.truncate_day_eq_midnight_iff, Fact.ofSite, beq_iff_eq]
    rfl
  rw [hfacts]
  refine Rollup.filter_rows_perm h.daily
    (q := fun k => k.site == site && k.bucket == .midnight d) ?_
  intro k k' hbucket hsite
  simp only [hbucket, hsite]

theorem Balanced.total_count_siteRowsAt (h : x.Balanced) :
    total ((x.store.siteRowsAt site d).map (·.2.count)) = (x.siteCountedOn site d).length := by
  rw [Store.total_eq_of_perm (h.siteRowsAt_perm.map (·.2)) (·.count),
    Rollup.total_count_aggregate, Totals.ofRows]

theorem Balanced.total_bounces_siteRowsAt (h : x.Balanced) :
    total ((x.store.siteRowsAt site d).map (·.2.bounces)) =
      (Totals.ofFacts (x.siteCountedOn site d)).bounces := by
  rw [Store.total_eq_of_perm (h.siteRowsAt_perm.map (·.2)) (·.bounces),
    Rollup.total_bounces_aggregate, Totals.ofRows_bounces sameBucket_siteCountedOn]

/-- **The sums of all sites agree exactly if all facts of the day were counted.** -/
theorem Balanced.sumsAgree_iff (h : x.Balanced) (d : Day) :
    (∀ site, x.store.SumsAgree site d) ↔ factsOfDay d x.counted = x.store.factsOn d := by
  constructor
  · intro hagree
    refine eq_of_prefix_of_sites (h.first d) fun site => ?_
    have hpageviews := (hagree site).pageviews
    rw [h.total_count_siteRowsAt] at hpageviews
    exact Int.ofNat.inj hpageviews
  · intro heq site
    have hsite : x.siteCountedOn site d = x.store.siteFactsOn site d := by
      rw [siteCountedOn, heq, Store.siteFactsOn]
    exact ⟨by rw [h.total_count_siteRowsAt, hsite], by rw [h.total_bounces_siteRowsAt, hsite]⟩

/-- A watermark tells how many facts were counted. -/
theorem Balanced.recordedFacts_eq (h : x.Balanced) (d : Day) :
    x.store.recordedFacts d = (factsOfDay d x.counted).length := by
  unfold Store.recordedFacts
  cases hmark : x.store.marks.get? (.midnight d) with
  | none => rw [h.unmarked d hmark, Option.elim_none, List.length_nil, Nat.cast_zero]
  | some mark => rw [Option.elim_some, h.marked d mark hmark]

/-- A site without facts has no rows. -/
theorem Balanced.siteRows_eq_nil (h : x.Balanced)
    (hfacts : x.store.factList.filter (·.ofSite site) = []) :
    x.store.dailyTable.rows.filter (·.1.site == site) = [] := by
  rw [List.filter_eq_nil_iff] at hfacts ⊢
  intro r hr hsite
  obtain ⟨f, hf, hkey⟩ := Rollup.exists_fact_of_mem_rows h.daily hr
  refine hfacts f (h.known f hf) ?_
  rw [← hkey] at hsite
  exact hsite

end Account

/-! ## Every reachable state -/

namespace Store

/-- A day of the window can be asked for if the scan for stale days can be. -/
theorem asksDay_of_window {s : Store} {d : Day} {now : Instant} {lookback : ℕ}
    (accepted : ¬ s.RefusesScan now lookback) (storable : d.Storable)
    (hfrom : now.day.number - lookback ≤ d.number) (hto : d < now.day) :
    s.AsksDay d := by
  have hlast := now.day.le_last
  have hfirst := d.first_le
  rw [Day.lt_iff] at hto
  obtain ⟨next, hnext⟩ : ∃ next, d.next? = some next :=
    ⟨⟨d.number + 1, by omega, by omega⟩, Day.ofNumber?_eq_some_iff.mpr rfl⟩
  refine ⟨storable, next, hnext, ?_⟩
  by_cases htoday : now.day.Storable
  · -- the day after `d` is today at the latest
    refine .inl (htoday.of_le ?_)
    rw [Day.le_iff, Day.number_of_next? hnext]
    omega
  · -- whatever comes after the midnight of `d` would have had the scan refused
    refine .inr fun f hf hle => accepted ⟨htoday, f, hf, fun _ => ?_⟩
    have hback := Day.back_le_iff.mpr hfrom
    simp only [Day.le_iff] at hback
    simp only [Timestamp.le_iff, Timestamp.midnight, Timestamp.dayMicros] at hle ⊢
    omega

/-- The scan for stale days omits exactly those days of its window, up to the year 9999, for which
the cross-check of every site is consistent, as far as the views of each site can be
counted. -/
def MatchesCrossChecks (s : Store) (now : Instant) (lookback : ℕ) : Prop :=
  ∃ days, s.staleDays now lookback = .ok days ∧
    ∀ d : Day, d.Storable → now.day.number - lookback ≤ d.number → d < now.day →
      ((d ∉ days ∧ ∀ site, (s.siteFactsOn site d).length < 2 ^ 63) ↔
        ∀ site, s.CrossChecked site d)

/-- **In every reachable state, the scan for stale days and the cross-checks of
all sites find the same days**, unless the scan is refused.  A day after the year 9999 is
cross-checked only for sites without any facts.  What both compare is the same: the watermark of a
day tells the number of its facts exactly if the rows of every site have its pageviews and its
bounces. -/
theorem stale_days_match_cross_checks (ops : List Operation) (years : ∀ op ∈ ops, op.InYears) :
    (∀ now lookback, ¬ (migrated.perform ops).RefusesScan now lookback →
        (migrated.perform ops).MatchesCrossChecks now lookback) ∧
      (∀ now lookback, (migrated.perform ops).RefusesScan now lookback →
        ∃ e, (migrated.perform ops).staleDays now lookback = .error e) ∧
      (∀ site (d : Day), ¬ d.Storable → ((migrated.perform ops).CrossChecked site d ↔
        (migrated.perform ops).factList.filter (·.ofSite site) = [])) ∧
      ∀ d, (migrated.perform ops).recordedFacts d = ((migrated.perform ops).factsOn d).length ↔
        ∀ site, (migrated.perform ops).SumsAgree site d := by
  have hbalanced := Account.balanced_run (migrated.trace ops)
  have hyears := Account.fourDigit_of_trace years
  rw [perform, ← Account.store_run_opening]
  refine ⟨fun now lookback accepted => ?_, fun now lookback refused =>
    staleDays_of_refusesScan refused, fun site d storable => ?_, fun d => ?_⟩
  · obtain ⟨days, hdays, hmem⟩ := exists_staleDays hbalanced.complete hyears accepted
    refine ⟨days, hdays, fun d storable hfrom hto => ?_⟩
    have hasks := asksDay_of_window accepted storable hfrom hto
    have homitted : d ∉ days ↔
        ∀ site, (Account.opening.run (migrated.trace ops)).store.SumsAgree site d := by
      rw [hbalanced.sumsAgree_iff, hmem, hbalanced.stale_iff]
      simp only [hfrom, hto, true_and, not_not]
    simp only [crossChecked_iff hbalanced.complete hasks, homitted, forall_and]
  · rw [crossChecked_iff_of_not_storable hbalanced.complete storable]
    exact and_iff_left_of_imp hbalanced.siteRows_eq_nil
  · rw [hbalanced.recordedFacts_eq, hbalanced.sumsAgree_iff, hbalanced.counted_eq_iff,
      Nat.cast_inj]

theorem cross_checks_match_after_visitAndPass :
    (∀ op ∈ visitAndPass, op.InYears) ∧
      (migrated.perform visitAndPass).MatchesCrossChecks (.midnight (sampleDay 3)) 7 :=
  ⟨inYears_visitAndPass,
    (stale_days_match_cross_checks visitAndPass inYears_visitAndPass).1 _ 7
      fun refused => refused.1 (by decide)⟩

/-- Two days before the year 10000, on which a page is viewed. -/
def lateDay : Day :=
  ⟨2932895, by decide, by decide⟩

/-- The day before it, on which none is. -/
def emptyDay : Day :=
  ⟨2932894, by decide, by decide⟩

/-- That view. -/
def lateView : Action :=
  .record (.plain "blog" "/" (.midnight lateDay) 7) (.midnight lateDay)

set_option maxRecDepth 10000 in
theorem crossCheck_lateDay : (migrated.perform [.call lateView]).crossCheck "blog" lateDay =
    .ok ⟨"blog", lateDay, 1, 0, 1, 0⟩ := rfl

set_option maxRecDepth 10000 in
theorem length_factsOn_lateDay :
    ((migrated.perform [.call lateView]).factsOn lateDay).length = 1 := rfl

set_option maxRecDepth 10000 in
theorem factsOn_emptyDay : (migrated.perform [.call lateView]).factsOn emptyDay = [] := rfl

set_option maxRecDepth 10000 in
theorem dailyTable_lateView : (migrated.perform [.call lateView]).dailyTable = .empty := rfl

/-- They do not match at every time.  On the first day of the year 10000 the scan
is refused, although two days before it one cross-check finds a fact that no row
stands for, and three days before it all cross-checks are consistent. -/
theorem stale_days_miss_cross_checks_after_9999 :
    ∃ (ops : List Operation) (now : Instant) (d e : Day), (∀ op ∈ ops, op.InYears) ∧
      now.day.number - (3 : ℕ) ≤ d.number ∧ d < now.day ∧
      now.day.number - (3 : ℕ) ≤ e.number ∧ e < now.day ∧
      (∃ check, (migrated.perform ops).crossCheck "blog" d = .ok check ∧
        check.consistent = false) ∧
      (∀ site, (migrated.perform ops).CrossChecked site e) ∧
      ∃ fault, (migrated.perform ops).staleDays now 3 = .error fault := by
  have hcomplete : (migrated.perform [.call lateView]).Complete := by
    rw [perform, ← Account.store_run_opening]
    exact (Account.balanced_run _).complete
  have years : ∀ op ∈ [Operation.call lateView], op.InYears := by
    rw [List.forall_mem_singleton, Operation.InYears]
    decide
  have hview : (migrated.perform [.call lateView]).factsOn lateDay ≠ [] :=
    List.length_pos_iff.mp (by rw [length_factsOn_lateDay]; decide)
  refine ⟨[.call lateView], .midnight ⟨2932897, by decide, by decide⟩, lateDay, emptyDay, years,
    by decide, by decide, by decide, by decide, ⟨_, crossCheck_lateDay, rfl⟩, fun site => ?_,
    staleDays_of_refusesScan (refusesScan_of_factsOn (by decide) (by decide) (by decide) hview)⟩
  -- the empty day has neither facts nor rows
  have hfacts : (migrated.perform [.call lateView]).siteFactsOn site emptyDay = [] := by
    rw [siteFactsOn, factsOn_emptyDay]
    rfl
  have hrows : (migrated.perform [.call lateView]).siteRowsAt site emptyDay = [] := by
    rw [siteRowsAt, dailyTable_lateView]
    rfl
  have hasks : (migrated.perform [.call lateView]).AsksDay emptyDay :=
    ⟨by decide, lateDay, rfl, .inl (by decide)⟩
  rw [crossChecked_iff hcomplete hasks]
  refine ⟨⟨?_, ?_⟩, ?_⟩
  · rw [hrows, hfacts]
    rfl
  · rw [hrows, hfacts]
    rfl
  · rw [hfacts]
    exact Nat.two_pow_pos 63

end Store

end Footfall
