import Mathlib
import Footfall.Proofs.Calendar.Precision
import Footfall.Proofs.Rollup.Counts
import Footfall.Proofs.Rollup.Episodes
import Footfall.Proofs.Stats.Listing
import Footfall.Proofs.Visit.Outcome

/-!
# From a visit to the listing

A visit that was recorded is listed under the id that the call reported: once on
the page that reaches it, with what the event said, cut to what the store keeps.
Nothing that happens later changes how it is listed, only its position.

## Main Definitions

* `listedAhead` — how many facts are listed before one
* `Reaches` — a page holds a position of a listing
* `Pageview.Shows` — a listed pageview shows a recorded event

## Main Statements

* `Store.filter_page` — a page that reaches a fact holds it once
* `Store.recorded_event_listed` — a recorded event is listed once and for all
-/

namespace Footfall

/-- An instant of the years 0 to 9999 is listed cut to whole microseconds. -/
theorem Instant.FourDigit.exact_toTimestamp {t : Instant} (h : t.FourDigit) :
    t.toTimestamp.exact.seconds = t.seconds ∧
      t.toTimestamp.exact.nanos = t.nanos / 1000 * 1000 := by
  rw [Timestamp.exact, dif_pos h.toTimestamp, Instant.toInstant_toTimestamp h]
  exact ⟨rfl, rfl⟩

/-! ## Positions in a listing -/

namespace Fact

theorem listedBefore_iff {a b : Fact} : a.listedBefore b = true ↔
    b.time < a.time ∨ b.time = a.time ∧ b.id ≤ a.id := by
  simp only [listedBefore, Bool.or_eq_true, Bool.and_eq_true, decide_eq_true_eq, beq_iff_eq]

theorem listedBefore_trans (a b c : Fact) (hab : a.listedBefore b = true)
    (hbc : b.listedBefore c = true) : a.listedBefore c = true := by
  simp only [listedBefore_iff, Timestamp.lt_iff, Timestamp.eq_iff] at *
  omega

theorem listedBefore_total (a b : Fact) : (a.listedBefore b || b.listedBefore a) = true := by
  simp only [Bool.or_eq_true, listedBefore_iff, Timestamp.lt_iff, Timestamp.eq_iff]
  omega

/-- A listing of facts with ids of their own shows no id twice. -/
theorem pairwise_id_mergeSort {facts : List Fact}
    (increasing : facts.Pairwise fun a b => a.id < b.id) :
    (facts.mergeSort listedBefore).Pairwise fun a b => a.id ≠ b.id :=
  (increasing.imp fun h => ne_of_lt h).perm (List.mergeSort_perm _ _).symm fun h => h.symm

end Fact

/-- How many facts are listed before one: the later ones, and those of its moment
with higher ids. -/
def listedAhead (facts : List Fact) (time : Timestamp) (id : ℤ) : ℕ :=
  facts.countP fun g => time < g.time ∨ time = g.time ∧ id < g.id

/-- A page holds a position of a listing. -/
structure Reaches (limit offset position : ℕ) : Prop where
  /-- The store can skip as many rows. -/
  offset_le : offset ≤ maxOffset
  /-- The page does not start after the position. -/
  start_le : offset ≤ position
  /-- The page does not end before it. -/
  lt_stop : position < offset + min limit maxRows

/-- The only member of a kind is the only one on a page that reaches it. -/
theorem filter_take_drop {α : Type} {p : α → Bool} {pre post : List α} {a : α}
    (ha : p a = true) (hpre : ∀ b ∈ pre, p b = false) (hpost : ∀ b ∈ post, p b = false)
    {limit offset : ℕ} (start_le : offset ≤ pre.length) (lt_stop : pre.length < offset + limit) :
    (((pre ++ a :: post).drop offset).take limit).filter p = [a] := by
  obtain ⟨n, hn⟩ : ∃ n, limit - (pre.drop offset).length = n + 1 :=
    ⟨limit - (pre.length - offset) - 1, by rw [List.length_drop]; omega⟩
  have hfront : ((pre.drop offset).take limit).filter p = [] := by
    rw [List.filter_eq_nil_iff]
    intro b hb
    simp [hpre b (List.mem_of_mem_drop (List.mem_of_mem_take hb))]
  have hback : (post.take n).filter p = [] := by
    rw [List.filter_eq_nil_iff]
    intro b hb
    simp [hpost b (List.mem_of_mem_take hb)]
  rw [List.drop_append_of_le_length start_le, List.take_append, hn, List.take_succ_cons,
    List.filter_append, hfront, List.filter_cons_of_pos ha, hback, List.nil_append]

namespace Store

variable {facts : List Fact} {f : Fact}

/-- A fact has as many facts before it in the listing as are listed ahead of it. -/
theorem exists_mergeSort_eq (increasing : facts.Pairwise fun a b => a.id < b.id)
    (hf : f ∈ facts) : ∃ pre post, facts.mergeSort Fact.listedBefore = pre ++ f :: post ∧
      pre.length = listedAhead facts f.time f.id ∧ (∀ g ∈ pre, g.id ≠ f.id) ∧
        ∀ g ∈ post, g.id ≠ f.id := by
  have hperm := List.mergeSort_perm facts Fact.listedBefore
  have hsorted := List.pairwise_mergeSort Fact.listedBefore_trans Fact.listedBefore_total facts
  have hids := Fact.pairwise_id_mergeSort increasing
  obtain ⟨pre, post, hsplit⟩ := List.append_of_mem (hperm.mem_iff.mpr hf)
  rw [hsplit] at hperm hsorted hids
  rw [List.pairwise_append, List.pairwise_cons] at hsorted hids
  obtain ⟨-, ⟨hafter, -⟩, hbefore⟩ := hsorted
  obtain ⟨-, ⟨hpost, -⟩, hpre⟩ := hids
  have hne : ∀ g ∈ pre, g.id ≠ f.id := fun g hg => hpre g hg f List.mem_cons_self
  refine ⟨pre, post, hsplit, ?_, hne, fun g hg => (hpost g hg).symm⟩
  -- all that stands in front is listed ahead, and nothing else is
  have hfront : listedAhead pre f.time f.id = pre.length := by
    rw [listedAhead, List.countP_eq_length]
    intro g hg
    have hlisted := Fact.listedBefore_iff.mp (hbefore g hg f List.mem_cons_self)
    have hid := hne g hg
    simp only [decide_eq_true_eq, Timestamp.lt_iff, Timestamp.eq_iff] at hlisted ⊢
    omega
  have hback : listedAhead (f :: post) f.time f.id = 0 := by
    rw [listedAhead, List.countP_eq_zero, List.forall_mem_cons]
    refine ⟨by simp [Timestamp.lt_iff], fun g hg => ?_⟩
    have hlisted := Fact.listedBefore_iff.mp (hafter g hg)
    simp only [decide_eq_true_eq, Timestamp.lt_iff, Timestamp.eq_iff] at hlisted ⊢
    omega
  rw [listedAhead, ← hperm.countP_eq, List.countP_append]
  exact (congrArg₂ (· + ·) hfront hback).symm

/-- **A page that reaches a fact holds it once.** -/
theorem filter_page (increasing : facts.Pairwise fun a b => a.id < b.id) (hf : f ∈ facts)
    {limit offset : ℕ} (reaches : Reaches limit offset (listedAhead facts f.time f.id)) :
    (page facts (min limit maxRows) offset).filter (·.id = f.id) = [f] := by
  obtain ⟨pre, post, hsplit, hlength, hpre, hpost⟩ := exists_mergeSort_eq increasing hf
  rw [page, hsplit]
  refine filter_take_drop (by simp) (fun g hg => ?_) (fun g hg => ?_)
    (hlength ▸ reaches.start_le) (hlength ▸ reaches.lt_stop)
  · exact decide_eq_false (hpre g hg)
  · exact decide_eq_false (hpost g hg)

/-- **A listing that reaches a fact shows it once** under its id. -/
theorem listPageviews_filter {s : Store} (c : s.Complete)
    (increasing : s.factList.Pairwise fun a b => a.id < b.id) {start stop : Instant}
    (hstart : start.FourDigit) (hstop : stop.FourDigit) (le : start ≤ stop)
    (hf : f ∈ s.siteFactsWithin f.site ⟨start, stop⟩) {limit offset : ℕ}
    (reaches : Reaches limit offset (listedAhead
      (s.siteFactsWithin f.site ⟨start, stop⟩) f.time f.id)) :
    (s.listPageviews f.site start stop limit offset).map (·.filter (·.id = f.id)) =
      .ok [s.pageview f] := by
  have hfacts : s.siteFacts f.site ⟨start, stop⟩ = .ok (s.siteFactsWithin f.site ⟨start, stop⟩) :=
    siteFacts_of_storable c.facts ⟨hstart.storable, hstop.storable⟩
  -- what lies between the bounds is of their years, so its time can be read
  have years : ∀ g ∈ s.siteFactsWithin f.site ⟨start, stop⟩, g.time.FourDigit := by
    intro g hg
    exact Timestamp.fourDigit_of_within hstart.toTimestamp hstop.toTimestamp
      (mem_siteFactsWithin.mp hg).2.2
  have hincreasing : (s.siteFactsWithin f.site ⟨start, stop⟩).Pairwise
      fun a b => a.id < b.id := increasing.filter _
  have hpage := filter_page hincreasing hf reaches
  rw [listPageviews, checkRange_eq_ok_iff.mpr le, readListing_of_siteFacts c hfacts years]
  simp only [Except.mapError, ok_bind, if_neg (Nat.not_lt.mpr reaches.offset_le), Except.map,
    List.filter_map]
  rw [show ((fun p : Pageview => decide (p.id = f.id)) ∘ s.pageview) =
    fun g => decide (g.id = f.id) from rfl, hpage, List.map_singleton]

end Store

/-! ## Recorded events -/

/-- A listed pageview shows a recorded event. -/
structure Pageview.Shows (p : Pageview) (e : Event) (attrs : Attributes) (time : Instant)
    (o : Outcome) : Prop where
  /-- The id is the reported one. -/
  id : p.id = o.id
  /-- The visitor is the fingerprint. -/
  visitor : p.visitor = e.visitor
  /-- The time is that of the event ... -/
  seconds : p.time.seconds = time.seconds
  /-- ... cut to whole microseconds. -/
  nanos : p.time.nanos = time.nanos / 1000 * 1000
  /-- The path has no query and no fragment, and no blanks around it. -/
  path : p.names.path = some (trim (withoutQuery e.path))
  /-- The referrer is the host, without blanks around it, if anything is left. -/
  referrer : p.names.referrer = present (e.referrer.bind referrerHost)
  /-- A name is the value that the event gave, without blanks around it. -/
  names : ∀ d name, p.names.get d = some name → (e.given attrs d).map trim = some name
  /-- A name is missing if the value is absent or blank or stayed unresolved. -/
  none_iff : ∀ d, p.names.get d = none ↔
    (∀ text, e.given attrs d = some text → trim text = "") ∨
      d ∈ o.unresolved.map (·.dimension)

namespace Store

theorem Keeps.pageview {s s' : Store} (h : s.Keeps s') {f : Fact} (hf : f ∈ s.factList) :
    s'.pageview f = s.pageview f := by
  have hnames : s'.names f.ids = s.names f.ids := congrArg Sighting.names (h.sights f hf)
  rw [Store.pageview, Store.pageview, hnames]

/-- The fact of a record call is listed with what the event said. -/
theorem shows_of_record {s s' : Store} (c : s.Complete) (sound : s.Referential) {v : Visit}
    {now : Instant} {o : Outcome} (dated : (v.time now).FourDigit)
    (h : s.record v.event v.attributes v.policy now = (s', .ok o)) {f : Fact}
    (hid : f.id = o.id) (hsight : s'.sight f =
      ⟨(v.time now).toTimestamp, v.event.site, v.event.visitor, settled v.values⟩) :
    (s'.pageview f).Shows v.event v.attributes (v.time now) o := by
  have htime : f.time = (v.time now).toTimestamp := congrArg Sighting.time hsight
  have hnames : (s'.pageview f).names = settled v.values := congrArg Sighting.names hsight
  have hvalues : ∀ d, v.values.get d = present (v.event.given v.attributes d) :=
    v.event.get_values v.attributes
  obtain ⟨hseconds, hnanos⟩ := dated.exact_toTimestamp
  refine ⟨hid, congrArg Sighting.visitor hsight, ?_, ?_, ?_, ?_, ?_, ?_⟩
  · rw [← hseconds, ← htime]
    rfl
  · rw [← hnanos, ← htime]
    rfl
  · rw [hnames, ← present_path_of_record c sound h]
    exact get_settled_of_root (d := .path) rfl
  · rw [hnames]
    exact (get_settled_of_root (d := .referrer) rfl).trans (hvalues .referrer)
  · intro d name hd
    rw [hnames] at hd
    -- a settled value is the present one
    rcases get_settled_eq_or v.values d with heq | heq
    · rw [heq, hvalues] at hd
      exact map_trim_of_present hd
    · rw [heq] at hd
      cases hd
  · intro d
    rw [hnames, get_settled_eq_none_iff_of_record c sound h, hvalues, present_eq_none_iff]

/-- After any run, a page that reaches a fact shows it as it was shown before. -/
theorem listPageviews_filter_run {x : Account} (h : x.Balanced) {f : Fact}
    (hf : f ∈ x.store.factList) {t : Instant} (regular : t.isLeap = false)
    (hmoment : f.time = t.toTimestamp) (as : List Action) {start stop : Instant}
    (hstart : start.FourDigit) (hstop : stop.FourDigit) (hle : start ≤ t) (hge : t ≤ stop)
    {limit offset : ℕ} (reaches : Reaches limit offset (listedAhead
      ((x.run as).store.siteFactsWithin f.site ⟨start, stop⟩) f.time f.id)) :
    ((x.run as).store.listPageviews f.site start stop limit offset).map
      (·.filter (·.id = f.id)) = .ok [x.store.pageview f] := by
  have hkeeps := h.keeps_run as
  have hend := h.run as
  have hwithin : f ∈ (x.run as).store.siteFactsWithin f.site ⟨start, stop⟩ := by
    refine List.mem_filter.mpr ⟨hkeeps.facts.subset hf, ?_⟩
    simp only [Fact.ofSite, BEq.rfl, Bool.true_and, Timestamp.within, hmoment, Bool.and_eq_true,
      decide_eq_true_eq]
    exact ⟨Instant.toTimestamp_le hstart.storable.1 hle, Instant.toTimestamp_le regular hge⟩
  rw [← hkeeps.pageview hf]
  refine listPageviews_filter hend.complete hend.increasing hstart hstop ?_ hwithin reaches
  rw [Instant.le_iff] at hle hge ⊢
  exact hle.trans hge

/-- **A recorded event is listed once and for all.**  Whatever happened before it
and whatever happens after it, every page of every range that reaches it holds
one pageview under its id, and that is always the same. -/
theorem recorded_event_listed (before : List Episode) {e : Event} {attrs : Attributes}
    {policy : Policy} {now t : Instant} {s : Store} {o : Outcome} (timed : e.time = some t)
    (dated : t.FourDigit)
    (recorded : (migrated.undergo before).record e attrs policy now = (s, .ok o)) :
    ∃ p : Pageview, p.Shows e attrs t o ∧
      ∀ (after : List Episode) (start stop : Instant) (limit offset : ℕ),
        start.FourDigit → stop.FourDigit → start ≤ t → t ≤ stop →
        Reaches limit offset (listedAhead ((s.undergo after).siteFactsWithin e.site
          ⟨start, stop⟩) t.toTimestamp o.id) →
        ((s.undergo after).listPageviews e.site start stop limit offset).map
          (·.filter (·.id = o.id)) = .ok [p] := by
  obtain ⟨as, has⟩ := Account.balanced_opening.exists_run_of_undergo current_migrated before
  have h := Account.balanced_run as
  have current := (Account.balanced_opening.keeps_run as).current current_migrated
  rw [show migrated = Account.opening.store from rfl, has] at recorded
  generalize Account.opening.run as = x at h current recorded
  let v : Visit := ⟨e, attrs, policy⟩
  have htime : v.time now = t := by
    show e.time.getD now = t
    rw [timed, Option.getD_some]
  obtain ⟨f, hf, hid, hsight⟩ :=
    exists_fact_of_record (v := v) h.complete h.referential recorded
  have hshows := shows_of_record (v := v) h.complete h.referential (htime.symm ▸ dated) recorded
    hid hsight
  have hsite : f.site = e.site := congrArg Sighting.site hsight
  have hmoment : f.time = t.toTimestamp := htime ▸ congrArg Sighting.time hsight
  refine ⟨s.pageview f, htime ▸ hshows, ?_⟩
  intro after start stop limit offset hstart hstop hle hge reaches
  -- what happens later is a run from the account after the call
  obtain rfl : (x.step (.record v now)).store = s := congrArg Prod.fst recorded
  obtain ⟨bs, hbs⟩ := (h.step (.record v now)).exists_run_of_undergo
    ((h.keeps_step (.record v now)).current current) after
  rw [hbs, ← hsite, ← hid, ← hmoment] at reaches
  rw [hbs, ← hsite, ← hid]
  exact listPageviews_filter_run (h.step (.record v now)) hf dated.storable.1 hmoment bs hstart
    hstop hle hge reaches

/-- Two microseconds into the first sample day, less a nanosecond. -/
def newsTime : Instant :=
  ⟨1705276800, 1999, by decide, by decide, by decide, by decide⟩

/-- A view of the news, of which a language is known, and a region without its country. -/
def newsVisit : Visit where
  event := ⟨"blog", " /news?id=7", some "https://Example.com:8080/", some newsTime, 9⟩
  attributes := { region := some "Bavaria", language := some "de " }
  policy := .record

/-- What comes before it. -/
def newsBefore : List Episode :=
  [.operation (.call (viewOn (sampleDay 0) "blog" "/")), .migrate]

/-- What comes after it. -/
def newsAfter : List Episode :=
  [.operation (.call (.record newsVisit newsTime)),
    .operation (.call (.compact (sampleDay 0) (.midnight (sampleDay 3)))), .migrate]

/-- The store after the call that records it. -/
def newsStore : Store :=
  ((migrated.undergo newsBefore).record newsVisit.event newsVisit.attributes .record newsTime).1

/-- What that call reports. -/
def newsOutcome : Outcome where
  id := 2
  time := newsTime
  site := "blog"
  visitor := 9
  ids := { PerDimension.replicate none with
    language := some 1
    referrer := some 1
    path := some 2 }
  unresolved := [⟨.region, "region requires a resolved parent"⟩]

set_option maxRecDepth 20000 in
theorem record_newsVisit :
    (migrated.undergo newsBefore).record newsVisit.event newsVisit.attributes .record newsTime =
      (newsStore, .ok newsOutcome) := rfl

set_option maxRecDepth 20000 in
/-- Later, one fact of the same moment is listed ahead of it. -/
theorem reaches_newsVisit :
    Reaches 10 1 (listedAhead ((newsStore.undergo newsAfter).siteFactsWithin "blog"
      ⟨.midnight (sampleDay 0), .endOfDay (sampleDay 0)⟩) newsTime.toTimestamp 2) where
  offset_le := by decide
  start_le := by decide
  lt_stop := by decide

theorem newsVisit_listed :
    newsTime.FourDigit ∧
      (migrated.undergo newsBefore).record newsVisit.event newsVisit.attributes .record newsTime =
        (newsStore, .ok newsOutcome) ∧
      ∃ p : Pageview, p.Shows newsVisit.event newsVisit.attributes newsTime newsOutcome ∧
        ((newsStore.undergo newsAfter).listPageviews "blog" (.midnight (sampleDay 0))
          (.endOfDay (sampleDay 0)) 10 1).map (·.filter (·.id = 2)) = .ok [p] := by
  have dated : newsTime.FourDigit := by decide
  refine ⟨dated, record_newsVisit, ?_⟩
  obtain ⟨p, hshows, hlisted⟩ :=
    recorded_event_listed newsBefore (e := newsVisit.event) rfl dated record_newsVisit
  exact ⟨p, hshows, hlisted newsAfter _ _ 10 1 (by decide) (by decide) (by decide) (by decide)
    reaches_newsVisit⟩

end Store

end Footfall
