import Mathlib
import Footfall.Proofs.Rollup.Chronicle
import Footfall.Proofs.Rollup.Counts
import Footfall.Proofs.Stats.Listing

/-!
# Sites do not see each other

Visits of other sites shift every id and share visitors and reference rows, and
yet nothing that is answered about a site depends on them.  Restricted to a site,
the chronicle of a run is the chronicle of the actions that concern the site: its
visits, and every compaction.

## Main Definitions

* `siteActions` — the actions of a run that concern a site
* `Chronicle.ofSite` — a chronicle restricted to a site
* `Store.SameSite` — nothing about a site tells two stores apart

## Main Statements

* `Chronicle.ofSite_run` — restricting commutes with running
* `Store.site_isolated` — the actions of a site determine everything about it
-/

namespace Footfall

/-- An action if it concerns a site.  A dated visit does not look at the clock, so
any clock will do. -/
def Action.forSite? (site : String) : Action → Option Action
  | .record v _ => if v.event.site = site then some (.record v (.midnight .first)) else none
  | .resolve _ => none
  | .compact d now => some (.compact d now)

/-- The actions of a run that concern a site, in their order. -/
def siteActions (site : String) (as : List Action) : List Action :=
  as.filterMap (Action.forSite? site)

namespace Chronicle

variable {site : String} {c : Chronicle} {as : List Action}

/-- A chronicle restricted to a site. -/
def ofSite (c : Chronicle) (site : String) : Chronicle :=
  ⟨c.seen.filter (·.site == site), c.counted.filter (·.site == site)⟩

/-- A visit of the site is seen by it, at whatever clock. -/
theorem ofSite_record {v : Visit} (dated : v.Dated) (hsite : v.event.site = site)
    (now now' : Instant) :
    (c.step (.record v now)).ofSite site = (c.ofSite site).step (.record v now') := by
  have hkept : (v.sighting? now').toList.filter (·.site == site) = (v.sighting? now').toList := by
    rw [List.filter_eq_self]
    intro σ hσ
    rw [(Visit.sighting?_eq_some (Option.mem_toList.mp hσ)).2.2, hsite, beq_self_eq_true]
  rw [step, step, ofSite, List.filter_append, dated.sighting?_eq now now', hkept]
  rfl

/-- A visit of another site is not. -/
theorem ofSite_record_of_ne {v : Visit} (hsite : v.event.site ≠ site) (now : Instant) :
    (c.step (.record v now)).ofSite site = c.ofSite site := by
  have hdropped : (v.sighting? now).toList.filter (·.site == site) = [] := by
    rw [List.filter_eq_nil_iff]
    intro σ hσ
    rw [(Visit.sighting?_eq_some (Option.mem_toList.mp hσ)).2.2, beq_iff_eq]
    exact hsite
  rw [step, ofSite, List.filter_append, hdropped, List.append_nil]
  rfl

/-- Recounting a day recounts the day of the site. -/
theorem ofSite_compact (d : Day) (now : Instant) :
    (c.step (.compact d now)).ofSite site = (c.ofSite site).step (.compact d now) := by
  by_cases h : Compactable d now
  · simp only [step, if_pos h, recount, ofSite, sightingsOffDay, sightingsOfDay, List.filter_append,
      List.filter_comm (fun σ : Sighting => σ.site == site)]
  · simp only [step, if_neg h]

/-- **Restricting a chronicle to a site commutes with running it.** -/
theorem ofSite_run (dated : ∀ v ∈ visitsOf (siteActions site as), v.Dated) :
    (c.run as).ofSite site = (c.ofSite site).run (siteActions site as) := by
  induction as generalizing c with
  | nil => rfl
  | cons a as ih =>
      cases a with
      | record v now =>
          -- a visit of another site leaves nothing in the restricted chronicle
          by_cases hsite : v.event.site = site
          · have hactions : siteActions site (.record v now :: as) =
                .record v (.midnight .first) :: siteActions site as := by
              simp [siteActions, Action.forSite?, hsite]
            rw [hactions] at dated ⊢
            have hv : v.Dated := dated v List.mem_cons_self
            have hrest := ih (c := c.step (.record v now)) fun w hw =>
              dated w (List.mem_cons_of_mem v hw)
            rw [ofSite_record hv hsite now (.midnight .first)] at hrest
            exact hrest
          · have hactions : siteActions site (.record v now :: as) = siteActions site as := by
              simp [siteActions, Action.forSite?, hsite]
            rw [hactions] at dated ⊢
            have hrest := ih (c := c.step (.record v now)) dated
            rw [ofSite_record_of_ne hsite now] at hrest
            exact hrest
      | resolve k => exact ih dated
      | compact d now =>
          have hrest := ih (c := c.step (.compact d now)) dated
          rw [ofSite_compact d now] at hrest
          exact hrest

theorem ofSite_of (dated : ∀ v ∈ visitsOf (siteActions site as), v.Dated) :
    (of as).ofSite site = of (siteActions site as) :=
  ofSite_run dated

end Chronicle

namespace Account

variable {x : Account} {c : Chronicle} {site : String} {as bs : List Action}

/-- What the facts of a site show. -/
theorem Tells.ofSite (tells : x.Tells c) (site : String) :
    (x.store.factList.filter (·.ofSite site)).map x.store.sight = (c.ofSite site).seen ∧
      (x.counted.filter (·.ofSite site)).map x.store.sight = (c.ofSite site).counted := by
  have hfilter := x.store.map_sight_filter fun σ => σ.site == site
  rw [Chronicle.ofSite, ← tells.seen, ← tells.counted]
  exact ⟨hfilter _, hfilter _⟩

/-- **The actions of a site determine what its facts show**, and which of them are
counted. -/
theorem siteFacts_sights_eq (dated : ∀ v ∈ visitsOf (siteActions site as), v.Dated)
    (same : siteActions site as = siteActions site bs) :
    ((opening.run as).store.factList.filter (·.ofSite site)).map (opening.run as).store.sight =
        ((opening.run bs).store.factList.filter (·.ofSite site)).map
          (opening.run bs).store.sight ∧
      ((opening.run as).counted.filter (·.ofSite site)).map (opening.run as).store.sight =
        ((opening.run bs).counted.filter (·.ofSite site)).map (opening.run bs).store.sight := by
  obtain ⟨hseen₁, hcounted₁⟩ := (tells_run as).ofSite site
  obtain ⟨hseen₂, hcounted₂⟩ := (tells_run bs).ofSite site
  have hchronicle : (Chronicle.of as).ofSite site = (Chronicle.of bs).ofSite site := by
    rw [Chronicle.ofSite_of dated, same, Chronicle.ofSite_of (same ▸ dated)]
  rw [hseen₁, hcounted₁, hseen₂, hcounted₂, hchronicle]
  exact ⟨rfl, rfl⟩

/-- Facts that show the same in one order are counted alike. -/
theorem countedAlike_of_eq {x₁ x₂ : Account}
    (h : (x₁.counted.filter (·.ofSite site)).map x₁.store.sight =
      (x₂.counted.filter (·.ofSite site)).map x₂.store.sight) (p : Timestamp → Bool) :
    CountedAlike x₁ x₂ site p := by
  have halike : Alike x₁.store (x₁.counted.filter (·.ofSite site)) x₂.store
      (x₂.counted.filter (·.ofSite site)) := by
    rw [Alike, h]
  have hfilter := halike.filter fun σ => p σ.time
  rw [List.filter_filter, List.filter_filter] at hfilter
  simpa only [CountedAlike, Store.sight, Bool.and_comm] using hfilter

/-- Dated visits of a site leave facts in the years 0 to 9999. -/
theorem siteFacts_fourDigit (dated : ∀ v ∈ visitsOf (siteActions site as), v.Dated) :
    ∀ f ∈ (opening.run as).store.factList, f.site = site → f.time.FourDigit := by
  rintro f hf rfl
  refine fourDigit_of_inYears hf fun v now ha hsite => ?_
  have hmem : .record v (.midnight .first) ∈ siteActions f.site as :=
    List.mem_filterMap.mpr ⟨_, ha, if_pos hsite⟩
  exact (dated v (mem_visitsOf hmem)).inYears now

end Account

namespace Store

/-- Nothing about a site tells two stores apart, at any time. -/
structure SameSite (s₁ s₂ : Store) (site : String) : Prop where
  /-- The answers. -/
  answers : ∀ now, s₁.SameAnswers s₂ site now
  /-- Facts against rollup of every day. -/
  crossCheck : ∀ d, s₁.crossCheck site d = s₂.crossCheck site d
  /-- Every page of every listing, without ids. -/
  listing : ∀ start stop limit offset,
    (s₁.listPageviews site start stop limit offset).map (·.map Pageview.content) =
      (s₂.listPageviews site start stop limit offset).map (·.map Pageview.content)
  /-- The daily rows of the site, with names in place of ids. -/
  daily : AlikeRows s₁ (s₁.dailyTable.rows.filter (·.1.site == site))
    s₂ (s₂.dailyTable.rows.filter (·.1.site == site))
  /-- The hourly rows of the site, with names in place of ids. -/
  hourly : AlikeRows s₁ (s₁.hourlyTable.rows.filter (·.1.site == site))
    s₂ (s₂.hourlyTable.rows.filter (·.1.site == site))

/-- **Two runs with the same actions of a site say the same about it**, whatever
is recorded for other sites between. -/
theorem site_isolated {site : String} {as bs : List Action}
    (dated : ∀ v ∈ visitsOf (siteActions site as), v.Dated)
    (same : siteActions site as = siteActions site bs) :
    (migrated.runAll as).SameSite (migrated.runAll bs) site := by
  have h₁ := Account.balanced_run as
  have h₂ := Account.balanced_run bs
  obtain ⟨hsights, hcounts⟩ := Account.siteFacts_sights_eq dated same
  have hseen : SeenAlike (Account.opening.run as).store (Account.opening.run bs).store site := by
    rw [SeenAlike, Alike, hsights]
  have hcounted := Account.countedAlike_of_eq hcounts
  have covers : ∀ g, Account.Covers g site (fun _ => true) fun k => k.site == site := fun _ =>
    ⟨fun k k' _ hsite => by simp only [hsite], fun k hk => by simpa using hk, fun _ _ _ _ => rfl⟩
  rw [← Account.store_run_opening, ← Account.store_run_opening]
  exact {
    answers := fun now => Account.sameAnswers h₁ h₂ (hcounted _) hseen
    crossCheck := Account.crossCheck_eq h₁ h₂ (hcounted _) hseen
    listing := listPageviews_contents_eq h₁.complete h₂.complete
      (Account.siteFacts_fourDigit dated) (Account.siteFacts_fourDigit (same ▸ dated))
      h₁.increasing h₂.increasing hsights
    daily := (hcounted _).rows h₁ h₂ (covers .day) h₁.daily h₂.daily
    hourly := (hcounted _).rows h₁ h₂ (covers .hour) h₁.hourly h₂.hourly }

/-- A view of a site and its compaction. -/
def blogAlone : List Action :=
  [viewOn (sampleDay 0) "blog" "/", .compact (sampleDay 0) (.midnight (sampleDay 3))]

/-- The same among views of the same page of another site by the same visitor. -/
def blogAmongShop : List Action :=
  [viewOn (sampleDay 0) "shop" "/", viewOn (sampleDay 0) "blog" "/",
    viewOn (sampleDay 0) "shop" "/", .compact (sampleDay 0) (.midnight (sampleDay 3))]

theorem blog_isolated_from_shop :
    (∀ v ∈ visitsOf (siteActions "blog" blogAlone), v.Dated) ∧
      siteActions "blog" blogAlone = siteActions "blog" blogAmongShop ∧
      (migrated.runAll blogAlone).SameSite (migrated.runAll blogAmongShop) "blog" := by
  have same : siteActions "blog" blogAlone = siteActions "blog" blogAmongShop := by
    simp [siteActions, blogAlone, blogAmongShop, Action.forSite?, viewOn, Visit.plain]
  have dated : ∀ v ∈ visitsOf (siteActions "blog" blogAlone), v.Dated := by
    intro v hv
    simp only [siteActions, blogAlone, viewOn, Visit.plain,
      Action.forSite?, visitsOf, List.filterMap_cons, List.filterMap_nil, if_true,
      Action.visit?, List.mem_singleton] at hv
    rw [hv]
    exact ⟨_, rfl, by decide⟩
  exact ⟨dated, same, site_isolated dated same⟩

end Store

end Footfall
