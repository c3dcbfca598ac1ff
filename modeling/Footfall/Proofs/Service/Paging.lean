import Mathlib
import Footfall.Proofs.Service.Counters
import Footfall.Proofs.Stats.Paging

/-!
# Requests for pages

An answer with a page tells how many facts there are, how many rows a page holds and where the
page starts.  A client can turn the pages by this alone, whatever limit it asked for.

## Main Definitions

* `Request.AsksForPage` — a request asks for a page of the facts of a site in a range
* `Service.AnswersPages` — such requests are answered from one listing

## Main Statements

* `Service.pageviews_paged` — in every reachable state, the pages list every fact once
-/

namespace Footfall

/-- **A request asks for a page** of the facts of a site in a range.  If it does not tell how many
rows it wants, it gets fifty, and without an offset it gets the first page. -/
def Request.AsksForPage (r : Request) (now : Instant) (site : String) (range : Span)
    (limit offset : ℕ) : Prop :=
  ∃ q, StatsRequest.read now r = .ok q ∧ q.params.site = site ∧ q.range = range ∧
    q.params.limit.getD 50 = limit ∧ q.params.offset.getD 0 = offset

instance (r : Request) (now : Instant) (site : String) (range : Span) (limit offset : ℕ) :
    Decidable (r.AsksForPage now site range limit offset) :=
  match h : StatsRequest.read now r with
  | .ok q =>
      decidable_of_iff (q.params.site = site ∧ q.range = range ∧
        q.params.limit.getD 50 = limit ∧ q.params.offset.getD 0 = offset)
        ⟨fun hq => ⟨q, h, hq⟩, fun ⟨_, hread, hq⟩ => Except.ok.inj (h.symm.trans hread) ▸ hq⟩
  | .error _ => isFalse fun ⟨_, hread, _⟩ => nomatch h.symm.trans hread

namespace Service

variable {v : Service} {site : String} {start stop : Instant} {limit : ℕ} {listing : List Fact}

/-- **Requests for pages are answered from a listing.** -/
structure AnswersPages (v : Service) (site : String) (start stop : Instant) (limit : ℕ)
    (listing : List Fact) : Prop where
  /-- An answer tells the number of all facts, how many a page holds and where it starts, and has
  the page. -/
  answer : ∀ now r offset, r.AsksForPage now site ⟨start, stop⟩ limit offset →
    offset ≤ maxOffset → v.pageviews now r = .ok (regular (.object [
      ("total", .natural listing.length),
      ("limit", .natural (min limit maxRows)),
      ("offset", .natural offset),
      ("pageviews", .array ((((v.store.joined listing).drop offset).take
        (min limit maxRows)).map Pageview.json))]))
  /-- An offset that the store cannot skip is the fault of the request. -/
  refused : ∀ now r offset, r.AsksForPage now site ⟨start, stop⟩ limit offset →
    maxOffset < offset →
    v.pageviews now r = .error (.ofError (.invalidInput (.offsetOutOfRange offset)))

/-- The limit is cut where the page is read, so it may have been cut before. -/
theorem listPageviews_min (s : Store) (site : String) (start stop : Instant) (limit offset : ℕ) :
    s.listPageviews site start stop (min limit maxRows) offset =
      s.listPageviews site start stop limit offset := by
  rw [Store.listPageviews, Store.listPageviews, Nat.min_assoc, Nat.min_self]

/-- A request is answered with what is counted and listed. -/
theorem answersPages (h : v.store.Paged site start stop limit listing) :
    v.AnswersPages site start stop limit listing := by
  refine ⟨?_, ?_⟩
  · rintro now r offset ⟨q, hread, rfl, hrange, rfl, rfl⟩ hle
    rw [pageviews, hread]
    simp only [ok_bind, hrange, h.total, listPageviews_min, h.cuts.page _ hle, Except.mapError]
  · rintro now r offset ⟨q, hread, rfl, hrange, rfl, rfl⟩ hlt
    rw [pageviews, hread]
    simp only [ok_bind, hrange, h.total, listPageviews_min, h.cuts.refused _ hlt, Except.mapError,
      error_bind]

/-- **Pages list every fact once**, in every state that visits and compactions lead to. -/
theorem pageviews_paged (es : List Episode) (v : Service)
    (reached : v.store = Store.migrated.undergo es) (site : String) (start stop : Instant)
    (order : start ≤ stop) (hstart : start.FourDigit) (hstop : stop.FourDigit) (limit : ℕ)
    (pos : 1 ≤ limit) :
    ∃ listing, v.store.Paged site start stop limit listing ∧
      v.AnswersPages site start stop limit listing := by
  obtain ⟨as, has⟩ :=
    Account.balanced_opening.exists_run_of_undergo Store.current_migrated es
  rw [show Account.opening.store = Store.migrated from rfl, ← reached] at has
  have hhealthy : v.store.Healthy := by
    rw [has, Account.store_run_opening]
    exact Store.healthy_migrated.runAll as
  have hincreasing : v.store.factList.Pairwise fun a b => a.id < b.id := by
    rw [has]
    exact (Account.balanced_run as).increasing
  obtain ⟨listing, hpaged⟩ := hhealthy.paged hincreasing site order hstart hstop pos
  exact ⟨listing, hpaged, answersPages hpaged⟩

/-- Views of one moment, three of them of one site, with a compaction and a restart between them. -/
def momentaryViews : List Episode := [
  .operation (.call (viewOn (sampleDay 0) "blog" "/")),
  .operation (.call (viewOn (sampleDay 0) "blog" "/about")),
  .operation (.call (.compact (sampleDay 0) (.midnight (sampleDay 3)))),
  .operation (.call (viewOn (sampleDay 0) "shop" "/")),
  .migrate,
  .operation (.call (viewOn (sampleDay 0) "blog" "/"))]

/-- A service on the store with these views. -/
def momentaryService : Service :=
  { freshService with store := Store.migrated.undergo momentaryViews }

/-- A request for the page behind the first two views of a day. -/
def secondPage : Request :=
  ⟨"GET", "/api/stats/pageviews?site_id=blog&start=2024-01-15&end=2024-01-15&limit=2&offset=2",
    [], ""⟩

theorem secondPage_of_momentaryViews :
    momentaryService.store = Store.migrated.undergo momentaryViews ∧
      Instant.midnight (sampleDay 0) ≤ .endOfDay (sampleDay 0) ∧
      (Instant.midnight (sampleDay 0)).FourDigit ∧ (Instant.endOfDay (sampleDay 0)).FourDigit ∧
      1 ≤ 2 ∧
      ∃ listing, momentaryService.store.Paged "blog" (.midnight (sampleDay 0))
          (.endOfDay (sampleDay 0)) 2 listing ∧
        momentaryService.AnswersPages "blog" (.midnight (sampleDay 0))
          (.endOfDay (sampleDay 0)) 2 listing ∧
        listing.map (·.id) = [4, 2, 1] ∧
        momentaryService.pageviews (.midnight (sampleDay 3)) secondPage = .ok (regular (.object [
          ("total", .natural 3), ("limit", .natural 2), ("offset", .natural 2),
          ("pageviews", .array [Pageview.json ⟨1, .midnight (sampleDay 0), 7,
            { PerDimension.replicate none with path := some "/" }⟩])])) := by
  obtain ⟨listing, hpaged, hanswers⟩ := pageviews_paged momentaryViews momentaryService rfl "blog"
    (.midnight (sampleDay 0)) (.endOfDay (sampleDay 0)) (by decide) (by decide) (by decide) 2
    (by decide)
  -- of one moment, the views are listed in the reverse of the order in which they came
  have hreverse : ListsFacts (momentaryService.store.siteFactsWithin "blog"
      ⟨.midnight (sampleDay 0), .endOfDay (sampleDay 0)⟩) _ :=
    ⟨List.reverse_perm _, by decide +kernel, by decide +kernel⟩
  obtain rfl := hpaged.lists.eq hreverse
  refine ⟨rfl, by decide, by decide, by decide, by decide, _, hpaged, hanswers,
    by decide +kernel, ?_⟩
  have hasked : secondPage.AsksForPage (.midnight (sampleDay 3)) "blog"
      ⟨.midnight (sampleDay 0), .endOfDay (sampleDay 0)⟩ 2 2 := by
    decide +kernel
  have hpage : ((momentaryService.store.joined (momentaryService.store.siteFactsWithin "blog"
      ⟨.midnight (sampleDay 0), .endOfDay (sampleDay 0)⟩).reverse).drop 2).take (min 2 maxRows) =
        [⟨1, .midnight (sampleDay 0), 7,
          { PerDimension.replicate none with path := some "/" }⟩] := by
    decide +kernel
  have htotal : (momentaryService.store.siteFactsWithin "blog"
      ⟨.midnight (sampleDay 0), .endOfDay (sampleDay 0)⟩).reverse.length = 3 := by
    decide +kernel
  rw [hanswers.answer _ _ _ hasked (by decide), hpage, htotal]
  rfl

end Service

end Footfall
