import Footfall.Stats.Series

/-!
# Summaries

The totals of a site over a whole range.

## Main Definitions

* `Summary` — pageviews, visitors and bounce rate
* `Store.totals`, `Store.summary` — those of a range

## Design Notes

Visitors of past days are added up day by day. From today on they are counted once over the rest
of the range.
-/

namespace Footfall

/-- The totals of a range. -/
structure Summary where
  /-- Pageviews. -/
  pageviews : Nat
  /-- Visitors. -/
  visitors : Nat
  /-- Share of visitors with a single view. -/
  bounceRate : Float

namespace Store

/-- The totals of a range that is split at midnight. -/
def splitTotals (s : Store) (site : String) (parts : Split) : Except StoreFault Totals := do
  let historic ← match parts.historic with
    | some range => sumRows (← s.siteRows site range)
    | none => .ok {}
  let live ← match parts.live with
    | some range => countFacts (← s.siteFacts site range)
    | none => .ok {}
  .ok (historic.add live)

/-- The totals of a site from `start` to `stop`. -/
def totals (s : Store) (site : String) (start stop now : Instant) : Except StatsError Totals := do
  (checkRange start stop).mapError .invalidInput
  match split? start stop now with
  | none => .error .beyondCalendar
  | some parts => (s.splitTotals site parts).mapError .query

/-- The summary of a site from `start` to `stop`. -/
def summary (s : Store) (site : String) (start stop now : Instant) :
    Except StatsError Summary := do
  let t ← s.totals site start stop now
  .ok ⟨t.pageviews, t.visitors, bounceRate t.bounces t.visitors⟩

end Store

end Footfall
