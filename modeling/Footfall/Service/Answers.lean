import Footfall.Json.Value
import Footfall.Rollup.Staleness
import Footfall.Service.Fault
import Footfall.Service.State
import Footfall.Stats.Listing
import Footfall.Stats.Summary

/-!
# Answers

The JSON values in which the service answers.

## Main Definitions

* `Point.json`, `Summary.json`, `PageCount.json`, `DeviceShare.json`, `Pageview.json` — statistics
* `Report.json`, `Watermark.json`, `CrossCheck.json` — the state of the rollups
* `ServiceFault.json` — the body of a refusal
* `Service.healthJson`, `Service.metricsText` — the state of the service
-/

namespace Footfall

/-- A natural number. -/
def Json.natural (n : Nat) : Json :=
  integer n

/-- An element of a series. -/
def Point.json (p : Point) : Json := .object [
  ("timestamp", .text p.time.text),
  ("pageviews", .natural p.pageviews),
  ("unique_visitors", .natural p.visitors),
  ("bounce_rate", .real p.bounceRate)]

/-- The totals of a range. -/
def Summary.json (s : Summary) : Json := .object [
  ("total_pageviews", .natural s.pageviews),
  ("unique_visitors", .natural s.visitors),
  ("bounce_rate", .real s.bounceRate)]

/-- Pageviews and visitors of a page. -/
def PageCount.json (p : PageCount) : Json := .object [
  ("path", .text p.path),
  ("count", .natural p.count),
  ("unique_visitors", .natural p.visitors)]

/-- The share of a device class. -/
def DeviceShare.json (d : DeviceShare) : Json := .object [
  ("device_type", .text d.deviceType),
  ("count", .natural d.count),
  ("percentage", .real d.percentage)]

/-- A single pageview. -/
def Pageview.json (p : Pageview) : Json :=
  let names : List Dimension := [.path, .referrer, .country, .region, .city, .browser,
    .operatingSystem, .deviceType, .language]
  .object ([
    ("id", .integer p.id),
    ("ts", .text p.time.text),
    ("visitor_id", .natural p.visitor)] ++
    names.map fun d => (d.name, .optional (p.names.get d)))

/-- What a compaction wrote. -/
def Report.json (r : Report) : Json := .object [
  ("day", .text r.day.text),
  ("fact_count", .natural r.factCount),
  ("daily_rows", .natural r.dailyRows),
  ("hourly_rows", .natural r.hourlyRows)]

/-- The last compaction of a day. -/
def Watermark.json (w : Watermark) : Json := .object [
  ("day", .text w.day.text),
  ("compacted_at", .text w.compactedAt.text),
  ("fact_count", .natural w.factCount),
  ("daily_rows", .natural w.dailyRows),
  ("hourly_rows", .natural w.hourlyRows)]

/-- Facts against rollup. -/
def CrossCheck.json (c : CrossCheck) : Json := .object [
  ("site_id", .text c.site),
  ("day", .text c.day.text),
  ("fact_pageviews", .natural c.factPageviews),
  ("rollup_pageviews", .natural c.rollupPageviews),
  ("fact_bounces", .natural c.factBounces),
  ("rollup_bounces", .natural c.rollupBounces)]

/-- The body of a refusal. -/
def ServiceFault.json (f : ServiceFault) : Json :=
  .object [("error", .text f.explanation)]

namespace Service

/-- The version of the service. -/
def version : String := "0.1.0"

/-- Settings and counters. -/
def healthJson (v : Service) : Json := .object [
  ("allowed_sites", .natural v.allowedSites.length),
  ("compaction_failures", .natural v.counters.compactionFailures.toNat),
  ("compactions", .natural v.counters.compactions.toNat),
  ("events_recorded", .natural v.counters.recorded.toNat),
  ("geoip_loaded", .bool v.geoLoaded),
  ("reject_unresolved", .bool (v.policy == .reject)),
  ("status", .text "ok"),
  ("version", .text version)]

/-- A measured number with its description. -/
structure Metric where
  /-- Name of the number. -/
  name : String
  /-- Whether it only grows or may go up and down. -/
  kind : String
  /-- What it counts. -/
  help : String
  /-- The number. -/
  value : Nat

/-- The three lines of a metric. -/
def Metric.lines (m : Metric) : String :=
  s!"# HELP {m.name} {m.help}\n# TYPE {m.name} {m.kind}\n{m.name} {m.value}\n"

/-- All metrics. -/
def metrics (v : Service) : List Metric := [
  ⟨"tidemark_events_recorded_total", "counter", "Pageview facts written since startup",
    v.counters.recorded.toNat⟩,
  ⟨"tidemark_events_partial_total", "counter",
    "Facts written with at least one unresolved dimension", v.counters.incomplete.toNat⟩,
  ⟨"tidemark_events_rejected_total", "counter", "Events that failed to record",
    v.counters.rejected.toNat⟩,
  ⟨"tidemark_compactions_total", "counter", "Successful day compactions since startup",
    v.counters.compactions.toNat⟩,
  ⟨"tidemark_compaction_failures_total", "counter", "Failed day compactions since startup",
    v.counters.compactionFailures.toNat⟩,
  ⟨"tidemark_geoip_loaded", "gauge", "Whether a GeoIP database is loaded",
    if v.geoLoaded then 1 else 0⟩]

/-- All metrics in the text format of their collectors. -/
def metricsText (v : Service) : String :=
  String.join (v.metrics.map Metric.lines)

end Service

end Footfall
