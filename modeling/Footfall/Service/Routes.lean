import Footfall.Service.Endpoints

/-!
# Routes

From a request to its answer.

## Main Definitions

* `Endpoint` — a place where the service answers, with its path and method
* `Service.handle` — the answer to a request, and the service after it

## Design Notes

Events may come from pages of any origin, and statistics may be read by them, so these endpoints
answer preflight requests and name every origin. Every answer has the same three headers for
security.
-/

namespace Footfall

/-- A place where the service answers. -/
inductive Endpoint where
  | health
  | detailedHealth
  | metrics
  | event
  | timeseries
  | summary
  | pages
  | devices
  | pageviews
  | compact
  | compactionStatus
  deriving DecidableEq, Repr

namespace Endpoint

/-- All endpoints. -/
def all : List Endpoint :=
  [health, detailedHealth, metrics, event, timeseries, summary, pages, devices, pageviews,
    compact, compactionStatus]

/-- The path of an endpoint. -/
def path : Endpoint → String
  | health => "/health"
  | detailedHealth => "/health/detailed"
  | metrics => "/metrics"
  | event => "/api/event"
  | timeseries => "/api/stats/timeseries"
  | summary => "/api/stats/summary"
  | pages => "/api/stats/pages"
  | devices => "/api/stats/devices"
  | pageviews => "/api/stats/pageviews"
  | compact => "/api/compact"
  | compactionStatus => "/api/compact/status"

/-- The endpoint of a path. -/
def ofPath? (path : String) : Option Endpoint :=
  all.find? (·.path == path)

/-- Whether an endpoint changes the service and is called with `POST`; the others take `GET`. -/
def takesPost : Endpoint → Bool
  | event | compact => true
  | _ => false

/-- Whether pages of any origin may call an endpoint. -/
def isShared : Endpoint → Bool
  | event | timeseries | summary | pages | devices | pageviews => true
  | _ => false

/-- The method of an endpoint. -/
def method (e : Endpoint) : String :=
  if e.takesPost then "POST" else "GET"

/-- Whether an endpoint takes a method. Where `GET` is taken, `HEAD` is taken too. -/
def takes (e : Endpoint) (method : String) : Bool :=
  method == e.method || (method == "HEAD" && !e.takesPost)

/-- The methods of an endpoint as a list. -/
def allow (e : Endpoint) : String :=
  if e.takesPost then "POST" else "GET,HEAD"

end Endpoint

/-- The headers of every answer. -/
def securityHeaders : List (String × String) := [
  ("x-content-type-options", "nosniff"),
  ("x-frame-options", "DENY"),
  ("referrer-policy", "strict-origin-when-cross-origin")]

/-- The headers by which an answer may be read from any origin. -/
def originHeaders : List (String × String) := [
  ("vary", "origin, access-control-request-method, access-control-request-headers"),
  ("access-control-allow-origin", "*")]

/-- The answer to a preflight request. -/
def preflight (e : Endpoint) : Response :=
  let methods := [("access-control-allow-methods", e.method)]
  let headers := if e.takesPost then [("access-control-allow-headers", "content-type")] else []
  ⟨200, methods ++ headers, .empty⟩

namespace Service

/-- What an endpoint does. -/
def perform (v : Service) (now : Instant) (r : Request) :
    Endpoint → Service × Except Refusal Response
  | .health => (v, .ok (.plain 200 "ok"))
  | .detailedHealth => (v, .ok (regular v.healthJson))
  | .metrics =>
    (v, .ok ⟨200, [("content-type", "text/plain; version=0.0.4")], .text v.metricsText⟩)
  | .event => v.ingest now r
  | .timeseries => (v, v.timeseries now r)
  | .summary => (v, v.summaryAnswer now r)
  | .pages => (v, v.pages now r)
  | .devices => (v, v.devices now r)
  | .pageviews => (v, v.pageviews now r)
  | .compact => v.compact now r
  | .compactionStatus => (v, v.compactionStatus r)

/-- The answer of an endpoint that takes the method of the request. -/
def respond (v : Service) (now : Instant) (r : Request) (e : Endpoint) :
    Service × Option Response :=
  let (v, result) := v.perform now r e
  let response := match result with
    | .ok response => some response
    | .error refusal => refusal.response?
  (v, response.map fun a => if r.method == "HEAD" then a.withoutBody else a)

/-- The answer of an endpoint to any method. -/
def dispatch (v : Service) (now : Instant) (r : Request) (e : Endpoint) :
    Service × Option Response :=
  if e.isShared && r.method == "OPTIONS" then (v, some (preflight e))
  else if e.takes r.method then v.respond now r e
  else (v, some ((Response.bare 405).withHeaders [("allow", e.allow)]))

/-- The answer to a request, and the service after it. A request that names a moment after the end
of the calendar has no answer. -/
def handle (v : Service) (now : Instant) (r : Request) : Service × Option Response :=
  match Endpoint.ofPath? r.path with
  | none => (v, some ((Response.bare 404).withHeaders securityHeaders))
  | some e =>
    let (v, response) := v.dispatch now r e
    (v, response.map fun a =>
      (if e.isShared then a.withHeaders originHeaders else a).withHeaders securityHeaders)

end Service

end Footfall
