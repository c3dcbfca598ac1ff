import Footfall.Service.Answers
import Footfall.Service.Params
import Footfall.Stats.Densify
import Footfall.Visit.Fingerprint
import Footfall.Visit.Payload
import Footfall.Web.Form
import Footfall.Web.MediaType
import Footfall.Web.Message

/-!
# Endpoints

What the service does for each kind of request.

## Main Definitions

* `Refusal` — why there is no regular answer
* `Service.ingest` — keeps an event
* `Service.timeseries`, `Service.summaryAnswer`, `Service.pages`, `Service.devices`,
  `Service.pageviews` — answer statistics
* `Service.compact`, `Service.compactionStatus` — compact a day, and tell whether it is compacted

## Design Notes

A request is checked from the outside to the inside: first its form, then what it names, and last
the store. An event that is refused before the last step changes nothing, not even a counter.
-/

namespace Footfall

/-- Why there is no regular answer. -/
inductive Refusal where
  /-- The message itself is wrong. -/
  | form (status : Nat) (reason : String)
  /-- What the message asks for is refused. -/
  | fault (f : ServiceFault)

namespace Refusal

/-- The fault of an error of the library. -/
def ofError (e : StatsError) : Refusal :=
  fault (.ofError e)

/-- The answer, or none if the request is left without one. -/
def response? : Refusal → Option Response
  | form status reason => some (.plain status reason)
  | fault .beyondCalendar => none
  | fault f => some (.ofJson f.status f.json)

end Refusal

/-! ## Events -/

/-- The body of an event has at most this many bytes. -/
def maxEventSize : Nat := 16384

/-- An address in an event has at most this many bytes. -/
def maxAddressSize : Nat := 2048

/-- Reads the payload of an event. -/
def Request.payload (r : Request) : Except Refusal Payload :=
  if !((r.header? "content-type").map MediaType.isJson).getD false then
    .error (.form 415 "Expected a body of type application/json")
  else if maxEventSize < r.body.utf8ByteSize then .error (.form 413 "The body is too large")
  else
    match Payload.parse r.body with
    | .ok p => .ok p
    | .error .malformed => .error (.form 400 "The body is not JSON")
    | .error .mismatched => .error (.form 422 "The body is JSON of another shape")

/-- The address of the client: the first one that a proxy names, else the one that it hands on. -/
def Request.client (r : Request) : String :=
  match r.header? "x-forwarded-for" with
  | some list => String.ofList (trimBlanks (before (· == ',') list.toList))
  | none => (r.header? "x-real-ip").getD "unknown"

/-- The event of a payload. -/
def Payload.event (p : Payload) (client userAgent : String) : Event where
  site := p.site
  path := pathOfUrl p.url
  referrer :=
    (p.referrer.map fun r => String.ofList (withoutControls maxAddressLength r.toList)).filter
      (!·.isEmpty)
  time := none
  visitor := (fingerprint client userAgent).toNat

namespace Service

/-- Refuses a payload that is incomplete, too long or for a site that is not served. -/
def checkPayload (v : Service) (p : Payload) : Except ServiceFault Unit := do
  if p.site.isEmpty || p.url.isEmpty then .error (.badRequest "d and u are required")
  else if maxAddressSize < p.url.utf8ByteSize ||
      (p.referrer.map fun r => decide (maxAddressSize < r.utf8ByteSize)).getD false then
    .error (.badRequest "payload field too long")
  else
    checkSite p.site
    if v.acceptsSite p.site then .ok () else .error (.notFound s!"unknown site {p.site}")

/-- Counts an event that was kept. -/
def countRecorded (v : Service) (complete : Bool) : Service :=
  { v with counters := { v.counters with
      recorded := v.counters.recorded + 1
      incomplete := v.counters.incomplete + (if complete then 0 else 1) } }

/-- Counts an event that could not be kept. -/
def countRejected (v : Service) : Service :=
  { v with counters := { v.counters with rejected := v.counters.rejected + 1 } }

/-- Keeps the event of a payload that was checked. -/
def recordPayload (v : Service) (now : Instant) (r : Request) (p : Payload) :
    Service × Except Refusal Response :=
  let client := r.client
  let userAgent := (r.header? "user-agent").getD ""
  let attrs := (v.enricher client userAgent).withLanguage (r.header? "accept-language")
  let (store, result) := v.store.record (p.event client userAgent) attrs v.policy now
  let v := { v with store := store }
  match result with
  | .ok outcome => (v.countRecorded outcome.complete, .ok (.bare 202))
  | .error e => (v.countRejected, .error (.ofError e))

/-- Keeps an event. -/
def ingest (v : Service) (now : Instant) (r : Request) : Service × Except Refusal Response :=
  match r.payload with
  | .error refusal => (v, .error refusal)
  | .ok p =>
    match v.checkPayload p with
    | .error fault => (v, .error (.fault fault))
    | .ok () => v.recordPayload now r p

end Service

/-! ## Statistics -/

/-- Reads the parameters of a request for statistics. -/
def StatsParams.ofForm (form : Form) : Except FormFault StatsParams := do
  let site ← form.field "site_id"
  let period ← form.field? "period"
  .ok {
    site := site
    period := period.getD "30d"
    start := ← form.field? "start"
    stop := ← form.field? "end"
    granularity := ← form.field? "granularity"
    limit := ← form.natural? "limit"
    offset := ← form.natural? "offset" }

/-- The refusal of a query that cannot be read. -/
def badQuery (_ : FormFault) : Refusal :=
  .form 400 "The query cannot be read"

/-- A request for statistics that was checked. -/
structure StatsRequest where
  /-- The parameters. -/
  params : StatsParams
  /-- The range. -/
  range : Span

/-- Reads and checks a request for statistics. -/
def StatsRequest.read (now : Instant) (r : Request) : Except Refusal StatsRequest := do
  let params ← (StatsParams.ofForm (Form.parse r.query)).mapError badQuery
  (checkSite params.site).mapError .fault
  let range ← (params.range now).mapError .fault
  .ok ⟨params, range⟩

/-- A regular answer. -/
def regular (value : Json) : Response :=
  .ofJson 200 value

namespace Service

/-- The series of a range with a point for every bucket. -/
def timeseries (v : Service) (now : Instant) (r : Request) : Except Refusal Response := do
  let q ← StatsRequest.read now r
  let g ← q.params.granularityOf.mapError .fault
  let points ← (v.store.series q.params.site q.range.start q.range.stop g now).mapError .ofError
  .ok (regular (.array ((g.densify points q.range.start q.range.stop).map Point.json)))

/-- The totals of a range. -/
def summaryAnswer (v : Service) (now : Instant) (r : Request) : Except Refusal Response := do
  let q ← StatsRequest.read now r
  let summary ← (v.store.summary q.params.site q.range.start q.range.stop now).mapError .ofError
  .ok (regular summary.json)

/-- The most viewed pages. -/
def pages (v : Service) (now : Instant) (r : Request) : Except Refusal Response := do
  let q ← StatsRequest.read now r
  let limit := q.params.limit.getD 10
  let found ← (v.store.topPages q.params.site q.range.start q.range.stop limit).mapError .ofError
  .ok (regular (.array (found.map PageCount.json)))

/-- The shares of the device classes. -/
def devices (v : Service) (now : Instant) (r : Request) : Except Refusal Response := do
  let q ← StatsRequest.read now r
  let found ← (v.store.deviceUsage q.params.site q.range.start q.range.stop).mapError .ofError
  .ok (regular (.array (found.map DeviceShare.json)))

/-- A page of single pageviews with the number of all. -/
def pageviews (v : Service) (now : Instant) (r : Request) : Except Refusal Response := do
  let q ← StatsRequest.read now r
  let limit := min (q.params.limit.getD 50) maxRows
  let offset := q.params.offset.getD 0
  let total ← (v.store.countPageviews q.params.site q.range.start q.range.stop).mapError .ofError
  let found ← (v.store.listPageviews q.params.site q.range.start q.range.stop limit
    offset).mapError .ofError
  .ok (regular (.object [
    ("total", .natural total),
    ("limit", .natural limit),
    ("offset", .natural offset),
    ("pageviews", .array (found.map Pageview.json))]))

end Service

/-! ## Compaction -/

/-- The parameters of a compaction request. -/
structure CompactParams where
  /-- The day. -/
  day : String
  /-- The site to compare, if one is named. -/
  site : Option String

/-- Reads the parameters of a compaction request. -/
def CompactParams.ofForm (form : Form) : Except FormFault CompactParams := do
  .ok ⟨← form.field "day", ← form.field? "site_id"⟩

/-- Reads a compaction request and its day. -/
def CompactParams.read (r : Request) : Except Refusal (CompactParams × Day) := do
  let params ← (CompactParams.ofForm (Form.parse r.query)).mapError badQuery
  let day ← (parseDay params.day).mapError .fault
  .ok (params, day)

namespace Service

/-- Compacts a day. A day that may not be compacted yet does not count as a failure. -/
def compact (v : Service) (now : Instant) (r : Request) : Service × Except Refusal Response :=
  match CompactParams.read r with
  | .error refusal => (v, .error refusal)
  | .ok (_, day) =>
    match v.store.compactDay day now with
    | .ok (store, report) =>
      (({ v with store := store } : Service).countPass ⟨[report], []⟩, .ok (regular report.json))
    | .error e =>
      (if e.isInvalidInput then v else v.countPass ⟨[], [(day, e)]⟩, .error (.ofError e))

/-- Tells whether a day is compacted and, for a site, whether its facts agree with the rollup. -/
def compactionStatus (v : Service) (r : Request) : Except Refusal Response := do
  let (params, day) ← CompactParams.read r
  match params.site with
  | some site => (checkSite site).mapError .fault
  | none => .ok ()
  let mark ← (v.store.watermark day).mapError .ofError
  let check ← match params.site with
    | some site => ((v.store.crossCheck site day).map some).mapError .ofError
    | none => .ok none
  .ok (regular (.object [
    ("day", .text day.text),
    ("watermark", (mark.map Watermark.json).getD .null),
    ("cross_check", (check.map CrossCheck.json).getD .null)]))

end Service

end Footfall
