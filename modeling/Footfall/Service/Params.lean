import Footfall.Service.Fault
import Footfall.Stats.Range

/-!
# Parameters of a request

What a caller may name: a site, a range of time, a granularity and a day.

## Main Definitions

* `checkSite` — refuses a text that is no site
* `Bound.parse` — the first or last instant of a range
* `StatsParams.range` — the range of a request
* `StatsParams.granularity` — the granularity of a request
* `parseDay` — the day of a compaction request

## Design Notes

Both ends of a range are included. A bare date as its end stands for the last microsecond of that
day. Without both ends the range goes back from now by a period.
-/

namespace Footfall

/-- A site has at most this many bytes. -/
def maxSiteLength : Nat := 256

/-- Characters of a site. -/
def isSiteChar (c : Char) : Bool :=
  c.isAlphanum || c == '.' || c == '-' || c == '_' || c == ':'

/-- Refuses a text that is no site. -/
def checkSite (site : String) : Except ServiceFault Unit :=
  if site.isEmpty then .error (.badRequest "site_id must not be empty")
  else if maxSiteLength < site.utf8ByteSize then
    .error (.badRequest "site_id must be at most 256 characters")
  else if !site.toList.all isSiteChar then
    .error (.badRequest
      "site_id may only contain alphanumeric characters, '.', '-', '_', ':'")
  else .ok ()

/-- The parameters of a request for statistics. -/
structure StatsParams where
  /-- The site. -/
  site : String
  /-- The period that the range goes back without both ends. -/
  period : String := "30d"
  /-- Start of the range. -/
  start : Option String := none
  /-- End of the range. -/
  stop : Option String := none
  /-- Granularity of the series. -/
  granularity : Option String := none
  /-- Number of rows asked for. -/
  limit : Option Nat := none
  /-- Number of rows to skip. -/
  offset : Option Nat := none

/-- Which end of a range a text names. -/
inductive Bound where
  | start
  | stop
  deriving DecidableEq

/-- The last instant of a day to the microsecond. -/
def lastMicrosecond? (d : Day) : Option Instant :=
  ((Instant.midnight d).add? Instant.dayLength).bind (·.add? (-Instant.microsecond))

/-- The instant that a text names as an end of a range. -/
def Bound.parse (b : Bound) (raw : String) : Except ServiceFault Instant :=
  match Instant.parseRfc3339? raw with
  | some t => .ok t
  | none =>
    match Day.parse? raw, b with
    | none, _ => .error (.badRequest s!"Invalid date: {raw}")
    | some d, .start => .ok (.midnight d)
    | some d, .stop =>
      match lastMicrosecond? d with
      | some t => .ok t
      | none => .error .beyondCalendar

/-- How many days a period goes back. -/
def periodDays? : String → Option Nat
  | "day" | "today" => some 0
  | "7d" => some 7
  | "30d" => some 30
  | "90d" => some 90
  | _ => none

namespace StatsParams

/-- The range of a request. -/
def range (p : StatsParams) (now : Instant) : Except ServiceFault Span :=
  match p.start, p.stop with
  | some start, some stop => do .ok ⟨← Bound.start.parse start, ← Bound.stop.parse stop⟩
  | _, _ =>
    match periodDays? p.period with
    | some days => .ok ⟨.midnight (now.day.back days), now⟩
    | none =>
      .error (.badRequest s!"Invalid period: {p.period}. Use 'day', '7d', '30d', '90d', or provide start and end.")

/-- The granularity of a request: hours for the period of a single day, else days. -/
def granularityOf (p : StatsParams) : Except ServiceFault Granularity :=
  match p.granularity with
  | some name => (Granularity.parse name).mapError fun fault => .ofError (.invalidInput fault)
  | none => .ok (if periodDays? p.period = some 0 ∧ p.start = none then .hour else .day)

end StatsParams

/-- The day of a compaction request. -/
def parseDay (raw : String) : Except ServiceFault Day :=
  match Day.parse? raw with
  | some d => .ok d
  | none => .error (.badRequest s!"Invalid day: {raw}")

end Footfall
