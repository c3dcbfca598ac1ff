import Footfall.Error

/-!
# Refused requests

Why the service refuses a request, and how it says so.

## Main Definitions

* `ServiceFault` — the cause
* `ServiceFault.status` — the status code of the answer
* `ServiceFault.explanation` — the text of the answer
* `ServiceFault.message` — the wording for operators

## Design Notes

A caller learns what is wrong with the request, and nothing about the inside of the service.
-/

namespace Footfall

/-- Why the service refuses a request. -/
inductive ServiceFault where
  /-- The request is wrong. -/
  | badRequest (reason : String)
  /-- What the request asks for does not exist. -/
  | notFound (reason : String)
  /-- The event cannot be kept now; the caller may try again. -/
  | unavailable (reason : String)
  /-- The service is at fault. -/
  | internal (reason : String)
  /-- The store is at fault. -/
  | failed (cause : StatsError)
  /-- The request names a moment after the end of the calendar. It is left without an answer. -/
  | beyondCalendar
  deriving DecidableEq

namespace ServiceFault

/-- The fault to which an error leads. -/
def ofError : StatsError → ServiceFault
  | .invalidInput fault => badRequest fault.message
  | .unresolved d reason => unavailable (StatsError.unresolved d reason).message
  | e => failed e

/-- The wording for operators. -/
def message : ServiceFault → String
  | badRequest reason => s!"Bad request: {reason}"
  | notFound reason => s!"Not found: {reason}"
  | unavailable reason => s!"Unavailable: {reason}"
  | internal reason => s!"Internal error: {reason}"
  | failed cause => s!"Stats error: {cause.message}"
  | beyondCalendar => StatsError.beyondCalendar.message

/-- The status code of the answer. -/
def status : ServiceFault → Nat
  | badRequest _ => 400
  | notFound _ => 404
  | unavailable _ => 503
  | internal _ => 500
  | failed _ => 500
  | beyondCalendar => 500

/-- The text of the answer. -/
def explanation : ServiceFault → String
  | badRequest reason => reason
  | notFound reason => reason
  | unavailable reason => reason
  | internal _ => "Internal server error"
  | failed _ => "Internal server error"
  | beyondCalendar => "Internal server error"

end ServiceFault

end Footfall
