import Footfall.Calendar.Granularity
import Footfall.Calendar.Text
import Footfall.Dimension
import Footfall.Text.Quoted

/-!
# Errors

What can go wrong, by cause, and the wording of each cause.

## Main Definitions

* `StoreFault` — why the store refused an operation
* `InputFault` — what is wrong with a request, found before the store is touched
* `StatsError` — the errors of ingestion, compaction and queries
* `StatsError.message` — the wording of each
-/

namespace Footfall

/-- Why the store refused an operation. -/
inductive StoreFault where
  /-- No table has this name. -/
  | noTable (name : String)
  /-- The name belongs to a view, which lacks the columns and takes no rows. -/
  | notTable (name : String)
  /-- The name is taken. -/
  | nameTaken (name : String)
  /-- A statement got more or fewer values than it has places for. -/
  | parameterCount
  /-- The text names no moment that the store can keep. -/
  | notTimestamp (text : String)
  /-- A number outside the range of the column or of the reader. -/
  | outOfRange (n : Int)
  /-- A row with this key exists. -/
  | duplicateKey
  /-- Another transaction committed a row with the same key. -/
  | commitConflict
  /-- No transaction is open. -/
  | noTransaction
  /-- A query that must answer a row answered none. -/
  | noRows
  deriving DecidableEq, Repr

/-- The wording of a fault of the store. -/
def StoreFault.message : StoreFault → String
  | noTable name => s!"Table with name {name} does not exist"
  | notTable name => s!"{name} is not a table"
  | nameTaken name => s!"Name {name} is taken"
  | parameterCount => "Wrong number of parameters"
  | notTimestamp text => s!"Invalid timestamp: {text}"
  | outOfRange n => s!"Number {n} is out of range"
  | duplicateKey => "Duplicate key"
  | commitConflict => "Transaction conflict on commit"
  | noTransaction => "No transaction is open"
  | noRows => "Query returned no rows"

/-- What is wrong with a request. -/
inductive InputFault where
  /-- The site of an event is empty. -/
  | emptySite
  /-- The path of an event is empty once query and fragment are gone. -/
  | emptyPath
  /-- The value of a natural key is empty. -/
  | emptyKey (d : Dimension)
  /-- The natural key needs the id of a parent row. -/
  | missingParent (d : Dimension) (column : String)
  /-- The natural key of a flat dimension came with a parent. -/
  | needlessParent (d : Dimension)
  /-- No granularity has this name. -/
  | unknownGranularity (name : String)
  /-- The range has more buckets than a series may have. -/
  | tooManyBuckets (count : Int) (g : Granularity)
  /-- The range ends before it starts. -/
  | reversedRange (start stop : Instant)
  /-- The store cannot skip that many rows. -/
  | offsetOutOfRange (offset : Nat)
  /-- The day to compact has not ended. -/
  | unfinishedDay (day today : Day)
  /-- The calendar ends with the day to compact. -/
  | noFollowingDay (day : Day)
  /-- A fault in words of its own. -/
  | described (text : String)
  deriving DecidableEq

/-- The wording of a fault of a request. -/
def InputFault.message : InputFault → String
  | emptySite => "site_id must not be empty"
  | emptyPath => "path must not be empty"
  | emptyKey d => s!"{d.name} natural key must not be empty"
  | missingParent d column => s!"{d.name} natural key requires {column}"
  | needlessParent d => s!"{d.name} natural key takes no parent"
  | unknownGranularity name =>
    s!"unknown granularity {quoted name}, expected hour, day or month"
  | tooManyBuckets count g =>
    s!"range spans {count} {g.name} buckets, at most {Granularity.maxBuckets} allowed"
  | reversedRange start stop => s!"start {start.plainText} is after end {stop.plainText}"
  | offsetOutOfRange offset => s!"offset {offset} is out of range"
  | unfinishedDay day today =>
    s!"cannot compact {day.text}: only days before {today.text} are final"
  | noFollowingDay day => s!"{day.text} has no following day"
  | described text => text

/-- The errors of ingestion, compaction and queries. -/
inductive StatsError where
  /-- Looking up or creating a dimension row failed. -/
  | resolution (d : Dimension) (cause : StoreFault)
  /-- A dimension stayed unresolved and the policy drops such events. -/
  | unresolved (d : Dimension) (reason : String)
  /-- The compaction of a day was given up. -/
  | compaction (day : Day) (cause : StoreFault)
  /-- A query failed; no part of its answer is kept. -/
  | query (cause : StoreFault)
  /-- The fact itself could not be written. -/
  | write (cause : StoreFault)
  /-- The request was refused before the store was touched. -/
  | invalidInput (fault : InputFault)
  /-- The answer needs a moment that the calendar does not have. -/
  | beyondCalendar
  deriving DecidableEq

namespace StatsError

/-- The wording of an error. -/
def message : StatsError → String
  | resolution d cause => s!"failed to resolve {d.name} dimension: {cause.message}"
  | unresolved d reason => s!"{d.name} dimension unresolved: {reason}"
  | compaction day cause => s!"compaction of {day.text} failed: {cause.message}"
  | query cause => s!"stats query failed: {cause.message}"
  | write cause => s!"failed to write pageview: {cause.message}"
  | invalidInput fault => s!"invalid input: {fault.message}"
  | beyondCalendar => "a moment outside the calendar is needed"

/-- Whether the caller caused the error, and not the store. -/
def isInvalidInput : StatsError → Bool
  | invalidInput _ => true
  | _ => false

end StatsError

/-- The granularity of a name, or the fault that there is none. -/
def Granularity.parse (s : String) : Except InputFault Granularity :=
  match ofName? s with
  | some g => .ok g
  | none => .error (.unknownGranularity s)

end Footfall
