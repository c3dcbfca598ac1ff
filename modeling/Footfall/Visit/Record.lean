import Footfall.Store.Resolve
import Footfall.Visit.Attributes
import Footfall.Visit.Page
import Footfall.Visit.Referrer

/-!
# Recording a pageview

Each present dimension of an event is resolved to the id of its reference row, and one fact is
appended.

## Main Definitions

* `Event` — a page load as the tracking script reports it
* `Event.values` — the value of each dimension, if it is present
* `Policy` — what happens to an event with a dimension that cannot be resolved
* `Recording` — ids found so far and dimensions that stayed unresolved
* `Store.record` — resolves and appends

## Design Notes

Dimensions are resolved in the order of `Dimension.all`, so a parent comes before what it scopes.
Reference rows that were created stay, whatever becomes of the event.
-/

namespace Footfall

/-- A page load, before its dimensions are resolved. -/
structure Event where
  /-- Site of the page. -/
  site : String
  /-- Path of the page. -/
  path : String
  /-- Address of the page before. -/
  referrer : Option String
  /-- When the page was loaded, or none for the time of writing. -/
  time : Option Instant
  /-- Fingerprint of the visitor. -/
  visitor : Nat

/-- What happens to an event with a dimension that is present and cannot be resolved. -/
inductive Policy where
  /-- It is kept without that dimension. -/
  | record
  /-- It is dropped. -/
  | reject
  deriving DecidableEq, Repr

/-- The name of a policy. -/
def Policy.name : Policy → String
  | record => "record"
  | reject => "reject"

/-- A dimension that is present and could not be resolved. -/
structure Unresolved where
  /-- The dimension. -/
  dimension : Dimension
  /-- Why it could not. -/
  reason : String
  deriving DecidableEq, Repr

/-- What became of an event. -/
structure Outcome where
  /-- Id of the fact. -/
  id : Int
  /-- Time of the fact. -/
  time : Instant
  /-- Site of the fact. -/
  site : String
  /-- Fingerprint of the visitor. -/
  visitor : Nat
  /-- Ids of the reference rows. -/
  ids : PerDimension (Option Int)
  /-- Dimensions that were present and could not be resolved. -/
  unresolved : List Unresolved

/-- Whether every present dimension was resolved. -/
def Outcome.complete (o : Outcome) : Bool :=
  o.unresolved.isEmpty

/-! ## Values of an event -/

/-- A value without the blanks around it, if anything is left. -/
def present (value : Option String) : Option String :=
  (value.map trim).filter (!·.isEmpty)

/-- The value of each dimension, if it is present. -/
def Event.values (e : Event) (attrs : Attributes) : PerDimension (Option String) :=
  .ofFn fun d => present <|
    match d with
    | .referrer => e.referrer.bind referrerHost
    | .path => some (withoutQuery e.path)
    | d => attrs.get d

/-! ## Resolution of all dimensions -/

/-- Ids found so far and dimensions that stayed unresolved. -/
structure Recording where
  /-- The store with the reference rows created so far. -/
  store : Store
  /-- The ids found so far. -/
  ids : PerDimension (Option Int)
  /-- The dimensions that stayed unresolved. -/
  unresolved : List Unresolved

namespace Recording

/-- The start, without an id. -/
def start (s : Store) : Recording :=
  ⟨s, .replicate none, []⟩

/-- Notes that a dimension stays unresolved. -/
def miss (r : Recording) (d : Dimension) (reason : String) : Recording :=
  { r with unresolved := r.unresolved ++ [⟨d, reason⟩] }

/-- Resolves a key and notes its id or why there is none. -/
def resolve (r : Recording) (k : NaturalKey) : Recording :=
  match r.store.resolve k with
  | (s, .ok id) => { r with store := s, ids := r.ids.set k.dimension (some id) }
  | (s, .error e) => { r with store := s }.miss k.dimension e.message

/-- Resolves one dimension if it is present. Under a parent that has no id it stays unresolved. -/
def advance (values : PerDimension (Option String)) (r : Recording) (d : Dimension) : Recording :=
  match values.get d with
  | none => r
  | some value =>
    match d.parent? with
    | none => r.resolve ⟨d, none, value⟩
    | some up =>
      match r.ids.get up with
      | some id => r.resolve ⟨d, some id, value⟩
      | none => r.miss d s!"{d.name} requires a resolved parent"

/-- Resolves all dimensions. -/
def run (s : Store) (values : PerDimension (Option String)) : Recording :=
  Dimension.all.foldl (advance values) (start s)

end Recording

namespace Store

/-- Appends the fact of an event at an instant. -/
def writeFact (s : Store) (time : Instant) (e : Event) (ids : PerDimension (Option Int)) :
    Except StoreFault (Store × Int) := do
  let stored ← time.stored
  s.appendFact stored e.site e.visitor ids

/-- Resolves every dimension of an event and appends one fact. The store keeps the reference rows
also if the event is refused after all. -/
def record (s : Store) (e : Event) (attrs : Attributes) (policy : Policy) (now : Instant) :
    Store × Except StatsError Outcome :=
  if e.site.isEmpty then (s, .error (.invalidInput .emptySite))
  else if (withoutQuery e.path).isEmpty then (s, .error (.invalidInput .emptyPath))
  else
    let r := Recording.run s (e.values attrs)
    match policy, r.unresolved with
    | .reject, first :: _ => (r.store, .error (.unresolved first.dimension first.reason))
    | _, _ =>
      let time := e.time.getD now
      match r.store.writeFact time e r.ids with
      | .error cause => (r.store, .error (.write cause))
      | .ok (s', id) => (s', .ok ⟨id, time, e.site, e.visitor, r.ids, r.unresolved⟩)

end Store

end Footfall
