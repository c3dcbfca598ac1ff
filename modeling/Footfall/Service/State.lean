import Footfall.Rollup.Pass
import Footfall.Visit.Record

/-!
# The service

All that the service keeps: the store, its settings and its counters.

## Main Definitions

* `Counters` — what happened since the start
* `Service` — store, settings and counters
* `Service.repair` — the repair pass of the start

## Design Notes

A counter is a word of 64 bits, which starts again from zero after its last value.
-/

namespace Footfall

/-- What happened since the start. -/
structure Counters where
  /-- Facts written. -/
  recorded : UInt64 := 0
  /-- Facts written with an unresolved dimension. -/
  incomplete : UInt64 := 0
  /-- Events that could not be written. -/
  rejected : UInt64 := 0
  /-- Days compacted. -/
  compactions : UInt64 := 0
  /-- Days whose compaction failed. -/
  compactionFailures : UInt64 := 0
  deriving DecidableEq, Repr

/-- Store, settings and counters. -/
structure Service where
  /-- The store. -/
  store : Store
  /-- How attributes are found. -/
  enricher : Enricher
  /-- Sites whose events are kept; without any, those of every site. -/
  allowedSites : List String
  /-- What happens to an event with an unresolved dimension. -/
  policy : Policy
  /-- Whether places can be told. -/
  geoLoaded : Bool
  /-- What happened since the start. -/
  counters : Counters

namespace Service

/-- Whether events of a site are kept. -/
def acceptsSite (v : Service) (site : String) : Bool :=
  v.allowedSites.isEmpty || v.allowedSites.contains site

/-- Counts the days of a pass. -/
def countPass (v : Service) (p : Pass) : Service :=
  { v with counters := { v.counters with
      compactions := v.counters.compactions + p.compacted.length.toUInt64
      compactionFailures := v.counters.compactionFailures + p.failed.length.toUInt64 } }

/-- The repair pass of the start. -/
def repair (v : Service) (now : Instant) (lookback : Nat) : Service :=
  let (store, p) := v.store.runRepair now lookback
  { v with store := store }.countPass p

end Service

end Footfall
