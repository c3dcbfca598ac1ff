import Footfall.Store.Basic

/-!
# Schema and migrations

The tables of a fresh store and the steps that bring an older store up to date.

## Main Definitions

* `Store.initSchema` — creates every table whose name is free
* `Store.addScanIndex` — creates the index of facts by site and time, `Store.scanIndexName`
* `Store.version` — the highest schema version reached
* `migrations` — the numbered steps
* `Store.migrate` — applies the steps that are still missing

## Design Notes

Each step is a transaction of its own with the row that records it, so a version is recorded if
and only if its step was applied whole. A store of a later version is left alone.
-/

namespace Footfall

namespace Store

/-- Creates the reference tables and their sequences. -/
def createDimensions (s : Store) : Store :=
  { s with
    dimensions := s.dimensions.map (·.create [])
    dimensionIds := s.dimensionIds.map fun n => some (n.getD 0) }

/-- Creates the table of facts and its sequence. -/
def createFacts (s : Store) : Store :=
  { s with facts := s.facts.create [], factIds := some (s.factIds.getD 0) }

/-- Creates the rollups and the watermarks. -/
def createRollups (s : Store) : Store :=
  { s with
    daily := s.daily.create .empty
    hourly := s.hourly.create .empty
    watermarks := s.watermarks.create .empty }

/-- Creates every table whose name is free. -/
def initSchema (s : Store) : Store :=
  s.createDimensions.createFacts.createRollups

/-- The name of the index of facts by site and time. -/
def scanIndexName : String := "pageviews_site_ts_idx"

/-- Creates the index of facts by site and time unless it exists. A view has no index. -/
def addScanIndex (s : Store) : Except StoreFault Store := do
  let _ ← s.factRows
  .ok { s with scanIndex := true }

/-- Creates the table of versions unless its name is taken. -/
def createVersions (s : Store) : Store :=
  { s with versions := s.versions.create [] }

/-- Records that a version was reached. -/
def addVersion (s : Store) (version : Int) (name : Option String) : Except StoreFault Store := do
  let rows ← s.versionRows
  if version < -2147483648 ∨ 2147483647 < version then .error (.outOfRange version)
  else .ok { s with versions := .table (rows ++ [⟨version, name⟩]) }

/-- The highest schema version reached, zero for a fresh store. -/
def version (s : Store) : Except StoreFault Nat := do
  let rows ← s.versionRows
  let highest := (rows.map (·.version)).max?.getD 0
  if highest < 0 then .error (.outOfRange highest) else .ok highest.toNat

end Store

/-- A step from one schema version to the next. -/
structure Migration where
  /-- The version that the step reaches. -/
  version : Nat
  /-- What the step does. -/
  name : String
  /-- The step. -/
  apply : Store → Except StoreFault Store

/-- All steps in order. -/
def migrations : List Migration := [
  ⟨1, "dimensions, facts, rollups and watermarks", fun s => .ok s.initSchema⟩,
  ⟨2, "fact scan index on (site_id, ts)", Store.addScanIndex⟩]

/-- The version that all steps reach. -/
def latestVersion : Nat := 2

namespace Store

/-- Applies one step and records it, both or neither. -/
def applyStep (s : Store) (m : Migration) : Except StoreFault Store := do
  let applied ← m.apply s
  applied.addVersion m.version (some m.name)

/-- Applies steps until one fails. The store keeps what the steps before it did. -/
def applySteps (s : Store) : List Migration → Store × Except StoreFault Unit
  | [] => (s, .ok ())
  | m :: rest =>
    match s.applyStep m with
    | .ok s' => s'.applySteps rest
    | .error e => (s, .error e)

/-- Brings the store up to date. -/
def migrate (s : Store) : Store × Except StoreFault Unit :=
  let s := s.createVersions
  match s.version with
  | .error e => (s, .error e)
  | .ok recorded =>
    if latestVersion < recorded then (s, .ok ())
    else s.applySteps (migrations.filter (recorded < ·.version))

end Store

end Footfall
