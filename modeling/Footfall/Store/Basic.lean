import Footfall.Calendar.Timestamp
import Footfall.Error
import Footfall.Store.Table

/-!
# The store

Everything that outlives a request: reference tables, facts, rollups, watermarks, schema versions
and the sequences that number rows.

## Main Definitions

* `Fact` — one pageview
* `RollupKey`, `Measures` — a row of a rollup
* `Slot` — what stands under a table's name: nothing, a view, or a table
* `Store` — all tables and sequences
* `TableName` — the names of the tables

## Design Notes

Facts and reference rows are lists in the order in which they came. Rollups and watermarks have a
primary key and are `Table`s. Any table may be missing, and every reader says so.
-/

namespace Footfall

/-! ## Rows -/

/-- A row of a reference table. -/
structure DimensionRow where
  /-- Surrogate id. -/
  id : Int
  /-- Id of the row that scopes this one, for dimensions with a parent. -/
  parent : Option Int
  /-- Natural value. -/
  value : String
  deriving DecidableEq, Repr

/-- One pageview. -/
structure Fact where
  /-- Surrogate id. -/
  id : Int
  /-- When the page was viewed. -/
  time : Timestamp
  /-- Site of the page. -/
  site : String
  /-- Fingerprint of the visitor. -/
  visitor : Nat
  /-- Ids of the reference rows, none where a dimension is absent or unresolved. -/
  ids : PerDimension (Option Int)
  deriving DecidableEq, Repr

/-- What a row of a rollup is about: a bucket, a site and nine reference ids, zero for none. -/
structure RollupKey where
  /-- Start of the bucket. -/
  bucket : Timestamp
  /-- Site of the pages. -/
  site : String
  /-- Reference ids, zero for none. -/
  ids : PerDimension Int
  deriving DecidableEq, Repr

/-- What a row of a rollup measures. -/
structure Measures where
  /-- Pageviews. -/
  count : Int
  /-- Distinct visitors. -/
  visitors : Int
  /-- Pageviews of visitors who had no other on the site in the bucket. -/
  bounces : Int
  deriving DecidableEq, Repr

/-- What the last compaction of a day left behind. -/
structure WatermarkRow where
  /-- When the day was compacted. -/
  compactedAt : Timestamp
  /-- Facts of the day at that time. -/
  factCount : Int
  /-- Daily rows written. -/
  dailyRows : Int
  /-- Hourly rows written. -/
  hourlyRows : Int
  deriving DecidableEq, Repr

/-- A schema version that the store has reached. -/
structure VersionRow where
  /-- The version. -/
  version : Int
  /-- What the step did, if it left its name. -/
  name : Option String
  deriving DecidableEq, Repr

/-! ## Keys -/

/-- The place of a text in the order of texts, with an end that comes before every character. -/
def textRank (s : List Char) : List Int :=
  s.map (fun c => (c.toNat : Int)) ++ [-1]

theorem textRank_append_injective {s t : List Char} {xs ys : List Int}
    (h : textRank s ++ xs = textRank t ++ ys) : s = t ∧ xs = ys := by
  induction s generalizing t with
  | nil =>
    cases t with
    | nil => simpa [textRank] using h
    | cons d t =>
      simp only [textRank, List.map_nil, List.nil_append, List.map_cons, List.cons_append,
        List.cons.injEq] at h
      omega
  | cons c s ih =>
    cases t with
    | nil =>
      simp only [textRank, List.map_nil, List.nil_append, List.map_cons, List.cons_append,
        List.cons.injEq] at h
      omega
    | cons d t =>
      simp only [textRank, List.map_cons, List.cons_append, List.cons.injEq] at h
      have ⟨hst, hxy⟩ := ih (t := t) h.2
      have hcd : c = d := Char.toNat_inj.1 (Int.ofNat.inj h.1)
      exact ⟨by rw [hcd, hst], hxy⟩

instance : Ranked Timestamp where
  rank t := [t.micros]
  rank_injective h := by
    rename_i a b
    cases a; cases b
    simpa using h

instance : Ranked RollupKey where
  rank k := k.bucket.micros :: (textRank k.site.toList ++ k.ids.toList)
  rank_injective h := by
    rename_i a b
    simp only [List.cons.injEq] at h
    have ⟨hs, hi⟩ := textRank_append_injective h.2
    cases a with
    | mk ba sa ia =>
      cases b with
      | mk bb sb ib =>
        have h1 : ba = bb := by
          cases ba; cases bb
          simpa using h.1
        have h2 : sa = sb := String.toList_injective hs
        have h3 : ia = ib := PerDimension.toList_injective hi
        rw [h1, h2, h3]

/-! ## Tables -/

/-- What stands under a table's name. -/
inductive Slot (α : Type) where
  /-- Nothing. -/
  | absent
  /-- A view, which has none of the table's columns. -/
  | view
  /-- The table. -/
  | table (rows : α)

namespace Slot

variable {α : Type}

/-- The rows, or why there are none. -/
def read (name : String) : Slot α → Except StoreFault α
  | absent => .error (.noTable name)
  | view => .error (.notTable name)
  | table rows => .ok rows

/-- Creates the table unless its name is taken. -/
def create (rows : α) : Slot α → Slot α
  | absent => table rows
  | s => s

/-- Whether a table stands here. -/
def isTable : Slot α → Bool
  | table _ => true
  | _ => false

/-- Whether nothing stands here. -/
def isAbsent : Slot α → Bool
  | absent => true
  | _ => false

end Slot

/-- The names of the tables. -/
inductive TableName where
  | dimension (d : Dimension)
  | facts
  | daily
  | hourly
  | watermarks
  | versions
  deriving DecidableEq, Repr

namespace TableName

/-- All tables. -/
def all : List TableName :=
  Dimension.all.map dimension ++ [facts, daily, hourly, watermarks, versions]

/-- The name of a table. -/
def name : TableName → String
  | dimension d => d.table
  | facts => "pageviews"
  | daily => "daily_pageviews"
  | hourly => "hourly_pageviews"
  | watermarks => "compaction_watermarks"
  | versions => "schema_version"

/-- The table of a name. -/
def ofName? (s : String) : Option TableName :=
  all.find? (·.name == s)

end TableName

/-- Rows of one width of bucket. -/
abbrev Rollup := Table RollupKey Measures

/-- A reference row inserted in a transaction that is still open. -/
structure Held where
  /-- The dimension of the row. -/
  dimension : Dimension
  /-- The row, or none if its key was taken when the transaction began. -/
  row : Option DimensionRow
  deriving DecidableEq, Repr

/-- All that outlives a request. -/
structure Store where
  /-- Reference tables. -/
  dimensions : PerDimension (Slot (List DimensionRow))
  /-- How many ids each reference table has handed out, none without the sequence. -/
  dimensionIds : PerDimension (Option Nat)
  /-- Pageviews in the order in which they were written. -/
  facts : Slot (List Fact)
  /-- How many fact ids have been handed out, none without the sequence. -/
  factIds : Option Nat
  /-- Rollup by day. -/
  daily : Slot Rollup
  /-- Rollup by hour. -/
  hourly : Slot Rollup
  /-- Watermarks by the midnight of their day. -/
  watermarks : Slot (Table Timestamp WatermarkRow)
  /-- Schema versions in the order in which they were reached. -/
  versions : Slot (List VersionRow)
  /-- Whether the index of facts by site and time exists. -/
  scanIndex : Bool
  /-- The row of a second connection that has not committed yet. -/
  held : Option Held

namespace Store

/-- A store without a single table. -/
def empty : Store where
  dimensions := .replicate .absent
  dimensionIds := .replicate none
  facts := .absent
  factIds := none
  daily := .absent
  hourly := .absent
  watermarks := .absent
  versions := .absent
  scanIndex := false
  held := none

/-- The rows of a reference table. -/
def dimensionRows (s : Store) (d : Dimension) : Except StoreFault (List DimensionRow) :=
  (s.dimensions.get d).read d.table

/-- All facts. -/
def factRows (s : Store) : Except StoreFault (List Fact) :=
  s.facts.read (TableName.name .facts)

/-- The rollup by day. -/
def dailyRows (s : Store) : Except StoreFault Rollup :=
  s.daily.read (TableName.name .daily)

/-- The rollup by hour. -/
def hourlyRows (s : Store) : Except StoreFault Rollup :=
  s.hourly.read (TableName.name .hourly)

/-- All watermarks. -/
def watermarkRows (s : Store) : Except StoreFault (Table Timestamp WatermarkRow) :=
  s.watermarks.read (TableName.name .watermarks)

/-- All schema versions. -/
def versionRows (s : Store) : Except StoreFault (List VersionRow) :=
  s.versions.read (TableName.name .versions)

/-- Whether a table of this name exists. -/
def hasTable (s : Store) : TableName → Bool
  | .dimension d => (s.dimensions.get d).isTable
  | .facts => s.facts.isTable
  | .daily => s.daily.isTable
  | .hourly => s.hourly.isTable
  | .watermarks => s.watermarks.isTable
  | .versions => s.versions.isTable

/-- Whether the name is free. -/
def isFree (s : Store) : TableName → Bool
  | .dimension d => (s.dimensions.get d).isAbsent
  | .facts => s.facts.isAbsent
  | .daily => s.daily.isAbsent
  | .hourly => s.hourly.isAbsent
  | .watermarks => s.watermarks.isAbsent
  | .versions => s.versions.isAbsent

/-- Puts a view under a free name. -/
def addView (s : Store) (t : TableName) : Except StoreFault Store :=
  if s.isFree t then
    .ok <| match t with
      | .dimension d => { s with dimensions := s.dimensions.set d .view }
      | .facts => { s with facts := .view }
      | .daily => { s with daily := .view }
      | .hourly => { s with hourly := .view }
      | .watermarks => { s with watermarks := .view }
      | .versions => { s with versions := .view }
  else .error (.nameTaken t.name)

/-- Removes a table with its rows and its index; the sequence of its ids stays. -/
def dropTable (s : Store) (t : TableName) : Except StoreFault Store :=
  if s.hasTable t then
    .ok <| match t with
      | .dimension d => { s with dimensions := s.dimensions.set d .absent }
      | .facts => { s with facts := .absent, scanIndex := false }
      | .daily => { s with daily := .absent }
      | .hourly => { s with hourly := .absent }
      | .watermarks => { s with watermarks := .absent }
      | .versions => { s with versions := .absent }
  else .error (.noTable t.name)

/-- Appends a fact with the next id. -/
def appendFact (s : Store) (time : Timestamp) (site : String) (visitor : Nat)
    (ids : PerDimension (Option Int)) : Except StoreFault (Store × Int) := do
  let rows ← s.factRows
  let id := s.factIds.getD 0 + 1
  .ok ({ s with facts := .table (rows ++ [⟨id, time, site, visitor, ids⟩]), factIds := some id },
    id)

/-- Writes a row of the daily rollup whose key is new. -/
def appendDaily (s : Store) (key : RollupKey) (m : Measures) : Except StoreFault Store := do
  let rows ← s.dailyRows
  if (rows.get? key).isSome then .error .duplicateKey
  else .ok { s with daily := .table (rows.put key m) }

end Store

/-- The stored form of an instant, or the store's complaint about its text. -/
def Instant.stored (t : Instant) : Except StoreFault Timestamp :=
  match t.stored? with
  | some time => .ok time
  | none => .error (.notTimestamp t.storedText)

end Footfall
