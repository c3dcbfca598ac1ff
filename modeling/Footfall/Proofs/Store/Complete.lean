import Mathlib
import Footfall.Proofs.Calendar.Bucket
import Footfall.Proofs.Store.Table
import Footfall.Rollup.Pass
import Footfall.Store.Schema

/-!
# Complete stores

A store in which every table stands, such as a freshly migrated one.  On it no
operation complains about a missing table, so each reader is a plain function of
the rows, and whether a day can be compacted depends on the calendar alone.

## Main Definitions

* `Store.migrated` — the store that the migrations make of an empty one
* `Store.factList`, `Store.dailyTable`, `Store.hourlyTable`, `Store.marks`,
  `Store.rowsOf` — the rows of the tables
* `Store.Scannable` — the tables that tell stale days stand
* `Store.Ready` — the tables of a compaction stand
* `Store.Complete` — every table stands
* `Compactable` — when a day can be compacted

## Main Statements

* `Store.compactDay_eq_ok_iff` — when a compaction succeeds, and what it makes of
  the store
* `Store.compactDay_isOk_iff` — on a complete store it succeeds exactly on a
  compactable day
-/

namespace Footfall

/-- The rows of a table, or `default` where none stands. -/
def Slot.rowsOr {α : Type} (default : α) : Slot α → α
  | .table rows => rows
  | _ => default

theorem Slot.read_eq_ok_iff {α : Type} {name : String} {slot : Slot α} {rows : α} :
    slot.read name = .ok rows ↔ slot = .table rows := by
  cases slot <;> simp [read]

/-- A table that can be read stands, with the rows that were read. -/
theorem Slot.eq_table_of_read {α : Type} {name : String} {slot : Slot α} {rows default : α}
    (h : slot.read name = .ok rows) : slot = .table (slot.rowsOr default) := by
  rw [read_eq_ok_iff.mp h, rowsOr]

/-- A table stands with the rows that it has. -/
theorem Slot.eq_table_of_isTable {α : Type} {slot : Slot α} {default : α}
    (h : slot.isTable = true) : slot = .table (slot.rowsOr default) := by
  cases slot with
  | absent => cases h
  | view => cases h
  | table rows => rfl

namespace Store

/-! ## Rows of a store -/

/-- A freshly migrated store. -/
def migrated : Store :=
  Store.empty.migrate.1

/-- The facts in the order in which they came. -/
def factList (s : Store) : List Fact :=
  s.facts.rowsOr []

/-- The rollup by day. -/
def dailyTable (s : Store) : Rollup :=
  s.daily.rowsOr .empty

/-- The rollup by hour. -/
def hourlyTable (s : Store) : Rollup :=
  s.hourly.rowsOr .empty

/-- The watermarks by the midnight of their day. -/
def marks (s : Store) : Table Timestamp WatermarkRow :=
  s.watermarks.rowsOr .empty

/-- The rows of a reference table. -/
def rowsOf (s : Store) (d : Dimension) : List DimensionRow :=
  (s.dimensions.get d).rowsOr []

/-- The tables from which the stale days are told stand. -/
structure Scannable (s : Store) : Prop where
  /-- The table of facts stands. -/
  facts : s.facts = .table s.factList
  /-- The table of watermarks stands. -/
  watermarks : s.watermarks = .table s.marks

/-- The tables that a compaction reads and writes stand. -/
structure Ready (s : Store) : Prop extends Scannable s where
  /-- The rollup by day stands. -/
  daily : s.daily = .table s.dailyTable
  /-- The rollup by hour stands. -/
  hourly : s.hourly = .table s.hourlyTable

/-- Every table stands. -/
structure Complete (s : Store) : Prop where
  /-- The reference tables stand. -/
  dimensions : ∀ d, s.dimensions.get d = .table (s.rowsOf d)
  /-- The table of facts stands. -/
  facts : s.facts = .table s.factList
  /-- The rollup by day stands. -/
  daily : s.daily = .table s.dailyTable
  /-- The rollup by hour stands. -/
  hourly : s.hourly = .table s.hourlyTable
  /-- The table of watermarks stands. -/
  watermarks : s.watermarks = .table s.marks

theorem complete_migrated : migrated.Complete where
  dimensions d := by cases d <;> rfl
  facts := rfl
  daily := rfl
  hourly := rfl
  watermarks := rfl

@[simp] theorem factList_migrated : migrated.factList = [] := rfl

@[simp] theorem dailyTable_migrated : migrated.dailyTable = .empty := rfl

@[simp] theorem hourlyTable_migrated : migrated.hourlyTable = .empty := rfl

@[simp] theorem marks_migrated : migrated.marks = .empty := rfl

@[simp] theorem rowsOf_migrated (d : Dimension) : migrated.rowsOf d = [] := by
  cases d <;> rfl

section Reading

variable {s : Store}

theorem Complete.ready (c : s.Complete) : s.Ready where
  facts := c.facts
  watermarks := c.watermarks
  daily := c.daily
  hourly := c.hourly

theorem Complete.scannable (c : s.Complete) : s.Scannable :=
  c.ready.toScannable

theorem Scannable.factRows (c : s.Scannable) : s.factRows = .ok s.factList := by
  rw [Store.factRows, c.facts, Slot.read]

theorem Scannable.watermarkRows (c : s.Scannable) : s.watermarkRows = .ok s.marks := by
  rw [Store.watermarkRows, c.watermarks, Slot.read]

theorem Ready.dailyRows (c : s.Ready) : s.dailyRows = .ok s.dailyTable := by
  rw [Store.dailyRows, c.daily, Slot.read]

theorem Ready.hourlyRows (c : s.Ready) : s.hourlyRows = .ok s.hourlyTable := by
  rw [Store.hourlyRows, c.hourly, Slot.read]

theorem Complete.factRows (c : s.Complete) : s.factRows = .ok s.factList :=
  c.scannable.factRows

theorem Complete.dailyRows (c : s.Complete) : s.dailyRows = .ok s.dailyTable :=
  c.ready.dailyRows

theorem Complete.dimensionRows (c : s.Complete) (d : Dimension) :
    s.dimensionRows d = .ok (s.rowsOf d) := by
  rw [Store.dimensionRows, c.dimensions, Slot.read]

end Reading

/-! ## Compaction -/

/-- The facts of a day. -/
def factsOn (s : Store) (d : Day) : List Fact :=
  s.factList.filter fun f => f.time.OnDay d

theorem mem_factsOn {s : Store} {d : Day} {f : Fact} :
    f ∈ s.factsOn d ↔ f ∈ s.factList ∧ f.time.OnDay d := by
  rw [factsOn, List.mem_filter, decide_eq_true_eq]

/-- The rows of the daily rollup that belong to a day. -/
def dailyOn (s : Store) (d : Day) : List (RollupKey × Measures) :=
  s.dailyTable.rows.filter fun r => r.1.bucket.OnDay d

/-- The rows of the hourly rollup whose hour lies on a day. -/
def hourlyOn (s : Store) (d : Day) : List (RollupKey × Measures) :=
  s.hourlyTable.rows.filter fun r => r.1.bucket.OnDay d

/-- The rows of the daily rollup for a site at the midnight of a day. -/
def siteRowsAt (s : Store) (site : String) (d : Day) : List (RollupKey × Measures) :=
  s.dailyTable.rows.filter fun r => r.1.site == site && r.1.bucket == .midnight d

end Store

/-- A day can be compacted once it is over, if the store can keep its two
midnights and the time of the compaction. -/
def Compactable (d : Day) (now : Instant) : Prop :=
  d < now.day ∧ (∃ next, d.next? = some next ∧ next.Storable) ∧ now.Storable

instance (d : Day) (now : Instant) : Decidable (Compactable d now) :=
  decidable_of_iff (d < now.day ∧ d.next?.any (fun next => decide next.Storable) ∧
    now.Storable) (by simp [Compactable, Option.any_eq_true])

theorem Compactable.storable {d : Day} {now : Instant} (h : Compactable d now) :
    d.Storable := by
  obtain ⟨-, ⟨next, hnext, storable⟩, -⟩ := h
  refine storable.of_le ?_
  rw [Day.le_iff, Day.number_of_next? hnext]
  omega

namespace Store

variable {s : Store} {d : Day} {now : Instant}

/-- What a compaction reports. -/
def report (s : Store) (d : Day) : Report :=
  ⟨d, (s.factsOn d).length, (Rollup.aggregate .day (s.factsOn d)).length,
    (Rollup.aggregate .hour (s.factsOn d)).length⟩

/-- The store after a compaction. -/
def compacted (s : Store) (d : Day) (now : Instant) : Store :=
  { s with
    daily := .table (s.dailyTable.putAll (Rollup.aggregate .day (s.factsOn d)))
    hourly := .table (s.hourlyTable.putAll (Rollup.aggregate .hour (s.factsOn d)))
    watermarks := .table (s.marks.put (.midnight d)
      ⟨now.toTimestamp, (s.report d).factCount, (s.report d).dailyRows,
        (s.report d).hourlyRows⟩) }

/-- The facts of a span between two midnights are those of the days between. -/
theorem factsBetween_next (facts : s.facts = .table s.factList) {next : Day}
    (h : d.next? = some next) :
    s.factsBetween (.midnight d) (.midnight next) = .ok (s.factsOn d) := by
  rw [factsBetween, factRows, facts, Slot.read]
  refine congrArg Except.ok (List.filter_congr fun f _ => ?_)
  rw [Bool.eq_iff_iff, Timestamp.fromUpTo_midnight_iff h, decide_eq_true_eq]

theorem writeDay_eq (c : s.Ready) {next : Day} (h : d.next? = some next)
    (storable : next.Storable) (nowStorable : now.Storable) :
    s.writeDay d (.midnight d) (.midnight next) now =
      .ok (s.compacted d now, s.report d) := by
  have hd : d.Storable := by
    refine storable.of_le ?_
    rw [Day.le_iff, Day.number_of_next? h]
    omega
  unfold writeDay
  rw [Instant.stored_midnight hd, Instant.stored_midnight storable,
    Instant.stored_of_storable nowStorable, c.dailyRows, c.hourlyRows, c.watermarkRows]
  simp only [ok_bind, factsBetween_next c.facts h]
  rfl

/-- What is written needs its tables, and times that the store can keep. -/
theorem ready_of_writeDay {start stop : Instant} {written : Store × Report}
    (h : s.writeDay d start stop now = .ok written) :
    s.Ready ∧ stop.Storable ∧ now.Storable := by
  simp only [writeDay, factsBetween, bind_eq_ok_iff] at h
  obtain ⟨first, -, last, hlast, facts, ⟨rows, hrows, -⟩, daily, hdaily, hourly, hhourly, marks,
    hmarks, clock, hclock, -⟩ := h
  exact ⟨⟨⟨Slot.eq_table_of_read hrows, Slot.eq_table_of_read hmarks⟩,
    Slot.eq_table_of_read hdaily, Slot.eq_table_of_read hhourly⟩,
    (Instant.stored_eq_ok_iff.mp hlast).1, (Instant.stored_eq_ok_iff.mp hclock).1⟩

/-- A day that is not over is refused. -/
theorem compactDay_of_le (h : now.day ≤ d) :
    s.compactDay d now = .error (.invalidInput (.unfinishedDay d now.day)) := by
  rw [compactDay, if_pos h]

/-- A day that is over has a day after it, and is written or given up. -/
theorem compactDay_of_lt (h : d < now.day) : ∃ next, d.next? = some next ∧
    s.compactDay d now =
      (s.writeDay d (.midnight d) (.midnight next) now).mapError (.compaction d) := by
  have hfirst := d.first_le
  have hlast := now.day.le_last
  rw [Day.lt_iff] at h
  have hnext : d.next? = some ⟨d.number + 1, by omega, by omega⟩ :=
    Day.ofNumber?_eq_some_iff.mpr rfl
  refine ⟨_, hnext, ?_⟩
  rw [compactDay, if_neg (by rw [Day.le_iff]; omega), hnext]

/-- **When a compaction succeeds, and what it makes of the store.** -/
theorem compactDay_eq_ok_iff {s' : Store} {r : Report} :
    s.compactDay d now = .ok (s', r) ↔
      s.Ready ∧ Compactable d now ∧ s' = s.compacted d now ∧ r = s.report d := by
  constructor
  · intro h
    have hlt : d < now.day := by
      by_contra hle
      rw [compactDay_of_le (Day.not_lt.mp hle)] at h
      cases h
    obtain ⟨next, hnext, hday⟩ := compactDay_of_lt (s := s) hlt
    rw [hday, mapError_eq_ok_iff] at h
    obtain ⟨ready, hstop, hnow⟩ := ready_of_writeDay h
    have hstorable := Instant.storable_midnight_iff.mp hstop
    rw [writeDay_eq ready hnext hstorable hnow] at h
    cases h
    exact ⟨ready, ⟨hlt, ⟨next, hnext, hstorable⟩, hnow⟩, rfl, rfl⟩
  · rintro ⟨ready, ⟨hlt, ⟨next, hnext, hstorable⟩, hnow⟩, rfl, rfl⟩
    obtain ⟨next', hnext', hday⟩ := compactDay_of_lt (s := s) hlt
    obtain rfl : next = next' := Option.some.inj (hnext.symm.trans hnext')
    rw [hday, writeDay_eq ready hnext hstorable hnow]
    rfl

/-- What a compaction makes of a complete store. -/
theorem compactDay_of_compactable (c : s.Complete) (h : Compactable d now) :
    s.compactDay d now = .ok (s.compacted d now, s.report d) :=
  compactDay_eq_ok_iff.mpr ⟨c.ready, h, rfl, rfl⟩

theorem compactDay_of_not_compactable (h : ¬ Compactable d now) :
    ∃ e, s.compactDay d now = .error e := by
  cases hday : s.compactDay d now with
  | error e => exact ⟨e, rfl⟩
  | ok result => exact absurd (compactDay_eq_ok_iff.mp hday).2.1 h

/-- **On a complete store, whether a compaction succeeds is a matter of the
calendar.** -/
theorem compactDay_isOk_iff (c : s.Complete) :
    (∃ r, s.compactDay d now = .ok r) ↔ Compactable d now := by
  constructor
  · rintro ⟨r, hr⟩
    exact (compactDay_eq_ok_iff.mp hr).2.1
  · intro h
    exact ⟨_, compactDay_of_compactable c h⟩

theorem complete_compacted (c : s.Complete) (d : Day) (now : Instant) :
    (s.compacted d now).Complete where
  dimensions := c.dimensions
  facts := c.facts
  daily := rfl
  hourly := rfl
  watermarks := rfl

@[simp] theorem factList_compacted : (s.compacted d now).factList = s.factList := rfl

@[simp] theorem dailyTable_compacted : (s.compacted d now).dailyTable =
    s.dailyTable.putAll (Rollup.aggregate .day (s.factsOn d)) := rfl

@[simp] theorem hourlyTable_compacted : (s.compacted d now).hourlyTable =
    s.hourlyTable.putAll (Rollup.aggregate .hour (s.factsOn d)) := rfl

@[simp] theorem marks_compacted : (s.compacted d now).marks =
    s.marks.put (.midnight d) ⟨now.toTimestamp, (s.report d).factCount,
      (s.report d).dailyRows, (s.report d).hourlyRows⟩ := rfl

/-- The day has a watermark of its report. -/
theorem mark_compacted_self : (s.compacted d now).marks.get? (.midnight d) =
    some ⟨now.toTimestamp, (s.report d).factCount, (s.report d).dailyRows,
      (s.report d).hourlyRows⟩ := by
  rw [marks_compacted, Table.get?_put_self]

/-- Other days keep theirs. -/
theorem mark_compacted_of_ne {e : Day} (h : e ≠ d) :
    (s.compacted d now).marks.get? (.midnight e) = s.marks.get? (.midnight e) := by
  rw [marks_compacted,
    Table.get?_put_of_ne _ _ fun heq => h (Timestamp.midnight_injective heq).symm]

end Store

end Footfall
