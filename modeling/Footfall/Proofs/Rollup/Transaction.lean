import Mathlib
import Footfall.Proofs.Rollup.Counts

/-!
# A compaction is one transaction

A compaction is four statements: it counts the facts of the day, writes the rows
of its day, writes the rows of its hours and leaves a watermark.  Each of them may
fail after the ones before it have written.  They work on a copy of the store,
which takes the place of the store if all four succeed and is dropped otherwise.
So a compaction is all or nothing, and what it writes lies within its day.

## Main Definitions

* `Statement` — reads and writes a working copy, or fails
* `Statement.outcome` — what is there to commit after a statement
* `Statement.compaction` — the four statements
* `Store.transact` — commits the working copy, or rolls it back
* `Store.compactInTransaction` — what becomes of the store in a compaction
* `Store.ConfinedTo` — stores that differ in the rollups of one day only
* `Store.SameFrom` — stores that do not differ from some moment on

## Main Statements

* `Statement.outcome_compaction` — the statements write the day
* `Store.compactInTransaction_eq` — the transaction answers what `Store.compactDay`
  answers, and keeps the store if that is an error
* `Store.confinedTo_compacted` — counting a day reaches no bucket of another day
* `Store.compaction_atomic_and_confined` — a compaction is all or nothing, and
  confined to its day
-/

namespace Footfall

/-! ## Statements -/

/-- A statement of a transaction.  It reads and writes the working copy.  One that
fails leaves in the copy what the statements before it wrote. -/
abbrev Statement (α : Type) := ExceptT StoreFault (StateM Store) α

/-- The facts between two instants, as a statement asks for them. -/
def Store.factsOfSpan (s : Store) (start stop : Instant) : Except StoreFault (List Fact) := do
  let first ← start.stored
  let last ← stop.stored
  s.factsBetween first last

/-- The store with another rollup by day. -/
def Store.putDaily (s : Store) (t : Rollup) : Store :=
  { s with daily := .table t }

/-- The store with another rollup by hour. -/
def Store.putHourly (s : Store) (t : Rollup) : Store :=
  { s with hourly := .table t }

/-- The store with other watermarks. -/
def Store.putMarks (s : Store) (t : Table Timestamp WatermarkRow) : Store :=
  { s with watermarks := .table t }

namespace Statement

variable {α β : Type}

/-- Reads something from the working copy. -/
def read (f : Store → Except StoreFault α) : Statement α :=
  ExceptT.mk fun s => (f s, s)

/-- Writes to the working copy. -/
def write (f : Store → Store) : Statement Unit :=
  modify f

/-- What a statement answers, and what it makes of the working copy. -/
def exec (m : Statement α) (s : Store) : Except StoreFault α × Store :=
  m.run.run s

/-- What is there to commit after a statement: the working copy and the answer, or
nothing. -/
def outcome (m : Statement α) (s : Store) : Except StoreFault (Store × α) :=
  match m.exec s with
  | (.ok a, copy) => .ok (copy, a)
  | (.error e, _) => .error e

/-- Counts the facts between two instants. -/
def countFacts (start stop : Instant) : Statement ℕ := do
  let facts ← read (·.factsOfSpan start stop)
  return facts.length

/-- Writes the rows of the facts between two instants over those of a rollup, and
counts the rows written. -/
def upsert (g : Granularity) (rollup : Store → Except StoreFault Rollup)
    (put : Store → Rollup → Store) (start stop : Instant) : Statement ℕ := do
  let facts ← read (·.factsOfSpan start stop)
  let table ← read rollup
  let rows := Rollup.aggregate g facts
  write (put · (table.putAll rows))
  return rows.length

/-- Writes the watermark of the day that starts at `start`. -/
def recordWatermark (start now : Instant) (report : Report) : Statement Unit := do
  let first ← read fun _ => start.stored
  let marks ← read (·.watermarkRows)
  let clock ← read fun _ => now.stored
  write (·.putMarks
    (marks.put first ⟨clock, report.factCount, report.dailyRows, report.hourlyRows⟩))

/-- **The statements of a compaction**, in their order. -/
def compaction (d : Day) (start stop now : Instant) : Statement Report := do
  let factCount ← countFacts start stop
  let dailyRows ← upsert .day Store.dailyRows Store.putDaily start stop
  let hourlyRows ← upsert .hour Store.hourlyRows Store.putHourly start stop
  let report : Report := ⟨d, factCount, dailyRows, hourlyRows⟩
  recordWatermark start now report
  return report

/-! ### One after another -/

variable {s : Store} {m : Statement α} {f : α → Statement β}

/-- A statement runs on what the one before it left, unless that one failed. -/
theorem outcome_bind :
    (m >>= f).outcome s = m.outcome s >>= fun r => (f r.2).outcome r.1 := by
  have hexec : (m >>= f).exec s = (ExceptT.bindCont f (m.exec s).1).run (m.exec s).2 := rfl
  unfold outcome
  rw [hexec]
  cases m.exec s with
  | mk answer copy =>
      cases answer with
      | ok a => rfl
      | error e => rfl

@[simp] theorem outcome_pure (a : α) : (pure a : Statement α).outcome s = .ok (s, a) := rfl

@[simp] theorem outcome_write (g : Store → Store) : (write g).outcome s = .ok (g s, ()) := rfl

@[simp] theorem outcome_read (g : Store → Except StoreFault α) :
    (read g).outcome s = g s >>= fun a => .ok (s, a) := by
  have hexec : (read g).exec s = (g s, s) := rfl
  unfold outcome
  rw [hexec]
  cases g s with
  | ok a => rfl
  | error e => rfl

/-! ### The statements of a compaction -/

variable {g : Granularity} {d : Day} {start stop now : Instant}

theorem outcome_countFacts : (countFacts start stop).outcome s =
    s.factsOfSpan start stop >>= fun facts => .ok (s, facts.length) := by
  simp only [countFacts, outcome_bind, outcome_read, bind_assoc, ok_bind, outcome_pure]

theorem outcome_upsert {rollup : Store → Except StoreFault Rollup}
    {put : Store → Rollup → Store} : (upsert g rollup put start stop).outcome s = (do
      let facts ← s.factsOfSpan start stop
      let table ← rollup s
      let rows := Rollup.aggregate g facts
      .ok (put s (table.putAll rows), rows.length)) := by
  simp only [upsert, outcome_bind, outcome_read, outcome_write, bind_assoc, ok_bind,
    outcome_pure]

theorem outcome_recordWatermark {r : Report} : (recordWatermark start now r).outcome s = (do
    let first ← start.stored
    let marks ← s.watermarkRows
    let clock ← now.stored
    .ok (s.putMarks (marks.put first ⟨clock, r.factCount, r.dailyRows, r.hourlyRows⟩), ())) := by
  simp only [recordWatermark, outcome_bind, outcome_read, outcome_write, bind_assoc, ok_bind]

/-- **The statements write the day**, or one of them fails. -/
theorem outcome_compaction :
    (compaction d start stop now).outcome s = s.writeDay d start stop now := by
  -- the writes of one statement do not show in what the next ones read
  have hdaily : ∀ t, (s.putDaily t).factsOfSpan start stop = s.factsOfSpan start stop :=
    fun _ => rfl
  have hhourly : ∀ t, (s.putDaily t).hourlyRows = s.hourlyRows := fun _ => rfl
  have hmarks : ∀ t u, ((s.putDaily t).putHourly u).watermarkRows = s.watermarkRows :=
    fun _ _ => rfl
  simp only [compaction, outcome_bind, outcome_countFacts, outcome_upsert,
    outcome_recordWatermark, bind_assoc, ok_bind, outcome_pure, hdaily, hhourly, hmarks]
  unfold Store.writeDay Store.factsOfSpan
  cases start.stored with
  | error e => rfl
  | ok first =>
      cases stop.stored with
      | error e => rfl
      | ok last =>
          cases hfacts : s.factsBetween first last with
          | error e => simp only [ok_bind, hfacts, error_bind]
          | ok facts =>
              simp only [ok_bind, hfacts, Store.putDaily, Store.putHourly, Store.putMarks]

end Statement

/-! ## Transactions -/

namespace Store

open Statement

/-- **Runs statements on a copy of the store.**  If none of them fails, the copy is
committed; otherwise it is rolled back. -/
def transact {α : Type} (s : Store) (m : Statement α) : Store × Except StoreFault α :=
  match m.outcome s with
  | .ok (copy, a) => (copy, .ok a)
  | .error e => (s, .error e)

/-- What becomes of the store in a compaction, and what is answered. -/
def compactInTransaction (s : Store) (d : Day) (now : Instant) :
    Store × Except StatsError Report :=
  if now.day ≤ d then (s, .error (.invalidInput (.unfinishedDay d now.day)))
  else
    match d.next? with
    | none => (s, .error (.invalidInput (.noFollowingDay d)))
    | some next =>
      let (s', answer) := s.transact (compaction d (.midnight d) (.midnight next) now)
      (s', answer.mapError (.compaction d))

variable {s s' : Store} {d : Day} {now : Instant} {r : Report} {e : StatsError}

/-- **What is committed is what the compaction wrote**, and nothing if it failed. -/
theorem compactInTransaction_eq : s.compactInTransaction d now =
    match s.compactDay d now with
    | .ok (s', r) => (s', .ok r)
    | .error e => (s, .error e) := by
  by_cases hle : now.day ≤ d
  · rw [compactInTransaction, if_pos hle, compactDay_of_le hle]
  · obtain ⟨next, hnext, hday⟩ := compactDay_of_lt (s := s) (Day.not_le.mp hle)
    rw [compactInTransaction, if_neg hle, hnext, hday]
    simp only [transact, outcome_compaction]
    cases s.writeDay d (.midnight d) (.midnight next) now with
    | ok written => rfl
    | error fault => rfl

theorem compactInTransaction_of_ok (h : s.compactDay d now = .ok (s', r)) :
    s.compactInTransaction d now = (s', .ok r) := by
  rw [compactInTransaction_eq, h]

theorem compactInTransaction_of_error (h : s.compactDay d now = .error e) :
    s.compactInTransaction d now = (s, .error e) := by
  rw [compactInTransaction_eq, h]

/-- A day that is over is given up for a fault of the store. -/
theorem exists_cause_of_lt (hlt : d < now.day) (h : s.compactDay d now = .error e) :
    ∃ cause, e = .compaction d cause := by
  obtain ⟨next, -, hday⟩ := compactDay_of_lt (s := s) hlt
  rw [hday] at h
  cases hwrite : s.writeDay d (.midnight d) (.midnight next) now with
  | ok written =>
      rw [hwrite] at h
      cases h
  | error cause =>
      rw [hwrite] at h
      cases h
      exact ⟨cause, rfl⟩

/-- **Exactly the days that are not over are refused.** -/
theorem compactDay_invalidInput_iff :
    (∃ fault, s.compactDay d now = .error (.invalidInput fault)) ↔ now.day ≤ d := by
  constructor
  · rintro ⟨fault, h⟩
    by_contra hlt
    obtain ⟨cause, hcause⟩ := exists_cause_of_lt (Day.not_le.mp hlt) h
    cases hcause
  · intro hle
    exact ⟨_, compactDay_of_le hle⟩

/-! ## The reach of a compaction -/

/-- **Two stores differ in the rollups and the watermark of one day only.** -/
structure ConfinedTo (d : Day) (s s' : Store) : Prop where
  /-- The tables of a compaction stand in the one. -/
  before : s.Ready
  /-- And in the other. -/
  after : s'.Ready
  /-- The reference tables are the same. -/
  dimensions : s'.dimensions = s.dimensions
  /-- And so are their sequences. -/
  dimensionIds : s'.dimensionIds = s.dimensionIds
  /-- The facts are the same. -/
  facts : s'.facts = s.facts
  /-- And so is their sequence. -/
  factIds : s'.factIds = s.factIds
  /-- The schema versions are the same. -/
  versions : s'.versions = s.versions
  /-- So is the index of facts. -/
  scanIndex : s'.scanIndex = s.scanIndex
  /-- And the row of a second connection. -/
  held : s'.held = s.held
  /-- Daily rows may differ at the midnight of the day. -/
  daily : Table.SameExcept (fun k => k.bucket = .midnight d) s.dailyTable s'.dailyTable
  /-- Hourly rows may differ in the hours of the day. -/
  hourly : Table.SameExcept (fun k => k.bucket.OnDay d) s.hourlyTable s'.hourlyTable
  /-- The watermark of the day may differ. -/
  marks : Table.SameExcept (fun start => start = .midnight d) s.marks s'.marks

/-- Counting the facts of a day reaches no bucket of another day. -/
theorem confinedTo_compacted (ready : s.Ready) (d : Day) (now : Instant) :
    s.ConfinedTo d (s.compacted d now) where
  before := ready
  after := ready_compacted ready d now
  dimensions := rfl
  dimensionIds := rfl
  facts := rfl
  factIds := rfl
  versions := rfl
  scanIndex := rfl
  held := rfl
  daily := by
    intro k hk
    refine (Rollup.recounted_putAll s.dailyTable).kept k fun f hf hcounts => hk ?_
    change k.bucket = .midnight d
    rw [← hcounts.1, Timestamp.truncate_day_eq_midnight_iff]
    exact (mem_factsOn.mp hf).2
  hourly := by
    intro k hk
    refine (Rollup.recounted_putAll s.hourlyTable).kept k fun f hf hcounts => hk ?_
    change k.bucket.OnDay d
    rw [← hcounts.1, Timestamp.OnDay, Timestamp.dayNumber_truncate_hour]
    exact (mem_factsOn.mp hf).2
  marks := by
    intro start hstart
    exact Table.get?_put_of_ne _ _ (Ne.symm hstart)

/-- No row of a rollup differs in two stores from some moment on, and no watermark. -/
structure SameFrom (start : Timestamp) (s s' : Store) : Prop where
  /-- Rows by day may differ before. -/
  daily : Table.SameExcept (fun k => k.bucket < start) s.dailyTable s'.dailyTable
  /-- Rows by hour may differ before. -/
  hourly : Table.SameExcept (fun k => k.bucket < start) s.hourlyTable s'.hourlyTable
  /-- Watermarks may differ before. -/
  marks : Table.SameExcept (fun midnight => midnight < start) s.marks s'.marks

/-- What is confined to a day does not reach the days after it. -/
theorem ConfinedTo.sameFrom (h : s.ConfinedTo d s') {today : Day} (hlt : d < today) :
    s.SameFrom (.midnight today) s' where
  daily := h.daily.mono fun k hk => by
    rw [hk]
    exact (Timestamp.onDay_midnight d).lt_midnight hlt
  hourly := h.hourly.mono fun k hk => hk.lt_midnight hlt
  marks := h.marks.mono fun start hstart => by
    rw [hstart]
    exact (Timestamp.onDay_midnight d).lt_midnight hlt

/-- **A compaction is all or nothing, and confined to its day.**  One that fails
leaves the store as it was.  A day that is not over is refused whatever the store
is. -/
theorem compaction_atomic_and_confined (s : Store) (d : Day) (now : Instant) :
    (∀ e, s.compactDay d now = .error e → s.compactInTransaction d now = (s, .error e)) ∧
      (∀ s' r, s.compactDay d now = .ok (s', r) →
        s.compactInTransaction d now = (s', .ok r) ∧
          s.ConfinedTo d s' ∧ s.SameFrom (.midnight now.day) s') ∧
      ((∃ fault, s.compactDay d now = .error (.invalidInput fault)) ↔ now.day ≤ d) ∧
      (now.day ≤ d → ∀ other : Store, other.compactDay d now = s.compactDay d now) := by
  refine ⟨fun e h => compactInTransaction_of_error h, fun s' r h => ?_,
    compactDay_invalidInput_iff, fun hle other => ?_⟩
  · obtain ⟨ready, ⟨hlt, -⟩, rfl, -⟩ := compactDay_eq_ok_iff.mp h
    have confined := confinedTo_compacted ready d now
    exact ⟨compactInTransaction_of_ok h, confined, confined.sameFrom hlt⟩
  · rw [compactDay_of_le hle, compactDay_of_le hle]

/-- The store of two visitors, which lost the rollup by hour. -/
def withoutHourly : Store :=
  { twoVisitors with hourly := .absent }

/-- The rows of the day are written when those of its hours fail, and are given up
with them.  Nothing is given up where the rollup by hour stands. -/
theorem rolledBack_withoutHourly :
    (∃ copy, (Statement.compaction (sampleDay 0) (.midnight (sampleDay 0))
        (.midnight (sampleDay 1)) (.midnight (sampleDay 3))).exec withoutHourly =
          (.error (.noTable "hourly_pageviews"), copy) ∧
        copy.dailyTable.get? sampleKeyOfHome = some ⟨2, 2, 1⟩) ∧
      withoutHourly.compactInTransaction (sampleDay 0) (.midnight (sampleDay 3)) =
        (withoutHourly, .error (.compaction (sampleDay 0) (.noTable "hourly_pageviews"))) ∧
      ∃ s', twoVisitors.compactInTransaction (sampleDay 0) (.midnight (sampleDay 3)) =
          (s', .ok ⟨sampleDay 0, 3, 2, 3⟩) ∧
        twoVisitors.ConfinedTo (sampleDay 0) s' := by
  obtain ⟨hcommit, confined, -⟩ :=
    (compaction_atomic_and_confined twoVisitors _ _).2.1 _ _ compactDay_twoVisitors
  exact ⟨⟨_, rfl, by decide⟩, (compaction_atomic_and_confined _ _ _).1 _ rfl, _, hcommit, confined⟩

end Store

end Footfall
