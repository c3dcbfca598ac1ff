import Mathlib
import Footfall.Proofs.Rollup.Transaction

/-!
# Migrations converge

The migrations may meet any store: tables may be missing, views may stand under
their names, and the recorded versions may be those of another build.  A step is
several statements, any of which may fail, and the row that records it is one of
them.  They run in a transaction.  So the migrations leave a store that some of
the missing steps have reached whole, and if they succeed it is all of them.

## Main Definitions

* `Script` — a step as the statements that the store runs
* `Store.migrateInTransactions` — the migrations, statement by statement
* `Store.Applied` — steps took effect one after another, each with its row
* `Store.Extends` — what stood stays, and new tables are empty
* `Store.HasReached` — what a step is for
* `Store.missing` — the steps that a store of some version is missing
* `Store.MigratedBy` — some steps, and nothing else, were applied to a store

## Main Statements

* `Store.migrateInTransactions_eq` — the transactions make of a store what
  `Store.migrate` makes of it
* `Store.exists_applied_applySteps` — a run of any steps applies those before the
  first that fails
* `Store.Applied.migratedBy` — steps that took effect in order are all that was done
* `Store.exists_migrate_eq_ok_iff` — when the migrations succeed
* `Store.migrations_converge_and_never_half_apply` — they reach the latest version,
  or they stop between two steps
-/

namespace Footfall

/-! ## Steps as statements -/

namespace Store

/-- Creates the sequence of a reference table unless it exists. -/
def createReferenceIds (s : Store) (d : Dimension) : Store :=
  { s with dimensionIds := s.dimensionIds.set d (some ((s.dimensionIds.get d).getD 0)) }

/-- Creates a reference table unless its name is taken. -/
def createReference (s : Store) (d : Dimension) : Store :=
  { s with dimensions := s.dimensions.set d ((s.dimensions.get d).create []) }

/-- The writes of the first step, one for each of its statements. -/
def schemaWrites : List (Store → Store) :=
  Dimension.all.flatMap (fun d => [(·.createReferenceIds d), (·.createReference d)]) ++ [
    fun s => { s with factIds := some (s.factIds.getD 0) },
    fun s => { s with facts := s.facts.create [] },
    fun s => { s with daily := s.daily.create .empty },
    fun s => { s with hourly := s.hourly.create .empty },
    fun s => { s with watermarks := s.watermarks.create .empty }]

/-- The writes of the first step come to every table whose name is free. -/
theorem foldl_schemaWrites (s : Store) :
    schemaWrites.foldl (fun s write => write s) s = s.initSchema := rfl

end Store

namespace Statement

/-- A statement that takes effect whole or fails. -/
def attempt (f : Store → Except StoreFault Store) : Statement Unit := do
  let s ← read f
  write fun _ => s

/-- Statements one after another, up to the first that fails. -/
def inOrder : List (Statement Unit) → Statement Unit
  | [] => pure ()
  | m :: ms => do
      m
      inOrder ms

variable {s : Store}

@[simp] theorem outcome_attempt (f : Store → Except StoreFault Store) :
    (attempt f).outcome s = f s >>= fun s' => .ok (s', ()) := by
  simp only [attempt, outcome_bind, outcome_read, outcome_write, bind_assoc, ok_bind]

theorem outcome_inOrder_writes (writes : List (Store → Store)) :
    (inOrder (writes.map write)).outcome s =
      .ok (writes.foldl (fun s write => write s) s, ()) := by
  induction writes generalizing s with
  | nil => rfl
  | cons w writes ih =>
      simp only [List.map_cons, inOrder, outcome_bind, outcome_write, ok_bind, ih,
        List.foldl_cons]

end Statement

/-- A step as the statements that the store runs for it. -/
structure Script where
  /-- The version that the step reaches. -/
  version : ℕ
  /-- What the step does. -/
  name : String
  /-- Its statements in order. -/
  statements : List (Statement Unit)

namespace Script

/-- What becomes of a store by the statements of a step. -/
def toMigration (m : Script) : Migration where
  version := m.version
  name := m.name
  apply s := (Statement.inOrder m.statements).outcome s >>= fun r => .ok r.1

/-- The statements of a step, and the one that records it. -/
def body (m : Script) : Statement Unit := do
  Statement.inOrder m.statements
  Statement.attempt (·.addVersion m.version (some m.name))

/-- **The statements of all steps.** -/
def all : List Script := [
  ⟨1, "dimensions, facts, rollups and watermarks", Store.schemaWrites.map Statement.write⟩,
  ⟨2, "fact scan index on (site_id, ts)", [Statement.attempt Store.addScanIndex]⟩]

/-- The statements of the steps do what the steps do. -/
theorem map_toMigration_all : all.map toMigration = migrations := by
  have hschema : (fun s => (Statement.inOrder (Store.schemaWrites.map Statement.write)).outcome s
      >>= fun r => .ok r.1) = fun s : Store => .ok s.initSchema := by
    funext s
    rw [Statement.outcome_inOrder_writes, ok_bind, Store.foldl_schemaWrites]
  have hindex : (fun s => (Statement.inOrder [Statement.attempt Store.addScanIndex]).outcome s
      >>= fun r => .ok r.1) = Store.addScanIndex := by
    funext s
    simp only [Statement.inOrder, Statement.outcome_bind, Statement.outcome_attempt,
      Statement.outcome_pure, bind_assoc, ok_bind]
    cases s.addScanIndex with
    | ok s' => rfl
    | error e => rfl
  simp only [all, migrations, List.map_cons, List.map_nil, toMigration, hschema, hindex]

/-- What the statements of a step leave to commit. -/
theorem outcome_body (m : Script) (s : Store) :
    m.body.outcome s = s.applyStep m.toMigration >>= fun s' => .ok (s', ()) := by
  simp only [body, Store.applyStep, toMigration, Statement.outcome_bind,
    Statement.outcome_attempt, bind_assoc, ok_bind]

end Script

namespace Store

/-- Runs steps, each in a transaction of its own, until one is rolled back. -/
def runScripts (s : Store) : List Script → Store × Except StoreFault Unit
  | [] => (s, .ok ())
  | m :: rest =>
    match s.transact m.body with
    | (s', .ok _) => s'.runScripts rest
    | (s', .error e) => (s', .error e)

/-- The migrations, statement by statement. -/
def migrateInTransactions (s : Store) : Store × Except StoreFault Unit :=
  let s := s.createVersions
  match s.version with
  | .error e => (s, .error e)
  | .ok recorded =>
    if latestVersion < recorded then (s, .ok ())
    else s.runScripts (Script.all.filter (recorded < ·.version))

/-- **A step that is rolled back leaves nothing**, wherever it failed. -/
theorem runScripts_eq (s : Store) (ms : List Script) :
    s.runScripts ms = s.applySteps (ms.map Script.toMigration) := by
  induction ms generalizing s with
  | nil => rfl
  | cons m rest ih =>
      simp only [runScripts, applySteps, List.map_cons, transact, Script.outcome_body]
      cases s.applyStep m.toMigration with
      | ok s' => exact ih s'
      | error e => rfl

/-- **The transactions make of a store what `Store.migrate` makes of it.** -/
theorem migrateInTransactions_eq (s : Store) : s.migrateInTransactions = s.migrate := by
  have hsteps : ∀ recorded, (Script.all.filter (recorded < ·.version)).map Script.toMigration =
      migrations.filter (recorded < ·.version) := by
    intro recorded
    rw [← Script.map_toMigration_all, List.filter_map]
    rfl
  unfold migrateInTransactions migrate
  dsimp only
  cases s.createVersions.version with
  | error e => rfl
  | ok recorded =>
      dsimp only
      rw [runScripts_eq, hsteps]

end Store

/-! ## Steps one after another -/

namespace Migration

/-- The row that records a step. -/
def stamp (m : Migration) : VersionRow :=
  ⟨m.version, some m.name⟩

/-- The step to the first version. -/
def schema : Migration :=
  ⟨1, "dimensions, facts, rollups and watermarks", fun s => .ok s.initSchema⟩

/-- The step to the second version. -/
def index : Migration :=
  ⟨2, "fact scan index on (site_id, ts)", Store.addScanIndex⟩

theorem mem_migrations_iff {m : Migration} : m ∈ migrations ↔ m = schema ∨ m = index := by
  rw [show migrations = [schema, index] from rfl, List.mem_pair]

end Migration

namespace Store

variable {s s' s'' : Store} {m : Migration} {ms : List Migration}

/-- The store with other schema versions. -/
def putVersions (s : Store) (rows : List VersionRow) : Store :=
  { s with versions := .table rows }

/-- A step takes effect and is recorded, or fails. -/
theorem exists_stamped_of_applyStep (h : s.applyStep m = .ok s') :
    ∃ made rows, m.apply s = .ok made ∧ made.versions = .table rows ∧
      s' = made.putVersions (rows ++ [m.stamp]) := by
  unfold applyStep at h
  cases happly : m.apply s with
  | error e =>
      rw [happly] at h
      cases h
  | ok made =>
      rw [happly, ok_bind, addVersion] at h
      cases hrows : made.versionRows with
      | error e =>
          rw [hrows] at h
          cases h
      | ok rows =>
          rw [hrows, ok_bind] at h
          split at h
          · cases h
          · cases h
            exact ⟨made, rows, rfl, Slot.read_eq_ok_iff.mp hrows, rfl⟩

/-- **Steps took effect one after another**, and each left its row behind the rows
that were there. -/
inductive Applied : Store → List Migration → Store → Prop
  /-- No step. -/
  | nil (s : Store) : Applied s [] s
  /-- A step, its row, and the steps after it. -/
  | cons {s made s' : Store} {m : Migration} {ms : List Migration} {rows : List VersionRow}
      (effect : m.apply s = .ok made) (recorded : made.versions = .table rows)
      (rest : Applied (made.putVersions (rows ++ [m.stamp])) ms s') : Applied s (m :: ms) s'

/-- **A run of steps applies those before the first that fails**, and nothing of the
one that fails. -/
theorem exists_applied_applySteps (s : Store) (ms : List Migration) :
    (∃ s', s.applySteps ms = (s', .ok ()) ∧ s.Applied ms s') ∨
      ∃ s' e done m rest, s.applySteps ms = (s', .error e) ∧ ms = done ++ m :: rest ∧
        s.Applied done s' ∧ s'.applyStep m = .error e := by
  induction ms generalizing s with
  | nil => exact .inl ⟨s, rfl, .nil s⟩
  | cons m ms ih =>
      cases hstep : s.applyStep m with
      | error e =>
          refine .inr ⟨s, e, [], m, ms, ?_, rfl, .nil s, hstep⟩
          simp only [applySteps, hstep]
      | ok next =>
          have hrun : s.applySteps (m :: ms) = next.applySteps ms := by
            simp only [applySteps, hstep]
          obtain ⟨made, rows, effect, recorded, rfl⟩ := exists_stamped_of_applyStep hstep
          rw [hrun]
          rcases ih (made.putVersions (rows ++ [m.stamp])) with
            ⟨s', hok, applied⟩ | ⟨s', e, done, failed, rest, herror, rfl, applied, hfailed⟩
          · exact .inl ⟨s', hok, .cons effect recorded applied⟩
          · exact .inr ⟨s', e, m :: done, failed, rest, herror, rfl,
              .cons effect recorded applied, hfailed⟩

/-- Steps that leave the recorded versions alone add their rows and no other. -/
theorem Applied.versions (h : s.Applied ms s')
    (quiet : ∀ m ∈ ms, ∀ s made, m.apply s = .ok made → made.versions = s.versions)
    {rows : List VersionRow} (hrows : s.versions = .table rows) :
    s'.versions = .table (rows ++ ms.map Migration.stamp) := by
  induction h generalizing rows with
  | nil s => rw [List.map_nil, List.append_nil, hrows]
  | @cons s made s' m ms recorded effect hrecorded rest ih =>
      have hmade := quiet m List.mem_cons_self s made effect
      rw [hrecorded, hrows, Slot.table.injEq] at hmade
      have hrest := ih (fun m hm => quiet m (List.mem_cons_of_mem _ hm)) rfl
      rw [hrest, hmade, List.map_cons, List.append_assoc]
      rfl

end Store

/-! ## What stood stays -/

/-- What stood under a name stands there still, and a free name may have become
that of an empty table. -/
def Slot.Stays {α : Type} (empty : α) (before after : Slot α) : Prop :=
  after = before ∨ before = .absent ∧ after = .table empty

namespace Slot

variable {α : Type} {empty : α} {a b c : Slot α}

theorem Stays.refl (a : Slot α) : Stays empty a a := .inl rfl

theorem Stays.trans (h : Stays empty a b) (h' : Stays empty b c) : Stays empty a c := by
  rcases h with rfl | ⟨ha, hb⟩
  · exact h'
  · rcases h' with rfl | ⟨hb', -⟩
    · exact .inr ⟨ha, hb⟩
    · rw [hb] at hb'
      cases hb'

theorem stays_create (empty : α) (a : Slot α) : Stays empty a (a.create empty) := by
  cases a with
  | absent => exact .inr ⟨rfl, rfl⟩
  | view => exact .refl _
  | table rows => exact .refl _

/-- Whatever is created, the name is not free afterwards. -/
theorem isAbsent_create (empty : α) (a : Slot α) : (a.create empty).isAbsent = false := by
  cases a <;> rfl

/-- A name that is taken stays taken. -/
theorem Stays.isAbsent (h : Stays empty a b) (taken : a.isAbsent = false) :
    b.isAbsent = false := by
  rcases h with rfl | ⟨-, rfl⟩
  · exact taken
  · rfl

/-- A table stays a table. -/
theorem Stays.isTable (h : Stays empty a b) (stands : a.isTable = true) : b.isTable = true := by
  rcases h with rfl | ⟨-, rfl⟩
  · exact stands
  · rfl

end Slot

namespace Store

variable {s s' s'' : Store} {m : Migration} {ms : List Migration}

/-- **A later store has all that an earlier one had**, and new tables are empty.
Schema versions are left open. -/
structure Extends (s s' : Store) : Prop where
  /-- Reference tables stay. -/
  dimensions : ∀ d, Slot.Stays [] (s.dimensions.get d) (s'.dimensions.get d)
  /-- Their sequences go on where they were. -/
  dimensionIds : ∀ d n, s.dimensionIds.get d = some n → s'.dimensionIds.get d = some n
  /-- The facts stay. -/
  facts : Slot.Stays [] s.facts s'.facts
  /-- Their sequence goes on where it was. -/
  factIds : ∀ n, s.factIds = some n → s'.factIds = some n
  /-- The rollup by day stays. -/
  daily : Slot.Stays .empty s.daily s'.daily
  /-- The rollup by hour stays. -/
  hourly : Slot.Stays .empty s.hourly s'.hourly
  /-- The watermarks stay. -/
  watermarks : Slot.Stays .empty s.watermarks s'.watermarks
  /-- The index of facts stays. -/
  scanIndex : s.scanIndex = true → s'.scanIndex = true
  /-- A second connection is left alone. -/
  held : s'.held = s.held

@[refl] theorem Extends.refl (s : Store) : s.Extends s where
  dimensions _ := .refl _
  dimensionIds _ _ h := h
  facts := .refl _
  factIds _ h := h
  daily := .refl _
  hourly := .refl _
  watermarks := .refl _
  scanIndex h := h
  held := rfl

@[trans] theorem Extends.trans (h : s.Extends s') (h' : s'.Extends s'') : s.Extends s'' where
  dimensions d := (h.dimensions d).trans (h'.dimensions d)
  dimensionIds d n hn := h'.dimensionIds d n (h.dimensionIds d n hn)
  facts := h.facts.trans h'.facts
  factIds n hn := h'.factIds n (h.factIds n hn)
  daily := h.daily.trans h'.daily
  hourly := h.hourly.trans h'.hourly
  watermarks := h.watermarks.trans h'.watermarks
  scanIndex hs := h'.scanIndex (h.scanIndex hs)
  held := h'.held.trans h.held

theorem extends_createVersions (s : Store) : s.Extends s.createVersions :=
  { Extends.refl s with }

theorem extends_putVersions (s : Store) (rows : List VersionRow) :
    s.Extends (s.putVersions rows) :=
  { Extends.refl s with }

theorem extends_initSchema (s : Store) : s.Extends s.initSchema where
  dimensions d := by
    change Slot.Stays [] _ ((s.dimensions.map (·.create [])).get d)
    rw [PerDimension.get_map]
    exact Slot.stays_create _ _
  dimensionIds d n hn := by
    change (s.dimensionIds.map fun n => some (n.getD 0)).get d = some n
    rw [PerDimension.get_map, hn, Option.getD_some]
  facts := Slot.stays_create _ _
  factIds n hn := by
    change some (s.factIds.getD 0) = some n
    rw [hn, Option.getD_some]
  daily := Slot.stays_create _ _
  hourly := Slot.stays_create _ _
  watermarks := Slot.stays_create _ _
  scanIndex h := h
  held := rfl

/-- The index is created where the table of facts stands, and nothing else is. -/
theorem addScanIndex_eq_ok_iff :
    s.addScanIndex = .ok s' ↔ s.facts.isTable = true ∧ s' = { s with scanIndex := true } := by
  unfold addScanIndex factRows
  cases s.facts with
  | absent => exact ⟨nofun, fun h => nomatch h.1⟩
  | view => exact ⟨nofun, fun h => nomatch h.1⟩
  | table rows =>
      constructor
      · rintro ⟨⟩
        exact ⟨rfl, rfl⟩
      · rintro ⟨-, rfl⟩
        rfl

/-- A step takes nothing away. -/
theorem extends_of_apply (hm : m ∈ migrations) (h : m.apply s = .ok s') : s.Extends s' := by
  rcases Migration.mem_migrations_iff.mp hm with rfl | rfl
  · cases h
    exact extends_initSchema s
  · obtain ⟨-, rfl⟩ := addScanIndex_eq_ok_iff.mp h
    exact { Extends.refl s with scanIndex := fun _ => rfl }

/-- A step leaves the recorded versions alone. -/
theorem versions_of_apply (hm : m ∈ migrations) (h : m.apply s = .ok s') :
    s'.versions = s.versions := by
  rcases Migration.mem_migrations_iff.mp hm with rfl | rfl
  · cases h
    rfl
  · obtain ⟨-, rfl⟩ := addScanIndex_eq_ok_iff.mp h
    rfl

/-- Steps take nothing away. -/
theorem Applied.extends (h : s.Applied ms s') (hms : ms ⊆ migrations) : s.Extends s' := by
  induction h with
  | nil s => exact .refl s
  | @cons s made s' m ms rows effect recorded rest ih =>
      have hmade := extends_of_apply (hms List.mem_cons_self) effect
      exact (hmade.trans (extends_putVersions made _)).trans
        (ih fun m hm => hms (List.mem_cons_of_mem _ hm))

/-! ## What a step is for -/

/-- **What the step to a version is for.**  After the first, every name is taken and
every sequence exists; after the second, facts have their index. -/
def HasReached (s : Store) : ℕ → Prop
  | 1 => (∀ t, t ≠ .versions → s.isFree t = false) ∧
      (∀ d, (s.dimensionIds.get d).isSome) ∧ s.factIds.isSome
  | 2 => s.facts.isTable = true ∧ s.scanIndex = true
  | _ => True

theorem hasReached_of_apply (hm : m ∈ migrations) (h : m.apply s = .ok s') :
    s'.HasReached m.version := by
  rcases Migration.mem_migrations_iff.mp hm with rfl | rfl
  · cases h
    refine ⟨fun t ht => ?_, fun d => ?_, rfl⟩
    · cases t with
      | dimension d =>
          change ((s.dimensions.map (Slot.create [])).get d).isAbsent = false
          rw [PerDimension.get_map]
          exact Slot.isAbsent_create _ _
      | facts => exact Slot.isAbsent_create _ _
      | daily => exact Slot.isAbsent_create _ _
      | hourly => exact Slot.isAbsent_create _ _
      | watermarks => exact Slot.isAbsent_create _ _
      | versions => exact absurd rfl ht
    · change ((s.dimensionIds.map fun n => some (n.getD 0)).get d).isSome
      rw [PerDimension.get_map]
      rfl
  · obtain ⟨stands, rfl⟩ := addScanIndex_eq_ok_iff.mp h
    exact ⟨stands, rfl⟩

/-- What was reached stays reached. -/
theorem Extends.hasReached (h : s.Extends s') {version : ℕ} (reached : s.HasReached version) :
    s'.HasReached version := by
  match version, reached with
  | 0, _ => trivial
  | 1, ⟨taken, ids, factIds⟩ =>
      refine ⟨fun t ht => ?_, fun d => ?_, ?_⟩
      · have htaken := taken t ht
        cases t with
        | dimension d => exact (h.dimensions d).isAbsent htaken
        | facts => exact h.facts.isAbsent htaken
        | daily => exact h.daily.isAbsent htaken
        | hourly => exact h.hourly.isAbsent htaken
        | watermarks => exact h.watermarks.isAbsent htaken
        | versions => exact absurd rfl ht
      · obtain ⟨n, hn⟩ := Option.isSome_iff_exists.mp (ids d)
        exact Option.isSome_iff_exists.mpr ⟨n, h.dimensionIds d n hn⟩
      · obtain ⟨n, hn⟩ := Option.isSome_iff_exists.mp factIds
        exact Option.isSome_iff_exists.mpr ⟨n, h.factIds n hn⟩
  | 2, ⟨stands, index⟩ => exact ⟨h.facts.isTable stands, h.scanIndex index⟩
  | _ + 3, _ => trivial

/-- Every step that was applied is there in full in the end. -/
theorem Applied.hasReached (h : s.Applied ms s') (hms : ms ⊆ migrations) :
    ∀ m ∈ ms, s'.HasReached m.version := by
  induction h with
  | nil s => exact fun m hm => nomatch hm
  | @cons s made s' m ms rows effect recorded rest ih =>
      have hms' : ms ⊆ migrations := fun m hm => hms (List.mem_cons_of_mem _ hm)
      intro m' hm'
      rcases List.mem_cons.mp hm' with rfl | hm'
      · have hmade := hasReached_of_apply (hms List.mem_cons_self) effect
        exact ((extends_putVersions made _).trans (rest.extends hms')).hasReached hmade
      · exact ih hms' m' hm'

/-! ## The recorded version -/

/-- The highest of some recorded versions, zero for none. -/
def highest (rows : List VersionRow) : ℤ :=
  (rows.map (·.version)).max?.getD 0

/-- The version is the highest recorded one, which must not be negative. -/
theorem version_eq_ok_iff {v : ℕ} :
    s.version = .ok v ↔ ∃ rows, s.versions = .table rows ∧ highest rows = v := by
  unfold version versionRows
  cases s.versions with
  | absent => exact ⟨nofun, fun ⟨_, h, _⟩ => nomatch h⟩
  | view => exact ⟨nofun, fun ⟨_, h, _⟩ => nomatch h⟩
  | table rows =>
      change (if highest rows < 0 then .error (.outOfRange (highest rows))
        else .ok (highest rows).toNat : Except StoreFault ℕ) = .ok v ↔ _
      split
      case isTrue hneg =>
        refine ⟨nofun, ?_⟩
        rintro ⟨_, ⟨⟩, hv⟩
        omega
      case isFalse hneg =>
        constructor
        · rintro ⟨⟩
          exact ⟨rows, rfl, by omega⟩
        · rintro ⟨_, ⟨⟩, hv⟩
          rw [hv, Int.toNat_natCast]

/-- A row above all others becomes the highest. -/
theorem highest_concat {rows : List VersionRow} {row : VersionRow}
    (above : highest rows ≤ row.version) : highest (rows ++ [row]) = row.version := by
  have hmax : ((rows ++ [row]).map (·.version)).max? = some row.version := by
    rw [List.max?_eq_some_iff]
    refine ⟨List.mem_map_of_mem (List.mem_append_right _ List.mem_cons_self), ?_⟩
    intro b hb
    rw [List.map_append, List.mem_append] at hb
    rcases hb with hb | hb
    · have hle : b ≤ highest rows := by
        unfold highest
        cases hm : (rows.map (·.version)).max? with
        | none => rw [List.max?_eq_none_iff.mp hm] at hb; cases hb
        | some a => exact (List.max?_eq_some_iff.mp hm).2 b hb
      exact hle.trans above
    · rw [List.map_singleton, List.mem_singleton] at hb
      exact hb.le
  rw [highest, hmax, Option.getD_some]

/-- The version of the last of some steps, or the one before all of them. -/
def lastOf (v : ℕ) (ms : List Migration) : ℕ :=
  (ms.getLast?.map (·.version)).getD v

/-- After steps in order, the last one is the highest. -/
theorem highest_append_stamps {rows : List VersionRow} {v : ℕ} (hv : highest rows = v)
    (ordered : List.IsChain (· < ·) (v :: ms.map (·.version))) :
    highest (rows ++ ms.map Migration.stamp) = lastOf v ms := by
  induction ms generalizing rows v with
  | nil => rw [List.map_nil, List.append_nil, hv]; rfl
  | cons m ms ih =>
      rw [List.map_cons, List.isChain_cons_cons] at ordered
      have hstamp : highest (rows ++ [m.stamp]) = m.version := by
        refine highest_concat ?_
        rw [hv]
        exact Int.ofNat_le.mpr ordered.1.le
      have hrest := ih hstamp ordered.2
      have hlast : lastOf m.version ms = lastOf v (m :: ms) := by
        unfold lastOf
        rw [List.getLast?_cons, Option.map_some, Option.getD_some]
        cases ms.getLast? <;> rfl
      rw [← hlast, ← hrest, List.map_cons, List.append_assoc]
      rfl

/-! ## How the migrations end -/

/-- The steps that a store of some version is missing. -/
def missing (v : ℕ) : List Migration :=
  migrations.filter (v < ·.version)

theorem missing_subset (v : ℕ) : missing v ⊆ migrations :=
  fun _ hm => List.mem_of_mem_filter hm

/-- Missing steps are in order, from the version that is recorded. -/
theorem isChain_missing (v : ℕ) : List.IsChain (· < ·) (v :: (missing v).map (·.version)) := by
  have hsorted : (migrations.map (·.version)).Pairwise (· < ·) := by decide
  rw [List.isChain_iff_pairwise, List.pairwise_cons]
  refine ⟨fun w hw => ?_, ?_⟩
  · obtain ⟨m, hm, rfl⟩ := List.mem_map.mp hw
    exact of_decide_eq_true (List.mem_filter.mp hm).2
  · exact hsorted.sublist (List.filter_sublist.map _)

/-- After all missing steps, the version is the latest. -/
theorem lastOf_missing {v : ℕ} (hv : v ≤ latestVersion) :
    lastOf v (missing v) = latestVersion := by
  unfold latestVersion at hv
  interval_cases v <;> rfl

/-- **Some steps were applied to a store, and nothing else was done to it**, except
that its table of versions was created. -/
structure MigratedBy (s : Store) (done : List Migration) (s' : Store) : Prop where
  /-- The steps took effect in order. -/
  applied : s.createVersions.Applied done s'
  /-- Each was recorded once, behind the rows that were there. -/
  versions : ∃ rows, s.createVersions.versions = .table rows ∧
    s'.versions = .table (rows ++ done.map Migration.stamp)
  /-- What stood stays. -/
  kept : s.Extends s'
  /-- What the steps are for is there. -/
  reaches : ∀ m ∈ done, s'.HasReached m.version

variable {v : ℕ} {done : List Migration}

/-- Steps that took effect in order are all that was done. -/
theorem Applied.migratedBy (applied : s.createVersions.Applied done s')
    (hv : s.createVersions.version = .ok v) (hdone : done <+: missing v) :
    s.MigratedBy done s' ∧ s'.version = .ok (lastOf v done) := by
  have hsub : done ⊆ migrations := fun m hm => missing_subset v (hdone.subset hm)
  obtain ⟨rows, hrows, hhigh⟩ := version_eq_ok_iff.mp hv
  have hversions := applied.versions
    (fun m hm _ _ happly => versions_of_apply (hsub hm) happly) hrows
  have hchain : List.IsChain (· < ·) (v :: done.map (·.version)) := by
    refine List.IsChain.sublist ?_ (List.Sublist.cons_cons v (hdone.sublist.map _))
    exact isChain_missing v
  refine ⟨⟨applied, ⟨rows, hrows, hversions⟩, ?_, applied.hasReached hsub⟩, ?_⟩
  · exact (extends_createVersions s).trans (applied.extends hsub)
  · exact version_eq_ok_iff.mpr ⟨_, hversions, highest_append_stamps hhigh hchain⟩

/-- A table of versions is not created again. -/
theorem createVersions_of_version (hv : s.version = .ok v) : s.createVersions = s := by
  obtain ⟨rows, hrows, -⟩ := version_eq_ok_iff.mp hv
  rw [createVersions, hrows]
  exact (congrArg (fun slot => { s with versions := slot }) hrows.symm)

/-- Where the steps were reached, there is nothing left to do. -/
theorem migrate_of_version (hv : s.version = .ok v) (hle : latestVersion ≤ v) :
    s.migrate = (s, .ok ()) := by
  have hnone : migrations.filter (v < ·.version) = [] := by
    rw [List.filter_eq_nil_iff]
    intro m hm
    have hlast : m.version ≤ latestVersion := by
      rcases Migration.mem_migrations_iff.mp hm with rfl | rfl <;> decide
    simpa using hlast.trans hle
  rw [migrate, createVersions_of_version hv, hv]
  simp only [hnone, applySteps, ite_self]

/-- A store of versions above the latest has its table of versions already. -/
theorem version_of_latest_lt (hv : s.createVersions.version = .ok v)
    (hlt : latestVersion < v) : s.version = .ok v := by
  obtain ⟨rows, hrows, hhigh⟩ := version_eq_ok_iff.mp hv
  refine version_eq_ok_iff.mpr ⟨rows, ?_, hhigh⟩
  change s.versions.create [] = .table rows at hrows
  cases hslot : s.versions with
  | absent =>
      rw [hslot] at hrows
      cases hrows
      rw [show highest [] = 0 from rfl] at hhigh
      omega
  | view => rw [hslot] at hrows; cases hrows
  | table old => rw [hslot] at hrows; exact hrows

/-- The migrations of a store whose version can be read and is not above the latest. -/
theorem migrate_of_le (hv : s.createVersions.version = .ok v) (hle : v ≤ latestVersion) :
    s.migrate = s.createVersions.applySteps (missing v) := by
  rw [migrate]
  simp only [hv]
  rw [if_neg hle.not_gt]
  rfl

theorem migrate_of_unreadable {e : StoreFault} (hv : s.createVersions.version = .error e) :
    s.migrate = (s.createVersions, .error e) := by
  rw [migrate]
  simp only [hv]

/-! ### When they succeed -/

/-- A step succeeds if its effect does, where versions can be recorded. -/
theorem applyStep_of_apply (hm : m ∈ migrations) {made : Store} {rows : List VersionRow}
    (effect : m.apply s = .ok made) (recorded : s.versions = .table rows) :
    s.applyStep m = .ok (made.putVersions (rows ++ [m.stamp])) := by
  have hmade : made.versionRows = .ok rows := by
    rw [versionRows, versions_of_apply hm effect, recorded]
    rfl
  have hrange : ¬((m.version : ℤ) < -2147483648 ∨ 2147483647 < (m.version : ℤ)) := by
    rcases Migration.mem_migrations_iff.mp hm with rfl | rfl <;> decide
  rw [applyStep, effect, ok_bind, addVersion, hmade, ok_bind, if_neg hrange]
  rfl

/-- The index is added, and recorded, if and only if there is a table of facts. -/
theorem exists_applySteps_index {rows : List VersionRow} (recorded : s.versions = .table rows) :
    (∃ s', s.applySteps (missing 1) = (s', .ok ())) ↔ s.facts.isTable = true := by
  change (∃ s', s.applySteps [.index] = (s', .ok ())) ↔ _
  constructor
  · rintro ⟨s', h⟩
    rw [applySteps] at h
    split at h
    case h_1 next hstep =>
      obtain ⟨made, _, effect, -⟩ := exists_stamped_of_applyStep hstep
      exact (addScanIndex_eq_ok_iff.mp effect).1
    case h_2 => cases h
  · intro stands
    have hstep := applyStep_of_apply (Migration.mem_migrations_iff.mpr (.inr rfl))
      (addScanIndex_eq_ok_iff.mpr ⟨stands, rfl⟩) recorded
    exact ⟨_, by rw [applySteps, hstep]; rfl⟩

/-- The first step always succeeds, so the question is what it leaves for the second. -/
theorem exists_applySteps_all {rows : List VersionRow} (recorded : s.versions = .table rows) :
    (∃ s', s.applySteps (missing 0) = (s', .ok ())) ↔ s.facts ≠ .view := by
  have hstep : s.applyStep .schema =
      .ok (s.initSchema.putVersions (rows ++ [Migration.schema.stamp])) :=
    applyStep_of_apply (Migration.mem_migrations_iff.mpr (.inl rfl)) rfl recorded
  have hrun : s.applySteps (missing 0) =
      (s.initSchema.putVersions (rows ++ [Migration.schema.stamp])).applySteps (missing 1) := by
    change s.applySteps (.schema :: missing 1) = _
    rw [applySteps, hstep]
  rw [hrun, exists_applySteps_index rfl]
  change (s.facts.create []).isTable = true ↔ _
  cases s.facts with
  | absent => exact ⟨fun _ => nofun, fun _ => rfl⟩
  | view => exact ⟨nofun, fun h => absurd rfl h⟩
  | table facts => exact ⟨fun _ => nofun, fun _ => rfl⟩

/-- **When the migrations succeed.**  Only the index can be in their way: it needs a
table of facts, which the first step creates where the name is free. -/
theorem exists_migrate_eq_ok_iff : (∃ s', s.migrate = (s', .ok ())) ↔
    ∃ v, s.createVersions.version = .ok v ∧ (v = 0 → s.facts ≠ .view) ∧
      (v = 1 → s.facts.isTable = true) := by
  constructor
  · rintro ⟨s', h⟩
    cases hv : s.createVersions.version with
    | error e =>
        rw [migrate_of_unreadable hv] at h
        cases h
    | ok v =>
        obtain ⟨rows, hrows, -⟩ := version_eq_ok_iff.mp hv
        refine ⟨v, rfl, ?_, ?_⟩
        · rintro rfl
          rw [migrate_of_le hv (Nat.zero_le _)] at h
          exact (exists_applySteps_all hrows).mp ⟨s', h⟩
        · rintro rfl
          rw [migrate_of_le hv (by decide)] at h
          exact (exists_applySteps_index hrows).mp ⟨s', h⟩
  · rintro ⟨v, hv, all, index⟩
    obtain ⟨rows, hrows, -⟩ := version_eq_ok_iff.mp hv
    match v, hv, all, index with
    | 0, hv, all, _ =>
        rw [migrate_of_le hv (Nat.zero_le _)]
        exact (exists_applySteps_all hrows).mpr (all rfl)
    | 1, hv, _, index =>
        rw [migrate_of_le hv (by decide)]
        exact (exists_applySteps_index hrows).mpr (index rfl)
    | 2, hv, _, _ => exact ⟨_, migrate_of_le hv le_rfl⟩
    | v + 3, hv, _, _ =>
        have hlt : latestVersion < v + 3 := Nat.lt_add_left v (by decide)
        exact ⟨s, migrate_of_version (version_of_latest_lt hv hlt) hlt.le⟩

/-! ### All of it -/

/-- **The migrations converge, and never half-apply.**  Whatever store they meet,
the version that counts is the one that can be read once there is a table for it.  A
store of a later version is left alone.  If the migrations succeed, all missing steps
were applied in order and recorded once each, what stood before stands still, and a
second run does nothing.  If they fail, the store has some of the missing steps in
full, their rows, and nothing of the step that failed.  They fail only for a version
that cannot be read, or for facts that no index can be built on. -/
theorem migrations_converge_and_never_half_apply (s : Store) :
    s.migrateInTransactions = s.migrate ∧
      (∀ v, s.createVersions.version = .ok v → latestVersion < v → s.migrate = (s, .ok ())) ∧
      (∀ v s', s.createVersions.version = .ok v → v ≤ latestVersion →
        s.migrate = (s', .ok ()) →
          s.MigratedBy (missing v) s' ∧ s'.version = .ok latestVersion ∧
            s'.migrate = (s', .ok ())) ∧
      (∀ s' e, s.migrate = (s', .error e) →
        (s.createVersions.version = .error e ∧ s' = s.createVersions ∧ s.Extends s') ∨
          ∃ v done m rest, s.createVersions.version = .ok v ∧
            missing v = done ++ m :: rest ∧ s.MigratedBy done s' ∧
            s'.version = .ok (lastOf v done) ∧ s'.applyStep m = .error e) ∧
      ((∃ s', s.migrate = (s', .ok ())) ↔
        ∃ v, s.createVersions.version = .ok v ∧ (v = 0 → s.facts ≠ .view) ∧
          (v = 1 → s.facts.isTable = true)) := by
  refine ⟨migrateInTransactions_eq s, fun v hv hlt => ?_, fun v s' hv hle h => ?_,
    fun s' e h => ?_, exists_migrate_eq_ok_iff⟩
  · exact migrate_of_version (version_of_latest_lt hv hlt) hlt.le
  · rw [migrate_of_le hv hle] at h
    rcases exists_applied_applySteps s.createVersions (missing v) with
      ⟨_, hrun, applied⟩ | ⟨_, _, _, _, _, hrun, -⟩
    · rw [hrun] at h
      cases h
      obtain ⟨by_, version⟩ := applied.migratedBy hv (List.prefix_refl _)
      rw [lastOf_missing hle] at version
      exact ⟨by_, version, migrate_of_version version le_rfl⟩
    · rw [hrun] at h
      cases h
  · cases hv : s.createVersions.version with
    | error fault =>
        rw [migrate_of_unreadable hv] at h
        cases h
        exact .inl ⟨rfl, rfl, extends_createVersions s⟩
    | ok v =>
        rcases Nat.lt_or_ge latestVersion v with hlt | hle
        · rw [migrate_of_version (version_of_latest_lt hv hlt) hlt.le] at h
          cases h
        · rw [migrate_of_le hv hle] at h
          rcases exists_applied_applySteps s.createVersions (missing v) with
            ⟨_, hrun, -⟩ | ⟨_, _, done, m, rest, hrun, hmissing, applied, failed⟩
          · rw [hrun] at h
            cases h
          · rw [hrun] at h
            cases h
            have hdone : done <+: missing v := ⟨m :: rest, hmissing.symm⟩
            obtain ⟨by_, version⟩ := applied.migratedBy hv hdone
            exact .inr ⟨v, done, m, rest, rfl, hmissing, by_, version, failed⟩

/-- A store of the first version that holds a page and a view under the name of its
rollup by day. -/
def firstVersion : Store :=
  { Store.empty with
    dimensions := (PerDimension.replicate .absent).set .path (.table [⟨7, none, "/"⟩])
    facts := .table []
    daily := .view
    versions := .table [⟨1, none⟩] }

/-- The first version is brought up to the second.  With a view under the name of the
facts, an empty store stops between the two: the watermarks are there, the first
version is recorded, and the index is not. -/
theorem stopped_between_steps :
    (∃ s', firstVersion.migrate = (s', .ok ()) ∧ firstVersion.MigratedBy (missing 1) s' ∧
        s'.rowsOf .path = [⟨7, none, "/"⟩] ∧ s'.version = .ok 2) ∧
      ∃ s', ({ Store.empty with facts := .view } : Store).migrate =
          (s', .error (.notTable "pageviews")) ∧
        s'.hasTable .watermarks = true ∧ s'.version = .ok 1 ∧ s'.scanIndex = false := by
  obtain ⟨-, -, succeeds, -⟩ := migrations_converge_and_never_half_apply firstVersion
  obtain ⟨by_, version, -⟩ := succeeds 1 _ rfl (by decide) rfl
  exact ⟨⟨_, rfl, by_, rfl, version⟩, _, rfl, rfl, rfl, rfl⟩

end Store

end Footfall
