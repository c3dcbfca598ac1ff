import Mathlib
import Footfall.Proofs.Rollup.Chronicle

/-!
# Facts are kept

Whatever happens to a store, its facts stay where they are and show what they
showed.  That includes running the migrations once more, which finds every step
applied and does nothing.

## Main Definitions

* `Store.Current` — the schema is that of a freshly migrated store
* `Store.Keeps` — a later store has the facts of an earlier one
* `Episode` — an operation, or the migrations once more
* `Store.undergo` — the store after some episodes

## Main Statements

* `Store.migrate_of_current` — on a current schema, the migrations do nothing
* `Account.Balanced.keeps_run` — every run keeps the facts
* `Account.Balanced.exists_run_of_undergo` — episodes come down to actions
-/

namespace Footfall

namespace Store

/-! ## Migrations once more -/

/-- The schema is that of a freshly migrated store. -/
def Current (s : Store) : Prop :=
  s.versions = migrated.versions

theorem current_migrated : migrated.Current := rfl

/-- **On a current schema, the migrations do nothing.** -/
theorem migrate_of_current {s : Store} (h : s.Current) : s.migrate = (s, .ok ()) := by
  have hcreate : s.createVersions = s := by
    rw [createVersions, show s.versions.create [] = s.versions by rw [h]; rfl]
  have hversion : s.version = .ok latestVersion := by
    rw [version, versionRows, h]
    rfl
  simp only [migrate, hcreate, hversion]
  rfl

/-! ## Kept facts -/

/-- A later store has the facts of an earlier one in front, and they show the same. -/
structure Keeps (s s' : Store) : Prop where
  /-- Facts stay, in their order. -/
  facts : s.factList <+: s'.factList
  /-- Each of them shows what it showed. -/
  sights : ∀ f ∈ s.factList, s'.sight f = s.sight f
  /-- The schema is the same. -/
  versions : s'.versions = s.versions

variable {s s' s'' : Store}

@[refl] theorem Keeps.refl (s : Store) : s.Keeps s where
  facts := List.prefix_refl _
  sights _ _ := rfl
  versions := rfl

@[trans] theorem Keeps.trans (h : s.Keeps s') (h' : s'.Keeps s'') : s.Keeps s'' where
  facts := h.facts.trans h'.facts
  sights f hf := (h'.sights f (h.facts.subset hf)).trans (h.sights f hf)
  versions := h'.versions.trans h.versions

theorem Keeps.current (h : s.Keeps s') (current : s.Current) : s'.Current :=
  h.versions.trans current

theorem Grown.keeps (grown : s.Grown s') (sound : s.Referential) (sound' : s'.Referential)
    (holds : ∀ f ∈ s.factList, s.Holds f.ids) : s.Keeps s' where
  facts := by
    rw [grown.factList]
  sights f hf := grown.sight sound sound' (holds f hf)
  versions := grown.versions

theorem keeps_withFact (s : Store) (time : Timestamp) (site : String) (visitor : ℕ)
    (ids : PerDimension (Option ℤ)) : s.Keeps (s.withFact time site visitor ids) where
  facts := List.prefix_append _ _
  sights _ _ := rfl
  versions := rfl

theorem keeps_compacted (s : Store) (d : Day) (now : Instant) : s.Keeps (s.compacted d now) where
  facts := List.prefix_refl _
  sights _ _ := rfl
  versions := rfl

end Store

namespace Account

variable {x : Account}

/-- An action keeps the facts. -/
theorem Balanced.keeps_step (h : x.Balanced) (a : Action) : x.store.Keeps (x.step a).store := by
  have hstep := h.becomes_step a
  generalize x.step a = y at hstep
  cases hstep with
  | quiet grown complete sound => exact grown.keeps h.referential sound h.holds
  | fact grown complete sound time site visitor holds =>
      exact (grown.keeps h.referential sound h.holds).trans
        (Store.keeps_withFact _ time site visitor _)
  | @compacted d now => exact Store.keeps_compacted x.store d now

/-- **Every run keeps the facts.** -/
theorem Balanced.keeps_run (h : x.Balanced) (as : List Action) :
    x.store.Keeps (x.run as).store := by
  induction as generalizing x with
  | nil => exact .refl x.store
  | cons a as ih => exact (h.keeps_step a).trans (ih (h.step a))

end Account

/-! ## Episodes -/

/-- An operation, or the migrations once more. -/
inductive Episode where
  /-- An operation. -/
  | operation (op : Operation)
  /-- The migrations. -/
  | migrate

/-- The store after an episode. -/
def Episode.run (s : Store) : Episode → Store
  | .operation op => s.runAll (s.actions op)
  | .migrate => s.migrate.1

/-- The store after some episodes. -/
def Store.undergo (s : Store) (es : List Episode) : Store :=
  es.foldl Episode.run s

/-- **Episodes come down to actions.** -/
theorem Account.Balanced.exists_run_of_undergo {x : Account} (h : x.Balanced)
    (current : x.store.Current) (es : List Episode) :
    ∃ as, x.store.undergo es = (x.run as).store := by
  induction es generalizing x with
  | nil => exact ⟨[], rfl⟩
  | cons e es ih =>
      cases e with
      | operation op =>
          obtain ⟨as, has⟩ := ih (h.run (x.store.actions op))
            ((h.keeps_run (x.store.actions op)).current current)
          refine ⟨x.store.actions op ++ as, ?_⟩
          rw [Account.run_append, ← has, Account.store_run]
          rfl
      | migrate =>
          obtain ⟨as, has⟩ := ih h current
          refine ⟨as, ?_⟩
          rw [← has, Store.undergo, List.foldl_cons, Episode.run,
            Store.migrate_of_current current]
          rfl

end Footfall
