import Mathlib
import Footfall.Proofs.Visit.Sighting
import Footfall.Rollup.Pass

/-!
# Runs

Everything that happens to a store after its migration, one call at a time.  A
pass or a repair holds the store only while it compacts a day, so it is no step
of its own: it stands for the compactions that it makes, with visits that arrive
before each of them.

## Main Definitions

* `Action` — a call that holds the store until it returns
* `Action.sightings` — the sighting that it adds
* `Store.runAll` — the store after some calls
* `Operation` — an action, or a pass or repair with the visits that arrive
  meanwhile
* `Store.trace` — the actions that operations come down to
* `Store.Compacts` — an action compacts a day
* `Store.LastCompacts` — the last action that compacts a day

## Main Statements

* `Store.runAll_passActions` — without arrivals, a pass is `compactEach`
* `Store.runAll_pass`, `Store.runAll_repair` — and thus `runPass` or `runRepair`
-/

namespace Footfall

/-- A call that holds the store until it returns. -/
inductive Action where
  /-- Records a visit. -/
  | record (visit : Visit) (now : Instant)
  /-- Resolves a key. -/
  | resolve (key : NaturalKey)
  /-- Compacts a day. -/
  | compact (day : Day) (now : Instant)

namespace Action

/-- The store after a call, whether it succeeds or fails. -/
def run (s : Store) : Action → Store
  | record v now => (s.record v.event v.attributes v.policy now).1
  | resolve k => (s.resolve k).1
  | compact d now =>
    match s.compactDay d now with
    | .ok (s', _) => s'
    | .error _ => s

/-- The call records a visit. -/
def IsRecord : Action → Prop
  | record _ _ => True
  | _ => False

/-- The sighting that a call adds. -/
def sightings : Action → List Sighting
  | record v now => (v.sighting? now).toList
  | _ => []

/-- A recorded visit bears a time in the years 0 to 9999. -/
def InYears : Action → Prop
  | record v now => 0 ≤ (v.time now).day.civil.year ∧ (v.time now).day.civil.year ≤ 9999
  | _ => True

instance (a : Action) : Decidable a.InYears := by
  cases a <;> unfold InYears <;> infer_instance

end Action

namespace Store

variable {s : Store} {as bs : List Action}

/-! ## Actions in order -/

/-- The store after some calls. -/
def runAll (s : Store) (as : List Action) : Store :=
  as.foldl Action.run s

@[simp] theorem runAll_nil : s.runAll [] = s := rfl

@[simp] theorem runAll_cons (a : Action) : s.runAll (a :: as) = (a.run s).runAll as := rfl

/-! ## Passes -/

/-- The compactions of some days, each after the visits of its turn. -/
def passActions (now : Instant) : List Day → List (List (Visit × Instant)) → List Action
  | [], _ => []
  | d :: days, [] => .compact d now :: passActions now days []
  | d :: days, turn :: turns =>
    turn.map (fun a => .record a.1 a.2) ++ .compact d now :: passActions now days turns

theorem compactNext_fst (now : Instant) (state : Store × Pass) (d : Day) :
    (compactNext now state d).1 = (Action.compact d now).run state.1 := by
  unfold compactNext Action.run
  split <;> simp_all

/-- Without arrivals, the actions of a pass compact its days one after another. -/
theorem runAll_passActions (s : Store) (days : List Day) (now : Instant) :
    s.runAll (passActions now days []) = (s.compactEach days now).1 := by
  have hstate : ∀ state : Store × Pass,
      state.1.runAll (passActions now days []) = (days.foldl (compactNext now) state).1 := by
    induction days with
    | nil => exact fun _ => rfl
    | cons d days ih =>
        intro state
        rw [passActions, runAll_cons, ← compactNext_fst, ih, List.foldl_cons]
  exact hstate (s, {})

end Store

/-- A call, or a pass or repair with the visits that arrive before each of its
compactions. -/
inductive Operation where
  /-- A call. -/
  | call (action : Action)
  /-- Compacts yesterday and every stale day. -/
  | pass (now : Instant) (lookback : ℕ) (turns : List (List (Visit × Instant)))
  /-- Compacts every stale day. -/
  | repair (now : Instant) (lookback : ℕ) (turns : List (List (Visit × Instant)))

/-- Recorded visits bear times in the years 0 to 9999. -/
def Operation.InYears : Operation → Prop
  | .call a => a.InYears
  | .pass _ _ turns | .repair _ _ turns =>
    ∀ turn ∈ turns, ∀ r ∈ turn, (Action.record r.1 r.2).InYears

namespace Store

variable {s : Store}

/-- The days of a repair: the stale ones, or none if the scan for them fails. -/
def repairDays (s : Store) (now : Instant) (lookback : ℕ) : List Day :=
  (s.staleDays now lookback).toOption.getD []

theorem runRepair_eq (s : Store) (now : Instant) (lookback : ℕ) :
    s.runRepair now lookback = s.compactEach (s.repairDays now lookback) now := by
  unfold runRepair repairDays
  generalize s.staleDays now lookback = scan
  cases scan <;> rfl

/-- The actions of an operation, whose days are chosen when it begins. -/
def actions (s : Store) : Operation → List Action
  | .call a => [a]
  | .pass now lookback turns => passActions now (s.passDays now lookback) turns
  | .repair now lookback turns => passActions now (s.repairDays now lookback) turns

/-- The actions that operations come down to. -/
def trace (s : Store) : List Operation → List Action
  | [] => []
  | op :: ops => s.actions op ++ (s.runAll (s.actions op)).trace ops

/-- The store after some operations. -/
def perform (s : Store) (ops : List Operation) : Store :=
  s.runAll (s.trace ops)

theorem runAll_pass (s : Store) (now : Instant) (lookback : ℕ) :
    s.runAll (s.actions (.pass now lookback [])) = (s.runPass now lookback).1 :=
  runAll_passActions s _ now

theorem runAll_repair (s : Store) (now : Instant) (lookback : ℕ) :
    s.runAll (s.actions (.repair now lookback [])) = (s.runRepair now lookback).1 := by
  rw [runRepair_eq]
  exact runAll_passActions s _ now

/-- Calls come down to themselves. -/
theorem trace_map_call (as : List Action) : s.trace (as.map .call) = as := by
  induction as generalizing s with
  | nil => rfl
  | cons a as ih =>
      rw [List.map_cons, trace, ih]
      rfl

theorem perform_map_call (as : List Action) : s.perform (as.map .call) = s.runAll as := by
  rw [perform, trace_map_call]

theorem mem_passActions {now : Instant} {days : List Day} {turns : List (List (Visit × Instant))}
    {a : Action} (h : a ∈ passActions now days turns) :
    (∃ d, a = .compact d now) ∨ ∃ turn ∈ turns, ∃ r ∈ turn, a = .record r.1 r.2 := by
  induction days generalizing turns with
  | nil => simp [passActions] at h
  | cons d days ih =>
      cases turns with
      | nil =>
          rcases List.mem_cons.mp h with rfl | h
          · exact .inl ⟨d, rfl⟩
          · exact ih h
      | cons turn turns =>
          rcases List.mem_append.mp h with h | h
          · obtain ⟨r, hr, rfl⟩ := List.mem_map.mp h
            exact .inr ⟨turn, List.mem_cons_self, r, hr, rfl⟩
          · rcases List.mem_cons.mp h with rfl | h
            · exact .inl ⟨d, rfl⟩
            · exact (ih h).imp_right fun ⟨turn', hturn, hr⟩ =>
                ⟨turn', List.mem_cons_of_mem turn hturn, hr⟩

theorem inYears_of_mem_passActions {now : Instant} {days : List Day}
    {turns : List (List (Visit × Instant))}
    (years : ∀ turn ∈ turns, ∀ r ∈ turn, (Action.record r.1 r.2).InYears) :
    ∀ a ∈ passActions now days turns, a.InYears := by
  intro a ha
  rcases mem_passActions ha with ⟨d, rfl⟩ | ⟨turn, hturn, r, hr, rfl⟩
  · trivial
  · exact years turn hturn r hr

/-- Operations with such visits come down to actions with such visits. -/
theorem inYears_of_mem_trace {ops : List Operation} (years : ∀ op ∈ ops, op.InYears) :
    ∀ a ∈ s.trace ops, a.InYears := by
  induction ops generalizing s with
  | nil => simp [trace]
  | cons op ops ih =>
      intro a ha
      rcases List.mem_append.mp ha with ha | ha
      · have hop := years op List.mem_cons_self
        cases op with
        | call b =>
            rw [List.mem_singleton.mp ha]
            exact hop
        | pass now lookback turns => exact inYears_of_mem_passActions hop a ha
        | repair now lookback turns => exact inYears_of_mem_passActions hop a ha
      · exact ih (fun op' hop' => years op' (List.mem_cons_of_mem op hop')) a ha

theorem inYears_map_call {as : List Action} (years : ∀ a ∈ as, a.InYears) :
    ∀ op ∈ as.map Operation.call, op.InYears := by
  intro op hop
  obtain ⟨a, ha, rfl⟩ := List.mem_map.mp hop
  exact years a ha

/-! ## Compactions of a day -/

/-- After the actions `before`, compacting a day at `now` succeeds. -/
def Compacts (s : Store) (before : List Action) (d : Day) (now : Instant) : Prop :=
  ∃ result, (s.runAll before).compactDay d now = .ok result

/-- The last of the actions `as` that compacts a day is the one after `before`. -/
def LastCompacts (s : Store) (as : List Action) (d : Day) (before : List Action)
    (now : Instant) : Prop :=
  ∃ after, as = before ++ .compact d now :: after ∧ s.Compacts before d now ∧
    ∀ mid now' rest, after = mid ++ .compact d now' :: rest →
      ¬ s.Compacts (before ++ .compact d now :: mid) d now'

/-- None of the actions `as` compacts a day. -/
def NeverCompacts (s : Store) (as : List Action) (d : Day) : Prop :=
  ∀ before now after, as = before ++ .compact d now :: after → ¬ s.Compacts before d now

variable {a b : Action} {as before after : List Action} {d : Day} {now : Instant}

theorem neverCompacts_nil : s.NeverCompacts [] d := by
  intro before now after h
  exact absurd h (by simp)

/-- An action of a longer run is the last one or one of those before. -/
theorem concat_eq_append_cons (h : as ++ [a] = before ++ b :: after) :
    (after = [] ∧ as = before ∧ a = b) ∨
      ∃ rest, after = rest ++ [a] ∧ as = before ++ b :: rest := by
  rcases List.eq_nil_or_concat after with rfl | ⟨rest, c, rfl⟩
  · obtain ⟨has, hab⟩ := List.append_inj' h rfl
    exact .inl ⟨rfl, has, List.singleton_inj.mp hab⟩
  · rw [List.concat_eq_append] at h ⊢
    rw [← List.cons_append, ← List.append_assoc] at h
    obtain ⟨has, hac⟩ := List.append_inj' h rfl
    exact .inr ⟨rest, by rw [List.singleton_inj.mp hac], has⟩

theorem NeverCompacts.concat (h : s.NeverCompacts as d)
    (ha : ∀ now, a = .compact d now → ¬ s.Compacts as d now) :
    s.NeverCompacts (as ++ [a]) d := by
  intro before now after hsplit
  rcases concat_eq_append_cons hsplit with ⟨-, rfl, rfl⟩ | ⟨rest, -, has⟩
  · exact ha now rfl
  · exact h before now rest has

theorem LastCompacts.concat (h : s.LastCompacts as d before now)
    (ha : ∀ now, a = .compact d now → ¬ s.Compacts as d now) :
    s.LastCompacts (as ++ [a]) d before now := by
  obtain ⟨after, rfl, hbefore, hafter⟩ := h
  refine ⟨after ++ [a], by simp, hbefore, ?_⟩
  intro mid now' rest hsplit
  rcases concat_eq_append_cons hsplit with ⟨-, rfl, rfl⟩ | ⟨rest', -, has⟩
  · exact ha now' rfl
  · exact hafter mid now' rest' has

theorem lastCompacts_concat (h : s.Compacts as d now) :
    s.LastCompacts (as ++ [.compact d now]) d as now := by
  refine ⟨[], rfl, h, ?_⟩
  rintro mid now' rest hsplit
  exact absurd hsplit (by simp)

end Store

end Footfall
