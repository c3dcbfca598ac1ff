import Mathlib
import Footfall.Proofs.Rollup.Ledger

/-!
# Runs without ids

The ids that a run gives out depend on the order of everything that happens.
With names in place of ids, what a run leaves behind is told by its actions one
by one: each recorded visit adds its sighting, and each compaction recounts the
sightings of its day.

## Main Definitions

* `Chronicle` — the sightings so far, and those that the rollups stand for
* `Account.Tells` — an account says the same as a chronicle
* `visitsOf` — the visits that some actions record
* `Visit.Dated` — a visit bears a time of its own

## Main Statements

* `Account.tells_run` — every run says the same as its chronicle
* `Account.exists_record` — every fact comes from a visit
-/

namespace Footfall

/-- The sightings of a list that lie on a day. -/
def sightingsOfDay (d : Day) (sightings : List Sighting) : List Sighting :=
  sightings.filter fun σ => σ.time.OnDay d

/-- The sightings of a list that do not. -/
def sightingsOffDay (d : Day) (sightings : List Sighting) : List Sighting :=
  sightings.filter fun σ => ¬ σ.time.OnDay d

/-- What a run leaves behind, without ids. -/
structure Chronicle where
  /-- The sightings so far. -/
  seen : List Sighting
  /-- The sightings that the rollups stand for. -/
  counted : List Sighting

namespace Chronicle

/-- The chronicle after a compaction of `d`. -/
def recount (c : Chronicle) (d : Day) : Chronicle :=
  { c with counted := sightingsOffDay d c.counted ++ sightingsOfDay d c.seen }

/-- What an action does to a chronicle. -/
def step (c : Chronicle) : Action → Chronicle
  | .record v now => { c with seen := c.seen ++ (v.sighting? now).toList }
  | .resolve _ => c
  | .compact d now => if Compactable d now then c.recount d else c

/-- What some actions do to a chronicle. -/
def run (c : Chronicle) (as : List Action) : Chronicle :=
  as.foldl step c

/-- The chronicle of some actions. -/
def of (as : List Action) : Chronicle :=
  run ⟨[], []⟩ as

variable {c : Chronicle} {as : List Action}

theorem seen_step (a : Action) : (c.step a).seen = c.seen ++ a.sightings := by
  cases a with
  | record v now => rfl
  | resolve k => exact (List.append_nil _).symm
  | compact d now =>
      rw [step, Action.sightings, List.append_nil]
      · split
        · rfl
        · rfl
      · exact fun _ _ h => by cases h

/-- An action that writes nothing leaves a chronicle as it is. -/
theorem step_of_quiet {a : Action} (unseen : a.sightings = [])
    (idle : ∀ d now, a = .compact d now → ¬ Compactable d now) : c.step a = c := by
  cases a with
  | record v now =>
      rw [step, show (v.sighting? now).toList = [] from unseen, List.append_nil]
  | resolve k => rfl
  | compact d now => rw [step, if_neg (idle d now rfl)]

theorem seen_run : (c.run as).seen = c.seen ++ as.flatMap Action.sightings := by
  induction as generalizing c with
  | nil => simp [run]
  | cons a as ih =>
      rw [List.flatMap_cons, ← List.append_assoc, ← seen_step]
      exact ih (c := c.step a)

theorem seen_of : (of as).seen = as.flatMap Action.sightings :=
  seen_run

end Chronicle

/-- What a fact shows is stable. -/
theorem Store.Grown.sight {s s' : Store} (grown : s.Grown s') (sound : s.Referential)
    (sound' : s'.Referential) {f : Fact} (h : s.Holds f.ids) : s'.sight f = s.sight f := by
  rw [Store.sight, Store.sight, grown.names sound sound' h]

namespace Account

variable {x : Account} {c : Chronicle}

/-- An account says the same as a chronicle. -/
structure Tells (x : Account) (c : Chronicle) : Prop where
  /-- The facts have the sightings so far. -/
  seen : x.store.factList.map x.store.sight = c.seen
  /-- The counted facts have the counted sightings. -/
  counted : x.counted.map x.store.sight = c.counted

theorem Tells.factsOn (tells : x.Tells c) (d : Day) :
    (x.store.factsOn d).map x.store.sight = sightingsOfDay d c.seen := by
  rw [sightingsOfDay, ← tells.seen]
  exact x.store.map_sight_filter (fun σ => σ.time.OnDay d) x.store.factList

theorem tells_opening : opening.Tells ⟨[], []⟩ where
  seen := by simp [opening]
  counted := rfl

theorem Tells.grown (tells : x.Tells c) (h : x.Balanced) {s' : Store}
    (grown : x.store.Grown s') (sound : s'.Referential) : Tells ⟨s', x.counted⟩ c where
  seen := by
    rw [← tells.seen]
    dsimp only
    rw [grown.factList]
    exact List.map_congr_left fun f hf => grown.sight h.referential sound (h.holds f hf)
  counted := by
    rw [← tells.counted]
    exact List.map_congr_left fun f hf =>
      grown.sight h.referential sound (h.holds f (h.known f hf))

/-- **An action does the same to an account and to its chronicle.** -/
theorem Tells.step (tells : x.Tells c) (h : x.Balanced) (a : Action) :
    (x.step a).Tells (c.step a) := by
  have hstep := h.becomes_step a
  generalize x.step a = y at hstep
  cases hstep with
  | quiet grown complete sound unseen idle =>
      rw [Chronicle.step_of_quiet unseen idle]
      exact tells.grown h grown sound
  | @fact v now s' grown complete sound time site visitor ids holds seen =>
      have hgrown := tells.grown h grown sound
      refine ⟨?_, hgrown.counted⟩
      rw [Chronicle.step, seen, Option.toList_some, ← hgrown.seen,
        show (s'.withFact time site visitor ids).factList = s'.factList ++ [_] from rfl,
        List.map_append]
      rfl
  | @compacted d now hd =>
      rw [Chronicle.step, if_pos hd]
      refine ⟨tells.seen, ?_⟩
      rw [Chronicle.recount, ← tells.seen, ← tells.counted, recount, List.map_append]
      exact congrArg₂ (· ++ ·)
        (x.store.map_sight_filter (fun σ => ¬ σ.time.OnDay d) x.counted)
        (tells.factsOn d |>.trans (by rw [tells.seen]))

theorem Tells.run (tells : x.Tells c) (h : x.Balanced) (as : List Action) :
    (x.run as).Tells (c.run as) := by
  induction as generalizing x c with
  | nil => exact tells
  | cons a as ih => exact ih (tells.step h a) (h.step a)

/-- **Every run says the same as its chronicle.** -/
theorem tells_run (as : List Action) : (opening.run as).Tells (.of as) :=
  tells_opening.run balanced_opening as

/-- Every fact comes from a visit. -/
theorem exists_record {as : List Action} {f : Fact}
    (hf : f ∈ (opening.run as).store.factList) :
    ∃ v now, .record v now ∈ as ∧
      v.sighting? now = some ((opening.run as).store.sight f) := by
  have hmem := List.mem_map_of_mem (f := (opening.run as).store.sight) hf
  rw [(tells_run as).seen, Chronicle.seen_of, List.mem_flatMap] at hmem
  obtain ⟨a, ha, hsight⟩ := hmem
  cases a with
  | record v now => exact ⟨v, now, ha, Option.mem_toList.mp hsight⟩
  | resolve k => cases hsight
  | compact d now => cases hsight

end Account

/-- The sighting of a visit bears its time. -/
theorem Visit.sighting?_eq_some {v : Visit} {now : Instant} {σ : Sighting}
    (h : v.sighting? now = some σ) :
    (v.time now).Storable ∧ σ.time = (v.time now).toTimestamp ∧ σ.site = v.event.site := by
  unfold sighting? at h
  split at h
  · cases h
  · next hkept =>
    obtain rfl := Option.some.inj h
    exact ⟨not_not.mp fun hs => hkept (.inr hs), rfl, rfl⟩

/-- Visits in the years 0 to 9999 leave facts in those years. -/
theorem Account.fourDigit_of_inYears {as : List Action} {f : Fact}
    (hf : f ∈ (opening.run as).store.factList)
    (years : ∀ v now, .record v now ∈ as → v.event.site = f.site →
      (Action.record v now).InYears) : f.time.FourDigit := by
  obtain ⟨v, now, ha, hsight⟩ := exists_record hf
  obtain ⟨storable, htime, hsite⟩ := Visit.sighting?_eq_some hsight
  rw [show f.time = (v.time now).toTimestamp from htime]
  exact Instant.fourDigit_toTimestamp storable (years v now ha hsite.symm).1

/-- So do operations whose visits are in those years. -/
theorem Account.fourDigit_of_trace {ops : List Operation} (years : ∀ op ∈ ops, op.InYears) :
    ∀ f ∈ (opening.run (Store.migrated.trace ops)).store.factList, f.time.FourDigit := by
  intro f hf
  refine fourDigit_of_inYears hf fun v now ha _ => ?_
  exact Store.inYears_of_mem_trace years _ ha

/-! ## Visits with a time of their own -/

/-- The visit that an action records. -/
def Action.visit? : Action → Option Visit
  | .record v _ => some v
  | _ => none

/-- The visits that some actions record, in their order. -/
def visitsOf (as : List Action) : List Visit :=
  as.filterMap Action.visit?

theorem mem_visitsOf {as : List Action} {v : Visit} {now : Instant} (h : .record v now ∈ as) :
    v ∈ visitsOf as :=
  List.mem_filterMap.mpr ⟨_, h, rfl⟩

namespace Visit

/-- The visit bears a time of its own, in the years 0 to 9999. -/
def Dated (v : Visit) : Prop :=
  ∃ t, v.event.time = some t ∧ 0 ≤ t.day.civil.year ∧ t.day.civil.year ≤ 9999

variable {v : Visit}

/-- A dated visit does not look at the clock. -/
theorem Dated.time_eq (h : v.Dated) (now now' : Instant) : v.time now = v.time now' := by
  obtain ⟨t, ht, -⟩ := h
  rw [time, time, ht, Option.getD_some, Option.getD_some]

theorem Dated.sighting?_eq (h : v.Dated) (now now' : Instant) :
    v.sighting? now = v.sighting? now' := by
  rw [sighting?, sighting?, h.time_eq now now']

theorem Dated.inYears (h : v.Dated) (now : Instant) : (Action.record v now).InYears := by
  obtain ⟨t, ht, hyears⟩ := h
  rw [Action.InYears, time, ht, Option.getD_some]
  exact hyears

end Visit

end Footfall
