import Mathlib
import Footfall.Proofs.Rollup.Staleness
import Footfall.Proofs.Rollup.Transaction

/-!
# A pass converges

A pass compacts days one after another, and each compaction writes over the
watermarks from which the next scan tells what is left to do.  A compaction that
succeeds settles its own day and touches the standing of no other day, and one
that fails touches nothing.  So after a pass, the days that are still stale are
the stale days that failed.

## Main Definitions

* `Attempted` — days were compacted one after another, each with its outcome
* `Pass.of` — what a pass says of its attempts
* `Store.Converged` — what a pass over some days leaves to do

## Main Statements

* `Store.exists_attempted` — a pass attempts its days in their order
* `Attempted.stale_iff` — a day is stale afterwards if it was, and no attempt at it
  succeeded
* `Store.converged_compactEach` — compacting days that are over converges, if all
  stale days are among them
* `Store.pass_converges` — so do a pass and a repair
-/

namespace Footfall

/-! ## Attempts -/

/-- An attempt at a day, and its outcome. -/
abbrev Attempt := Day × Except StatsError Report

/-- **Days were compacted one after another.**  Each of them has the outcome that its
compaction has on the store that the ones before it left, and a day that fails
leaves the store as it is. -/
inductive Attempted (now : Instant) : Store → List Attempt → Store → Prop where
  /-- No day was compacted. -/
  | nil (s : Store) : Attempted now s [] s
  /-- The next day was compacted. -/
  | compacted {s s' s'' : Store} {d : Day} {r : Report} {rest : List Attempt}
      (h : s.compactDay d now = .ok (s', r)) (later : Attempted now s' rest s'') :
      Attempted now s ((d, .ok r) :: rest) s''
  /-- The next day failed. -/
  | failed {s s' : Store} {d : Day} {e : StatsError} {rest : List Attempt}
      (h : s.compactDay d now = .error e) (later : Attempted now s rest s') :
      Attempted now s ((d, .error e) :: rest) s'

/-- The report of an attempt that succeeded. -/
def Attempt.report? (a : Attempt) : Option Report :=
  a.2.toOption

/-- The day of an attempt that failed, and why it did. -/
def Attempt.failure? (a : Attempt) : Option (Day × StatsError) :=
  match a.2 with
  | .ok _ => none
  | .error e => some (a.1, e)

/-- What a pass says of its attempts. -/
def Pass.of (attempts : List Attempt) : Pass where
  compacted := attempts.filterMap Attempt.report?
  failed := attempts.filterMap Attempt.failure?

/-- The days that a pass compacted. -/
def Pass.compactedDays (p : Pass) : List Day :=
  p.compacted.map (·.day)

/-- The days that a pass gave up. -/
def Pass.failedDays (p : Pass) : List Day :=
  p.failed.map (·.1)

/-- What a pass says when more attempts follow those that it tells of. -/
def Pass.after (p : Pass) (attempts : List Attempt) : Pass where
  compacted := p.compacted ++ (of attempts).compacted
  failed := p.failed ++ (of attempts).failed

theorem Pass.after_cons (p : Pass) (a : Attempt) (attempts : List Attempt) :
    p.after (a :: attempts) = (p.after [a]).after attempts := by
  simp only [after, of, List.append_assoc, ← List.filterMap_append, List.singleton_append]

namespace Store

variable {now : Instant} {state : Store × Pass} {d : Day}

theorem compactNext_of_ok {s' : Store} {r : Report}
    (h : state.1.compactDay d now = .ok (s', r)) :
    compactNext now state d = (s', state.2.after [(d, .ok r)]) := by
  simp only [compactNext, h, Pass.after, Pass.of]
  exact congrArg (s', ·) (congrArg (Pass.mk _) (List.append_nil _).symm)

theorem compactNext_of_error {e : StatsError} (h : state.1.compactDay d now = .error e) :
    compactNext now state d = (state.1, state.2.after [(d, .error e)]) := by
  simp only [compactNext, h, Pass.after, Pass.of]
  exact congrArg (state.1, ·) (congrArg (Pass.mk · _) (List.append_nil _).symm)

/-- Attempts follow those of which the pass tells already. -/
theorem exists_attempted_foldl (days : List Day) (now : Instant) (state : Store × Pass) :
    ∃ attempts : List Attempt, attempts.map (·.1) = days ∧
      Attempted now state.1 attempts (days.foldl (compactNext now) state).1 ∧
      (days.foldl (compactNext now) state).2 = state.2.after attempts := by
  induction days generalizing state with
  | nil => exact ⟨[], rfl, .nil _, by simp [Pass.after, Pass.of]⟩
  | cons d days ih =>
      rw [List.foldl_cons]
      cases hday : state.1.compactDay d now with
      | ok result =>
          rw [compactNext_of_ok hday]
          obtain ⟨attempts, hdays, hattempted, hpass⟩ :=
            ih (result.1, state.2.after [(d, .ok result.2)])
          exact ⟨(d, .ok result.2) :: attempts, by rw [List.map_cons, hdays],
            .compacted hday hattempted, hpass.trans (Pass.after_cons _ _ _).symm⟩
      | error e =>
          rw [compactNext_of_error hday]
          obtain ⟨attempts, hdays, hattempted, hpass⟩ :=
            ih (state.1, state.2.after [(d, .error e)])
          exact ⟨(d, .error e) :: attempts, by rw [List.map_cons, hdays],
            .failed hday hattempted, hpass.trans (Pass.after_cons _ _ _).symm⟩

/-- **A pass attempts its days in their order**, and tells of every attempt. -/
theorem exists_attempted (s : Store) (days : List Day) (now : Instant) :
    ∃ attempts : List Attempt, attempts.map (·.1) = days ∧
      Attempted now s attempts (s.compactEach days now).1 ∧
      (s.compactEach days now).2 = .of attempts :=
  exists_attempted_foldl days now (s, {})

end Store

/-! ## What is said of attempts -/

namespace Attempted

variable {now : Instant} {s s' : Store} {attempts : List Attempt} {d : Day}

/-- The reports of a pass are about the days that it compacted. -/
theorem compactedDays_eq (h : Attempted now s attempts s') :
    (Pass.of attempts).compactedDays = (attempts.filter (·.2.isOk)).map (·.1) := by
  induction h with
  | nil => rfl
  | @compacted s s' s'' d r rest h later ih =>
      obtain ⟨-, -, -, rfl⟩ := Store.compactDay_eq_ok_iff.mp h
      exact congrArg (d :: ·) ih
  | failed h later ih => exact ih

/-- A day that was attempted and failed did so on some store. -/
theorem exists_compactDay_eq_error (h : Attempted now s attempts s') {e : StatsError}
    (mem : (d, .error e) ∈ attempts) : ∃ s₀ : Store, s₀.compactDay d now = .error e := by
  induction h with
  | nil => cases mem
  | compacted h later ih =>
      rcases List.mem_cons.mp mem with heq | mem
      · cases heq
      · exact ih mem
  | @failed s s' d' e' rest h later ih =>
      rcases List.mem_cons.mp mem with heq | mem
      · cases heq
        exact ⟨s, h⟩
      · exact ih mem

end Attempted

namespace Pass

variable {attempts : List Attempt} {d : Day} {e : StatsError}

theorem mem_failed_of : (d, e) ∈ (of attempts).failed ↔ (d, .error e) ∈ attempts := by
  rw [of, List.mem_filterMap]
  constructor
  · rintro ⟨⟨d', outcome⟩, hmem, hfailure⟩
    cases outcome with
    | ok r => cases hfailure
    | error e' =>
        cases hfailure
        exact hmem
  · intro hmem
    exact ⟨_, hmem, rfl⟩

theorem failedDays_eq :
    (of attempts).failedDays = (attempts.filter (! ·.2.isOk)).map (·.1) := by
  induction attempts with
  | nil => rfl
  | cons a attempts ih =>
      obtain ⟨d, outcome⟩ := a
      cases outcome with
      | ok r => exact ih
      | error e => exact congrArg (d :: ·) ih

/-- The days that a pass compacted and those that it gave up are its days. -/
theorem compactedDays_append_perm {now : Instant} {s s' : Store}
    (h : Attempted now s attempts s') :
    ((of attempts).compactedDays ++ (of attempts).failedDays).Perm (attempts.map (·.1)) := by
  rw [h.compactedDays_eq, failedDays_eq, ← List.map_append]
  exact (List.filter_append_perm _ attempts).map _

/-- A day that was attempted once failed if it did not succeed. -/
theorem mem_failedDays_iff (once : (attempts.map (·.1)).Nodup) (mem : d ∈ attempts.map (·.1)) :
    d ∈ (of attempts).failedDays ↔ ∀ r, (d, .ok r) ∉ attempts := by
  rw [failedDays_eq, List.mem_map]
  constructor
  · rintro ⟨⟨d, outcome⟩, hmem, rfl⟩ r hr
    obtain ⟨hmem, hfailed⟩ := List.mem_filter.mp hmem
    cases List.inj_on_of_nodup_map once hmem hr rfl
    cases hfailed
  · intro hnone
    obtain ⟨⟨d, outcome⟩, hmem, rfl⟩ := List.mem_map.mp mem
    cases outcome with
    | ok r => exact absurd hmem (hnone r)
    | error e => exact ⟨_, List.mem_filter.mpr ⟨hmem, rfl⟩, rfl⟩

end Pass

/-! ## What is left to do -/

/-- **A compaction settles its day**, and no other. -/
theorem Store.stale_compacted_iff {s : Store} {d e : Day} {now : Instant} :
    (s.compacted e now).Stale d ↔ s.Stale d ∧ d ≠ e := by
  have hfacts : (s.compacted e now).factsOn d = s.factsOn d := rfl
  rw [Stale, Stale, hfacts]
  by_cases hd : d = e
  · rw [hd, mark_compacted_self]
    simp [report]
  · rw [mark_compacted_of_ne hd]
    simp only [hd, ne_eq, not_false_eq_true, and_true]

namespace Attempted

variable {now : Instant} {s s' : Store} {attempts : List Attempt} {d : Day}

/-- Attempts add no fact. -/
theorem facts (h : Attempted now s attempts s') : s'.facts = s.facts := by
  induction h with
  | nil => rfl
  | compacted h later ih =>
      obtain ⟨-, -, rfl, -⟩ := Store.compactDay_eq_ok_iff.mp h
      exact ih
  | failed h later ih => exact ih

theorem factList (h : Attempted now s attempts s') : s'.factList = s.factList := by
  rw [Store.factList, h.facts, ← Store.factList]

theorem scannable (h : Attempted now s attempts s') (c : s.Scannable) : s'.Scannable := by
  induction h with
  | nil => exact c
  | compacted h later ih =>
      obtain ⟨ready, -, rfl, -⟩ := Store.compactDay_eq_ok_iff.mp h
      exact ih (Store.ready_compacted ready _ now).toScannable
  | failed h later ih => exact ih c

/-- **A day is stale after some attempts if it was, and none of them succeeded on
it.** -/
theorem stale_iff (h : Attempted now s attempts s') :
    s'.Stale d ↔ s.Stale d ∧ ∀ r, (d, .ok r) ∉ attempts := by
  induction h with
  | nil => simp
  | @compacted s s' s'' e r rest h later ih =>
      obtain ⟨-, -, rfl, -⟩ := Store.compactDay_eq_ok_iff.mp h
      rw [ih, Store.stale_compacted_iff]
      simp only [List.mem_cons, Prod.mk.injEq, Except.ok.injEq, not_or]
      constructor
      · rintro ⟨⟨hstale, hne⟩, hrest⟩
        exact ⟨hstale, fun r => ⟨fun heq => hne heq.1, hrest r⟩⟩
      · rintro ⟨hstale, hnone⟩
        exact ⟨⟨hstale, fun heq => (hnone _).1 ⟨heq, rfl⟩⟩, fun r => (hnone r).2⟩
  | failed h later ih =>
      rw [ih]
      simp only [List.mem_cons, Prod.mk.injEq, reduceCtorEq, and_false, false_or]

/-- **After some attempts, the scan answers the stale days that failed.** -/
theorem staleDays_eq (h : Attempted now s attempts s')
    (once : (attempts.map (·.1)).Nodup) (years : ∀ f ∈ s.factList, f.time.FourDigit)
    {lookback : ℕ} {stale : List Day} (hstale : s.staleDays now lookback = .ok stale)
    (covered : ∀ d ∈ stale, d ∈ attempts.map (·.1)) :
    s'.staleDays now lookback =
      .ok (stale.filter (· ∈ (Pass.of attempts).failedDays)) := by
  have hyears : ∀ f ∈ s'.factList, f.time.FourDigit := by
    rw [h.factList]
    exact years
  obtain ⟨scannable, accepted, hbefore⟩ := (Store.staleDays_eq_ok_iff years).mp hstale
  have haccepted : ¬ s'.RefusesScan now lookback := by
    rw [Store.RefusesScan, h.factList]
    exact accepted
  obtain ⟨days, hafter⟩ : ∃ days : List Day,
      days.map .midnight = s'.staleStarts (now.day.back lookback) now.day :=
    Store.exists_map_midnight_eq_staleStarts hyears
  refine (Store.staleDays_eq_ok_iff hyears).mpr ⟨h.scannable scannable, haccepted, ?_⟩
  -- both lists are in order, so it is enough that they have the same members
  have hsame : stale.filter (· ∈ (Pass.of attempts).failedDays) = days := by
    refine ((Store.pairwise_of_map_midnight_eq hbefore).filter _).eq_of_mem_iff
      (Store.pairwise_of_map_midnight_eq hafter) fun d => ?_
    rw [List.mem_filter, decide_eq_true_eq, Store.mem_of_map_midnight_eq hafter, h.stale_iff]
    constructor
    · rintro ⟨hmem, hfailed⟩
      obtain ⟨hfrom, hto, hd⟩ := (Store.mem_of_map_midnight_eq hbefore).mp hmem
      exact ⟨hfrom, hto, hd, (Pass.mem_failedDays_iff once (covered d hmem)).mp hfailed⟩
    · rintro ⟨hfrom, hto, hd, hnone⟩
      have hmem := (Store.mem_of_map_midnight_eq hbefore).mpr ⟨hfrom, hto, hd⟩
      exact ⟨hmem, (Pass.mem_failedDays_iff once (covered d hmem)).mpr hnone⟩
  rw [hsame]
  exact hafter

end Attempted

namespace Store

variable {s : Store} {now : Instant} {lookback : ℕ} {stale days : List Day}

/-- The scan looks at the day of the clock only. -/
theorem staleDays_congr {now' : Instant} (h : now'.day = now.day) :
    s.staleDays now' lookback = s.staleDays now lookback := by
  rw [staleDays, staleDays, h]

/-- Yesterday comes first, whether it is stale or not. -/
theorem passDays_eq {yesterday : Day} (hyesterday : now.day.pred? = some yesterday)
    (hstale : s.staleDays now lookback = .ok stale) :
    s.passDays now lookback = yesterday :: stale.filter (· ≠ yesterday) := by
  unfold passDays
  rw [hyesterday, hstale, Option.toList_some]
  refine congrArg (yesterday :: ·) (List.filter_congr fun d _ => ?_)
  simp

theorem repairDays_eq (hstale : s.staleDays now lookback = .ok stale) :
    s.repairDays now lookback = stale := by
  rw [repairDays, hstale]
  rfl

/-- Without stale days there is nothing to repair. -/
theorem runRepair_of_nil (h : s.staleDays now lookback = .ok []) :
    s.runRepair now lookback = (s, {}) := by
  rw [runRepair_eq, repairDays_eq h]
  rfl

/-- **What a pass over some days leaves to do**, where `stale` are the days that
were stale before. -/
structure Converged (s : Store) (now : Instant) (lookback : ℕ) (stale days : List Day)
    (s' : Store) (p : Pass) : Prop where
  /-- The days were attempted one after another. -/
  attempted : ∃ attempts : List Attempt, attempts.map (·.1) = days ∧
    Attempted now s attempts s' ∧ p = .of attempts
  /-- No day was attempted twice. -/
  once : days.Nodup
  /-- Days were compacted in the order in which they were attempted. -/
  compacted : p.compactedDays.Sublist days
  /-- Failures are told in this order, too. -/
  failed : p.failedDays.Sublist days
  /-- Each day was compacted or it failed. -/
  all : (p.compactedDays ++ p.failedDays).Perm days
  /-- None of them did both. -/
  apart : p.compactedDays.Disjoint p.failedDays
  /-- A day failed for a fault of the store, and none was refused. -/
  causes : ∀ f ∈ p.failed, ∃ cause, f.2 = .compaction f.1 cause
  /-- The stale days that failed are stale. -/
  left : s'.staleDays now lookback = .ok (stale.filter (· ∈ p.failedDays))
  /-- If no day failed, there is nothing to repair on the same day. -/
  repaired : p.failed = [] → ∀ now' : Instant, now'.day = now.day →
    s'.runRepair now' lookback = (s', {})

/-- **Compacting days that are over converges**, if all stale days are among them. -/
theorem converged_compactEach (years : ∀ f ∈ s.factList, f.time.FourDigit)
    (hstale : s.staleDays now lookback = .ok stale) (once : days.Nodup)
    (covered : ∀ d ∈ stale, d ∈ days) (past : ∀ d ∈ days, d < now.day) :
    s.Converged now lookback stale days (s.compactEach days now).1
      (s.compactEach days now).2 := by
  obtain ⟨attempts, rfl, hattempted, hpass⟩ := s.exists_attempted days now
  have hleft := hattempted.staleDays_eq once years hstale covered
  have hall := Pass.compactedDays_append_perm hattempted
  rw [hpass]
  exact {
    attempted := ⟨attempts, rfl, hattempted, rfl⟩
    once := once
    compacted := by
      rw [hattempted.compactedDays_eq]
      exact List.filter_sublist.map _
    failed := by
      rw [Pass.failedDays_eq]
      exact List.filter_sublist.map _
    all := hall
    apart := List.disjoint_of_nodup_append (hall.nodup_iff.mpr once)
    causes := by
      rintro ⟨d, e⟩ hf
      have hmem := Pass.mem_failed_of.mp hf
      obtain ⟨s₀, hday⟩ := hattempted.exists_compactDay_eq_error hmem
      exact exists_cause_of_lt (past d (List.mem_map_of_mem hmem)) hday
    left := hleft
    repaired := by
      intro hnone now' hday
      refine runRepair_of_nil ((staleDays_congr hday).trans (hleft.trans ?_))
      rw [Pass.failedDays, hnone]
      simp }

/-- **A pass and a repair converge.**  A pass attempts yesterday first and the other
stale days after it, a repair the stale days, the oldest first. -/
theorem pass_converges (s : Store) (now : Instant) (lookback : ℕ) {yesterday : Day}
    {stale : List Day} (years : ∀ f ∈ s.factList, f.time.FourDigit)
    (hyesterday : now.day.pred? = some yesterday)
    (hstale : s.staleDays now lookback = .ok stale) :
    stale.Pairwise (· < ·) ∧
      s.Converged now lookback stale (yesterday :: stale.filter (· ≠ yesterday))
        (s.runPass now lookback).1 (s.runPass now lookback).2 ∧
      s.Converged now lookback stale stale
        (s.runRepair now lookback).1 (s.runRepair now lookback).2 := by
  obtain ⟨-, -, hstarts⟩ := (staleDays_eq_ok_iff years).mp hstale
  have hsorted := pairwise_of_map_midnight_eq hstarts
  have hpast : ∀ d ∈ stale, d < now.day := fun d hd =>
    ((mem_of_map_midnight_eq hstarts).mp hd).2.1
  refine ⟨hsorted, ?_, ?_⟩
  · rw [runPass, passDays_eq hyesterday hstale]
    refine converged_compactEach years hstale ?_ ?_ ?_
    · exact List.nodup_cons.mpr ⟨by simp, hsorted.nodup.filter _⟩
    · intro d hd
      by_cases heq : d = yesterday
      · rw [heq]
        exact List.mem_cons_self
      · exact List.mem_cons_of_mem _ (List.mem_filter.mpr ⟨hd, by simpa using heq⟩)
    · intro d hd
      rcases List.mem_cons.mp hd with rfl | hd
      · rw [Day.lt_iff, Day.number_of_pred? hyesterday]
        omega
      · exact hpast d (List.mem_of_mem_filter hd)
  · rw [runRepair_eq, repairDays_eq hstale]
    exact converged_compactEach years hstale hsorted.nodup (fun _ => id) hpast

theorem fourDigit_twoVisitors : ∀ f ∈ twoVisitors.factList, f.time.FourDigit := by
  decide

theorem staleDays_twoVisitors :
    twoVisitors.staleDays (.midnight (sampleDay 3)) 7 = .ok [sampleDay 0] := by
  have storable : (Instant.midnight (sampleDay 3)).day.Storable := by decide
  refine (staleDays_eq_ok_iff fourDigit_twoVisitors).mpr
    ⟨⟨rfl, rfl⟩, fun refused => refused.1 storable, ?_⟩
  have hdistinct : distinct ((twoVisitors.factsAmong ((sampleDay 3).back 7) (sampleDay 3)).map
      (·.time.truncate .day)) = [.midnight (sampleDay 0)] := by decide
  rw [Instant.day_midnight, staleStarts, daysOf, hdistinct, List.mergeSort_singleton]
  decide

/-- Three days later, a pass compacts the day of the two visitors after the day
before. -/
theorem converged_twoVisitors :
    twoVisitors.Converged (.midnight (sampleDay 3)) 7 [sampleDay 0] [sampleDay 2, sampleDay 0]
      (twoVisitors.runPass (.midnight (sampleDay 3)) 7).1
      (twoVisitors.runPass (.midnight (sampleDay 3)) 7).2 := by
  have hyesterday : (Instant.midnight (sampleDay 3)).day.pred? = some (sampleDay 2) := by decide
  exact (pass_converges twoVisitors _ 7 fourDigit_twoVisitors hyesterday staleDays_twoVisitors).2.1

end Store

end Footfall
