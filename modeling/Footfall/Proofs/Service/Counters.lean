import Mathlib
import Footfall.Proofs.Rollup.Convergence
import Footfall.Proofs.Service.Ingestion

/-!
# The counters add up

The counters are bumped after the store was called, in three places.  They are
compared here with a ledger that knows nothing of them: it lists what the writer
answered to each event that reached it, and how each attempt at compacting a day
ended.

Requests and repairs may follow each other in any way.  A request may be of any
kind; only events and compactions leave an entry.

A counter is a word of 64 bits, so it tells how much was counted up to multiples of `2 ^ 64`,
and exactly until it has passed its last value.

## Main Definitions

* `Turn` — a request or the repair pass of a start
* `Service.run` — the service after some turns
* `Store.attempts` — how the attempts at some days end
* `Ledger` — what the writer answered, and the attempts at days
* `GrewBy` — a counter grew by a number
* `Service.entry`, `Service.ledger` — the ledger of a turn, and of some turns
* `Service.Balances` — facts and counters grew by what a ledger says

## Main Statements

* `Service.balances_step` — every turn balances with its entry
* `Service.balances_run` — so do all turns together
* `Service.counters_add_up` — this, and what the status of an event request tells
-/

namespace Footfall

/-! ## Attempts -/

/-- How the attempts at some days end, one after another. -/
def Store.attempts (now : Instant) : Store → List Day → List Attempt
  | _, [] => []
  | s, d :: days =>
    (d, (s.compactInTransaction d now).2) :: attempts now (s.compactInTransaction d now).1 days

/-- A repair attempts days that are over. -/
theorem Store.lt_of_mem_repairDays {s : Store} {d : Day} {now : Instant} {lookback : ℕ}
    (mem : d ∈ s.repairDays now lookback) : d < now.day := by
  unfold repairDays at mem
  cases hstale : s.staleDays now lookback with
  | ok stale =>
      rw [hstale] at mem
      exact lt_of_mem_staleDays hstale mem
  | error e =>
      rw [hstale] at mem
      cases mem

/-- An attempt failed, and not because its day is not over. -/
def Attempt.isFault (a : Attempt) : Bool :=
  match a.2 with
  | .ok _ => false
  | .error e => !e.isInvalidInput

namespace Attempted

variable {now : Instant} {s s' : Store} {attempts : List Attempt}

/-- How attempts end is told by the store and their days. -/
theorem eq_attempts (h : Attempted now s attempts s') :
    s.attempts now (attempts.map (·.1)) = attempts := by
  induction h with
  | nil => rfl
  | compacted h later ih =>
      simp only [List.map_cons, Store.attempts, Store.compactInTransaction_of_ok h, ih]
  | failed h later ih =>
      simp only [List.map_cons, Store.attempts, Store.compactInTransaction_of_error h, ih]

/-- At days that are over, only the store fails. -/
theorem isFault_eq (h : Attempted now s attempts s') (past : ∀ a ∈ attempts, a.1 < now.day)
    {a : Attempt} (mem : a ∈ attempts) : a.isFault = !a.2.isOk := by
  obtain ⟨d, answer⟩ := a
  cases answer with
  | ok r => rfl
  | error e =>
      obtain ⟨s₀, hday⟩ := h.exists_compactDay_eq_error mem
      obtain ⟨cause, hcause⟩ := Store.exists_cause_of_lt (past _ mem) hday
      rw [hcause]
      rfl

end Attempted

namespace Pass

theorem length_compacted_of (attempts : List Attempt) :
    (of attempts).compacted.length = attempts.countP (·.2.isOk) := by
  rw [of, List.length_filterMap_eq_countP]
  refine List.countP_congr fun a _ => ?_
  obtain ⟨d, answer⟩ := a
  cases answer <;> rfl

theorem length_failed_of (attempts : List Attempt) :
    (of attempts).failed.length = attempts.countP (!·.2.isOk) := by
  rw [of, List.length_filterMap_eq_countP]
  refine List.countP_congr fun a _ => ?_
  obtain ⟨d, answer⟩ := a
  cases answer <;> rfl

end Pass

/-! ## Ledgers -/

/-- What the writer answered to the events that reached it, and how the attempts at
days ended. -/
structure Ledger where
  /-- The answers of the writer. -/
  writes : List (Except StatsError Outcome) := []
  /-- The attempts. -/
  attempts : List Attempt := []

namespace Ledger

instance : Append Ledger :=
  ⟨fun l l' => ⟨l.writes ++ l'.writes, l.attempts ++ l'.attempts⟩⟩

variable {l l' : Ledger}

@[simp] theorem writes_append : (l ++ l').writes = l.writes ++ l'.writes := rfl

@[simp] theorem attempts_append : (l ++ l').attempts = l.attempts ++ l'.attempts := rfl

/-- What became of the events that were kept. -/
def kept (l : Ledger) : List Outcome :=
  l.writes.filterMap Except.toOption

/-- Their facts. -/
def facts (l : Ledger) : List Fact :=
  l.kept.map Outcome.fact

@[simp] theorem kept_append : (l ++ l').kept = l.kept ++ l'.kept :=
  List.filterMap_append

@[simp] theorem facts_append : (l ++ l').facts = l.facts ++ l'.facts := by
  rw [facts, kept_append, List.map_append]
  rfl

end Ledger

/-! ## Counters of 64 bits -/

/-- **A counter grew by a number**, starting again from zero after its last value. -/
def GrewBy (before after : UInt64) (n : ℕ) : Prop :=
  after.toNat = (before.toNat + n) % 2 ^ 64

namespace GrewBy

variable {a b c : UInt64} {m n : ℕ}

theorem refl (c : UInt64) : GrewBy c c 0 :=
  (Nat.mod_eq_of_lt c.toNat_lt).symm

theorem add (c : UInt64) (n : ℕ) : GrewBy c (c + n.toUInt64) n := by
  rw [GrewBy, UInt64.toNat_add, Nat.toUInt64_eq, UInt64.toNat_ofNat', Nat.add_mod_mod]

theorem trans (h : GrewBy a b m) (h' : GrewBy b c n) : GrewBy a c (m + n) := by
  rw [GrewBy] at h h' ⊢
  rw [h', h, Nat.mod_add_mod, Nat.add_assoc]

/-- What still fits into the counter is counted exactly. -/
theorem toNat_eq (h : GrewBy a b n) (fits : a.toNat + n < 2 ^ 64) : b.toNat = a.toNat + n :=
  Eq.trans h (Nat.mod_eq_of_lt fits)

end GrewBy

/-- A request, or the repair pass of a start. -/
inductive Turn where
  /-- A request. -/
  | request (now : Instant) (r : Request)
  /-- The repair pass. -/
  | repair (now : Instant) (lookback : ℕ)

namespace Service

/-- The service after a turn. -/
def step (v : Service) : Turn → Service
  | .request now r => (v.handle now r).1
  | .repair now lookback => v.repair now lookback

/-- The service after some turns. -/
def run (v : Service) (turns : List Turn) : Service :=
  turns.foldl step v

/-- The answer of the writer to an event request, if the event reaches it. -/
def writesOf (v : Service) (now : Instant) (r : Request) : List (Except StatsError Outcome) :=
  (v.admitted? r).toList.map fun p => (v.write now r p).2

/-- The attempt of a compaction request, if it names a day. -/
def attemptsOf (v : Service) (now : Instant) (r : Request) : List Attempt :=
  match CompactParams.read r with
  | .ok (_, day) => v.store.attempts now [day]
  | .error _ => []

/-- The ledger of a turn. -/
def entry (v : Service) : Turn → Ledger
  | .request now r =>
    { writes := if r.Posts .event then v.writesOf now r else []
      attempts := if r.Posts .compact then v.attemptsOf now r else [] }
  | .repair now lookback =>
    { attempts := v.store.attempts now (v.store.repairDays now lookback) }

/-- The ledger of some turns. -/
def ledger (v : Service) : List Turn → Ledger
  | [] => {}
  | t :: turns => v.entry t ++ (v.step t).ledger turns

/-- **Facts and counters grew by what a ledger says.** -/
structure Balances (v w : Service) (l : Ledger) : Prop where
  /-- The facts of the ledger were appended. -/
  facts : v.store.Appends w.store l.facts
  /-- Each of them was counted. -/
  recorded : GrewBy v.counters.recorded w.counters.recorded l.facts.length
  /-- So was each that lacks a dimension. -/
  incomplete : GrewBy v.counters.incomplete w.counters.incomplete
    (l.kept.countP fun o => o.unresolved ≠ [])
  /-- And each call of the writer that failed. -/
  rejected : GrewBy v.counters.rejected w.counters.rejected (l.writes.countP (!·.isOk))
  /-- Each day that was compacted was counted. -/
  compactions : GrewBy v.counters.compactions w.counters.compactions
    (l.attempts.countP (·.2.isOk))
  /-- So was each that failed, unless it was not over. -/
  compactionFailures : GrewBy v.counters.compactionFailures w.counters.compactionFailures
    (l.attempts.countP Attempt.isFault)

variable {v w x : Service} {now : Instant} {r : Request} {l l' : Ledger}

theorem Balances.refl (v : Service) : v.Balances v {} where
  facts := .nothing rfl
  recorded := .refl _
  incomplete := .refl _
  rejected := .refl _
  compactions := .refl _
  compactionFailures := .refl _

theorem Balances.append (h : v.Balances w l) (h' : w.Balances x l') : v.Balances x (l ++ l') where
  facts := by
    rw [Ledger.facts_append]
    exact h.facts.trans h'.facts
  recorded := by
    rw [Ledger.facts_append, List.length_append]
    exact h.recorded.trans h'.recorded
  incomplete := by
    rw [Ledger.kept_append, List.countP_append]
    exact h.incomplete.trans h'.incomplete
  rejected := by
    rw [Ledger.writes_append, List.countP_append]
    exact h.rejected.trans h'.rejected
  compactions := by
    rw [Ledger.attempts_append, List.countP_append]
    exact h.compactions.trans h'.compactions
  compactionFailures := by
    rw [Ledger.attempts_append, List.countP_append]
    exact h.compactionFailures.trans h'.compactionFailures

/-! ## One turn -/

/-- An event request balances with what the writer answered. -/
theorem Ingests.balances {status : ℕ} (h : v.Ingests now r w status) :
    v.Balances w { writes := v.writesOf now r } := by
  cases h with
  | unread read =>
      have hnone : v.admitted? r = none := by simp [admitted?, read, Except.toOption]
      rw [writesOf, hnone]
      exact .refl v
  | malformed read h =>
      have hnone : v.admitted? r = none := by simp [admitted?, read, Except.toOption, h]
      rw [writesOf, hnone]
      exact .refl v
  | foreign read wellFormed h =>
      have hnone : v.admitted? r = none := by simp [admitted?, read, Except.toOption, h]
      rw [writesOf, hnone]
      exact .refl v
  | @kept p s' o admitted write appends =>
      rw [writesOf, admitted, Option.toList_some, List.map_singleton, write]
      refine ⟨appends, .add _ 1, ?_, .refl _, .refl _, .refl _⟩
      cases hmissed : o.unresolved with
      | nil =>
          simp [Ledger.kept, countRecorded, Outcome.complete, Except.toOption, hmissed, GrewBy.refl]
      | cons missed more =>
          have hcount : ([o].countP fun o => o.unresolved ≠ []) = 1 := by simp [hmissed]
          have hcomplete : o.complete = false := by simp [Outcome.complete, hmissed]
          rw [countRecorded, hcomplete]
          exact hcount.symm ▸ .add _ 1
  | rejected admitted write same mem =>
      rw [writesOf, admitted, Option.toList_some, List.map_singleton, write]
      exact ⟨.nothing same, .refl _, .refl _, .add _ 1, .refl _, .refl _⟩

/-- Attempts of which none is refused are counted as a pass. -/
theorem balances_countPass (v : Service) {s' : Store} (hfacts : s'.facts = v.store.facts)
    (attempts : List Attempt)
    (faults : attempts.countP (!·.2.isOk) = attempts.countP Attempt.isFault) :
    v.Balances ({ v with store := s' }.countPass (.of attempts)) { attempts := attempts } := by
  refine ⟨.nothing hfacts, .refl _, .refl _, .refl _, ?_, ?_⟩
  · rw [countPass, Pass.length_compacted_of]
    exact .add _ _
  · rw [countPass, Pass.length_failed_of, faults]
    exact .add _ _

/-- A compaction request balances with its attempt. -/
theorem balances_compact (v : Service) (now : Instant) (r : Request) :
    v.Balances (v.compact now r).1 { attempts := v.attemptsOf now r } := by
  unfold compact attemptsOf
  cases hread : CompactParams.read r with
  | error refusal => exact .refl v
  | ok params =>
      obtain ⟨params, day⟩ := params
      dsimp only
      cases hday : v.store.compactDay day now with
      | ok result =>
          obtain ⟨s', report⟩ := result
          obtain ⟨-, -, hstore, -⟩ := Store.compactDay_eq_ok_iff.mp hday
          simp only [Store.attempts, Store.compactInTransaction_of_ok hday]
          have hfacts : s'.facts = v.store.facts := by
            rw [hstore]
            rfl
          exact v.balances_countPass hfacts [(day, .ok report)] rfl
      | error e =>
          simp only [Store.attempts, Store.compactInTransaction_of_error hday]
          cases e with
          | invalidInput fault =>
              exact ⟨.nothing rfl, .refl _, .refl _, .refl _, .refl _, .refl _⟩
          | _ => exact v.balances_countPass rfl [(day, .error _)] rfl

/-- The repair pass balances with its attempts. -/
theorem balances_repair (v : Service) (now : Instant) (lookback : ℕ) :
    v.Balances (v.repair now lookback)
      { attempts := v.store.attempts now (v.store.repairDays now lookback) } := by
  obtain ⟨attempts, hdays, hattempted, hpass⟩ :=
    v.store.exists_attempted (v.store.repairDays now lookback) now
  have heq := hattempted.eq_attempts
  rw [hdays] at heq
  -- the scan finds days that are over, so none is refused
  have hpast : ∀ a ∈ attempts, a.1 < now.day := by
    intro a ha
    exact Store.lt_of_mem_repairDays (hdays ▸ List.mem_map_of_mem ha)
  have hfaults : attempts.countP (!·.2.isOk) = attempts.countP Attempt.isFault :=
    List.countP_congr fun a ha => by rw [hattempted.isFault_eq hpast ha]
  unfold repair
  rw [Store.runRepair_eq, heq]
  generalize v.store.compactEach (v.store.repairDays now lookback) now = result at *
  obtain ⟨s', p⟩ := result
  dsimp only at hpass hattempted ⊢
  subst hpass
  exact v.balances_countPass hattempted.facts attempts hfaults

/-- **Every turn balances with its entry.** -/
theorem balances_step (v : Service) (t : Turn) : v.Balances (v.step t) (v.entry t) := by
  cases t with
  | repair now lookback => exact v.balances_repair now lookback
  | request now r =>
      by_cases hevent : r.Posts .event
      · obtain ⟨a, -, hingests⟩ := v.ingests now hevent
        have hother : ¬ r.Posts .compact := fun h => nomatch hevent.unique h
        rw [entry, if_pos hevent, if_neg hother]
        exact hingests.balances
      by_cases hcompact : r.Posts .compact
      · rw [entry, if_neg hevent, if_pos hcompact, step, (v.handle_of_posts now rfl hcompact).1]
        exact v.balances_compact now r
      · rw [entry, if_neg hevent, if_neg hcompact, step,
          handle_fst_of_not_posts hevent hcompact]
        exact .refl v

/-! ## Many turns -/

/-- **All turns together balance with their ledger.** -/
theorem balances_run (v : Service) (turns : List Turn) :
    v.Balances (v.run turns) (v.ledger turns) := by
  induction turns generalizing v with
  | nil => exact .refl v
  | cons t turns ih => exact (v.balances_step t).append (ih (v.step t))

/-- **The counters add up**, whatever the service and its store are.  The status of an
event request tells whether its fact was appended, and what is refused before the
writer changes nothing. -/
theorem counters_add_up (v : Service) :
    (∀ now r, r.Posts .event → ∃ a, (v.handle now r).2 = some a ∧
        v.AccountsFor now r (v.handle now r).1 a.status) ∧
      ∀ turns, v.Balances (v.run turns) (v.ledger turns) := by
  refine ⟨fun now r h => ?_, v.balances_run⟩
  obtain ⟨a, ha, hingests⟩ := v.ingests now h
  exact ⟨a, ha, hingests.accountsFor⟩

end Service

/-! ## A sample start -/

/-- A service on a freshly migrated store, which keeps events of every site. -/
def freshService : Service where
  store := .migrated
  enricher := fun _ _ => {}
  allowedSites := []
  policy := .record
  geoLoaded := false
  counters := {}

/-- A view of the home page of a site. -/
def homeEvent : Request :=
  ⟨"POST", "/api/event", [("content-type", "application/json")],
    "\x7b\"d\":\"example.com\",\"u\":\"/\"\x7d"⟩

/-- The same without an address. -/
def emptyEvent : Request :=
  { homeEvent with body := "\x7b\"d\":\"example.com\",\"u\":\"\"\x7d" }

/-- The compaction of the first sample day. -/
def dayRequest : Request :=
  ⟨"POST", "/api/compact?day=2024-01-15", [], ""⟩

/-- A first day with a view, a request without an address and a compaction that comes
too early, which is made up for on the next day, and a start after a late view. -/
def firstDays : List Turn := [
  .request (.midnight (sampleDay 0)) homeEvent,
  .request (.midnight (sampleDay 0)) emptyEvent,
  .request (.midnight (sampleDay 0)) dayRequest,
  .request (.midnight (sampleDay 1)) dayRequest,
  .request (.midnight (sampleDay 0)) homeEvent,
  .repair (.midnight (sampleDay 1)) 7]

/-- Two views and two compactions are counted.  Neither the request without an address
nor the compaction that comes too early is counted as a failure. -/
theorem counters_add_up_in_firstDays :
    (∃ a, (freshService.handle (.midnight (sampleDay 0)) homeEvent).2 = some a ∧ a.status = 202 ∧
        ∃ f, freshService.store.Appends
          (freshService.handle (.midnight (sampleDay 0)) homeEvent).1.store [f]) ∧
      (freshService.run firstDays).counters.recorded = 2 ∧
      (freshService.run firstDays).counters.rejected = 0 ∧
      (freshService.run firstDays).counters.compactions = 2 ∧
      (freshService.run firstDays).counters.compactionFailures = 0 := by
  obtain ⟨hrequests, hturns⟩ := freshService.counters_add_up
  obtain ⟨a, ha, haccount⟩ := hrequests (.midnight (sampleDay 0)) homeEvent (by decide)
  have hstatus : (freshService.handle (.midnight (sampleDay 0)) homeEvent).2.map (·.status) =
      some 202 := by
    decide +kernel
  have haccepted : a.status = 202 := by
    rw [ha] at hstatus
    exact Option.some.inj hstatus
  refine ⟨⟨a, ha, haccepted, haccount.accepted_iff.mp haccepted⟩, ?_⟩
  obtain ⟨-, hrecorded, -, hrejected, hcompactions, hfailures⟩ := hturns firstDays
  simp only [← UInt64.toNat_inj]
  rw [hrecorded.toNat_eq (by decide +kernel), hrejected.toNat_eq (by decide +kernel),
    hcompactions.toNat_eq (by decide +kernel), hfailures.toNat_eq (by decide +kernel)]
  decide +kernel

end Footfall
