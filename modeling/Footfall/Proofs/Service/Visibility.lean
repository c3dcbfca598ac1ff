import Mathlib
import Footfall.Proofs.Service.Counters
import Footfall.Proofs.Stats.OneMore
import Footfall.Proofs.Visit.Outcome

/-!
# Accepted events are visible

An event request that is accepted has left one fact, and the statistics read it from the
next query on.  Between the two stand the checks of the payload, the resolution of nine
dimensions, the cut to microseconds and the midnight at which ranges are split.  None of
them loses the fact or counts it twice: whatever could not be resolved, the fact is there
for the site of the payload, with the time of the clock.

## Main Definitions

* `Store.Reveals` — one more pageview is counted by every range that covers an instant,
  and nothing else changes

## Main Statements

* `Store.gains_of_record` — a record call that succeeds has left one more fact
* `Service.accepted_event_visible` — so has an event request that is accepted, and the
  answers reveal it
-/

namespace Footfall

/-! ## From the writer to the answers -/

namespace Store

variable {s s' : Store}

/-- **The answers reveal one more view** of a site at an instant, and nothing else. -/
structure Reveals (s s' : Store) (site : String) (t : Instant) : Prop where
  /-- A range that holds the instant covers it. -/
  covers : ∀ start stop, start ≤ t → t ≤ stop → start ≤ stop ∧ Span.Covers ⟨start, stop⟩ t
  /-- A range that covers the instant counts one more on the day of the instant. -/
  seen : ∀ start stop now, start ≤ stop → start.FourDigit → stop.FourDigit →
    Span.Covers ⟨start, stop⟩ t → now.day = t.day → s.CountsOneMore s' site start stop now t
  /-- A range that does not is answered as before, if the store takes it. -/
  unseen : ∀ start stop now, Span.Storable ⟨start, stop⟩ → ¬ Span.Covers ⟨start, stop⟩ t →
    s.CountsSame s' site start stop now
  /-- So are all ranges of another site. -/
  others : ∀ other start stop now, other ≠ site → s.CountsSame s' other start stop now

/-- One more fact is revealed. -/
theorem Gains.reveals {f : Fact} {t : Instant} (h : s.Gains s' f t)
    (answerable : s'.factList.length < 2 ^ 63 → s'.Answerable) : s.Reveals s' f.site t where
  covers _ _ hstart hstop := ⟨Int.le_trans hstart hstop, .of_le hstart hstop⟩
  seen _ _ _ order hstart hstop covers htoday :=
    h.countsOneMore order hstart hstop htoday covers answerable
  unseen _ _ _ storable hidden := h.countsSame fun _ => ⟨storable, hidden⟩
  others _ _ _ _ hne := h.countsSame fun hsite => absurd hsite.symm hne

/-- **A record call that succeeds has left one more fact**, of the site and at the time of the
visit. -/
theorem gains_of_record (c : s.Complete) (sound : s.Referential) {v : Visit} {now : Instant}
    {o : Outcome} (h : s.record v.event v.attributes v.policy now = (s', .ok o)) :
    s.Gains s' o.fact (v.time now) ∧ o.fact.site = v.event.site := by
  have hrecords := s.records v now
  have hrollups := s.record_fst_eq v.event v.attributes v.policy now
  rw [h] at hrecords hrollups
  cases hrecords with
  | kept storable time before after =>
      obtain rfl := Slot.table.inj (before.symm.trans c.facts)
      obtain ⟨-, r, -, -, rfl⟩ := record_eq_ok c sound h
      have hdaily : s'.daily = (s'.withRollupsOf s).daily := congrArg Store.daily hrollups
      exact ⟨⟨c.facts, after, hdaily, storable, rfl⟩, rfl⟩

end Store

/-! ## From the request to the writer -/

namespace Service

variable {v w : Service} {now : Instant} {r : Request} {status : ℕ}

/-- An accepted request is one whose event the writer kept. -/
theorem Ingests.exists_kept (h : v.Ingests now r w status) (accepted : status = 202) :
    ∃ p s' o, v.admitted? r = some p ∧ v.write now r p = (s', .ok o) ∧ w.store = s' := by
  cases h with
  | unread read mem => exact absurd (accepted ▸ mem) (by decide)
  | malformed read h => cases accepted
  | foreign read wellFormed h => cases accepted
  | kept admitted write appends => exact ⟨_, _, _, admitted, write, rfl⟩
  | rejected admitted write same mem => exact absurd (accepted ▸ mem) (by decide)

/-- **An accepted event is visible at once.**  Its site may be asked for, its fact has the time
of the clock, and the answers reveal it. -/
theorem accepted_event_visible (ops : List Operation) (v : Service)
    (reached : v.store = Store.migrated.perform ops) (t : Instant) (r : Request)
    (posts : r.Posts .event) (a : Response) (answered : (v.handle t r).2 = some a)
    (accepted : a.status = 202) :
    ∃ p f, r.payload = .ok p ∧ checkSite p.site = .ok () ∧
      v.store.Appends (v.handle t r).1.store [f] ∧ f.site = p.site ∧ f.time = t.toTimestamp ∧
      v.store.Reveals (v.handle t r).1.store p.site t := by
  obtain ⟨b, hb, hingests⟩ := v.ingests t posts
  obtain rfl : b = a := Option.some.inj (hb.symm.trans answered)
  obtain ⟨p, s', o, admitted, write, hstore⟩ := hingests.exists_kept accepted
  obtain ⟨read, wellFormed, -⟩ := admitted?_eq_some_iff.mp admitted
  obtain ⟨-, hcheck⟩ := (checkSite_cases p.site).resolve_right fun h => h.1 wellFormed.site
  -- the writer is called on a reachable store, and leaves one
  have hbalanced : v.store.Complete ∧ v.store.Referential := by
    rw [reached, Store.perform, ← Account.store_run_opening]
    exact ⟨(Account.balanced_run _).complete, (Account.balanced_run _).referential⟩
  obtain ⟨hgains, hsite⟩ := Store.gains_of_record (v := v.visit r p) hbalanced.1 hbalanced.2 write
  have hrun : s' = Store.migrated.runAll
      (Store.migrated.trace ops ++ [.record (v.visit r p) t]) := by
    have hstep : s' = (Action.record (v.visit r p) t).run v.store := (congrArg Prod.fst write).symm
    rw [hstep, reached, Store.perform, Store.runAll, Store.runAll, List.foldl_append]
    rfl
  have hreveals := hgains.reveals (by rw [hrun]; exact Store.answerable_runAll)
  rw [hstore]
  refine ⟨p, o.fact, read, hcheck, .rows hgains.before hgains.after, hsite, hgains.time, ?_⟩
  rw [show p.site = o.fact.site from hsite.symm]
  exact hreveals

/-- A view of the home page is visible at once. -/
theorem homeEvent_visible :
    freshService.store = Store.migrated.perform [] ∧ homeEvent.Posts .event ∧
      ∃ a, (freshService.handle (.midnight (sampleDay 0)) homeEvent).2 = some a ∧ a.status = 202 ∧
        ∃ p f, homeEvent.payload = .ok p ∧ checkSite p.site = .ok () ∧
          freshService.store.Appends
            (freshService.handle (.midnight (sampleDay 0)) homeEvent).1.store [f] ∧
          f.site = p.site ∧ f.time = (Instant.midnight (sampleDay 0)).toTimestamp ∧
          freshService.store.Reveals
            (freshService.handle (.midnight (sampleDay 0)) homeEvent).1.store p.site
            (.midnight (sampleDay 0)) := by
  have hstatus : (freshService.handle (.midnight (sampleDay 0)) homeEvent).2.map (·.status) =
      some 202 := by
    decide +kernel
  obtain ⟨a, ha, haccepted⟩ := Option.map_eq_some_iff.mp hstatus
  exact ⟨rfl, by decide, a, ha, haccepted, accepted_event_visible [] freshService rfl
    (.midnight (sampleDay 0)) homeEvent (by decide) a ha haccepted⟩

end Service

end Footfall
