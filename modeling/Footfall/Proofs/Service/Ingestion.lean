import Mathlib
import Footfall.Proofs.Visit.Footprint
import Footfall.Service.Routes

/-!
# What an event request comes to

An event request is read, checked and written, in this order.  What is refused
before the writer leaves the service as it was.  A call of the writer answers an
outcome and has appended the fact of it, or answers an error and has appended
nothing; the one is counted as recorded, the other as rejected.

Nothing is asked of the service.  Tables may be missing in its store, and its
enricher may answer anything.

## Main Definitions

* `Request.Posts` — a request is sent to an endpoint by `POST`
* `Payload.Malformed` — a field is empty, too long or no site
* `Service.admitted?` — the payload of a request that reaches the writer
* `Service.write` — the call of the writer
* `Store.Appends` — a store has the facts of an earlier one, and some more
* `Service.Ingests` — what becomes of an event request
* `Service.AccountsFor` — what its status code tells

## Main Statements

* `Service.handle_of_posts`, `Service.handle_fst_of_not_posts` — requests lead to
  the endpoint that they name, and only two of them change the service
* `Service.ingests` — what becomes of an event request
* `Service.Ingests.accountsFor` — one is accepted exactly if it appended a fact
-/

namespace Footfall

/-! ## Ways of a request -/

/-- A request is sent to an endpoint by `POST`. -/
def Request.Posts (r : Request) (e : Endpoint) : Prop :=
  r.method = "POST" ∧ r.path = e.path

instance (r : Request) (e : Endpoint) : Decidable (r.Posts e) :=
  inferInstanceAs (Decidable (_ ∧ _))

namespace Endpoint

theorem ofPath?_path (e : Endpoint) : ofPath? e.path = some e := by
  cases e <;> rfl

theorem path_of_ofPath? {path : String} {e : Endpoint} (h : ofPath? path = some e) :
    path = e.path := by
  have hpath := List.find?_some h
  rw [beq_iff_eq] at hpath
  exact hpath.symm

/-- An endpoint that changes the service takes `POST` and nothing else. -/
theorem takes_iff {e : Endpoint} (post : e.takesPost = true) {method : String} :
    e.takes method = true ↔ method = "POST" := by
  simp [takes, Endpoint.method, post]

end Endpoint

theorem Request.Posts.unique {r : Request} {e e' : Endpoint} (h : r.Posts e) (h' : r.Posts e') :
    e = e' := by
  have hsome : some e = some e' := by
    rw [← Endpoint.ofPath?_path e, ← Endpoint.ofPath?_path e', ← h.2, ← h'.2]
  exact Option.some.inj hsome

/-- The status code of an answer or a refusal, if there is an answer at all. -/
def statusOf? : Except Refusal Response → Option ℕ
  | .ok a => some a.status
  | .error refusal => refusal.response?.map (·.status)

/-- No header that the service adds changes the status. -/
theorem Endpoint.status_withHeaders (e : Endpoint) (a : Response) :
    ((if e.isShared then a.withHeaders originHeaders else a).withHeaders securityHeaders).status =
      a.status := by
  split <;> rfl

namespace Service

variable {v : Service} {now : Instant} {r : Request}

/-- **A request that is sent to an endpoint is answered by it.** -/
theorem handle_of_posts (v : Service) (now : Instant) {e : Endpoint}
    (post : e.takesPost = true) (h : r.Posts e) :
    (v.handle now r).1 = (v.perform now r e).1 ∧
      (v.handle now r).2.map (·.status) = statusOf? (v.perform now r e).2 := by
  have htakes : e.takes r.method = true := (Endpoint.takes_iff post).mpr h.1
  have hoptions : (e.isShared && r.method == "OPTIONS") = false := by
    simp [h.1]
  have hhead : (r.method == "HEAD") = false := by
    rw [h.1]
    rfl
  unfold handle dispatch respond
  rw [h.2, Endpoint.ofPath?_path]
  dsimp only
  rw [hoptions, htakes, hhead]
  generalize v.perform now r e = result
  obtain ⟨w, answer⟩ := result
  refine ⟨rfl, ?_⟩
  simp only [Bool.false_eq_true, if_false, if_true, Option.map_map, Function.comp_def,
    Endpoint.status_withHeaders]
  cases answer <;> rfl

/-- **Only events and compactions change the service.** -/
theorem handle_fst_of_not_posts (event : ¬ r.Posts .event) (compact : ¬ r.Posts .compact) :
    (v.handle now r).1 = v := by
  unfold handle dispatch respond
  split
  · rfl
  next e he =>
  have hpath := Endpoint.path_of_ofPath? he
  dsimp only
  split
  · rfl
  split
  · next htakes =>
    cases e with
    | event => exact absurd ⟨(Endpoint.takes_iff rfl).mp htakes, hpath⟩ event
    | compact => exact absurd ⟨(Endpoint.takes_iff rfl).mp htakes, hpath⟩ compact
    | _ => rfl
  · rfl

end Service

/-! ## Requests that are refused -/

/-- The statuses of a request whose payload cannot be read. -/
def extractorStatuses : List ℕ :=
  [400, 413, 415, 422]

theorem Request.status_of_payload_eq_error {r : Request} {refusal : Refusal}
    (h : r.payload = .error refusal) :
    ∃ status reason, refusal = .form status reason ∧ status ∈ extractorStatuses := by
  unfold payload at h
  split at h
  · cases h
    exact ⟨_, _, rfl, by decide⟩
  split at h
  · cases h
    exact ⟨_, _, rfl, by decide⟩
  split at h
  · cases h
  all_goals
    cases h
    exact ⟨_, _, rfl, by decide⟩

/-- A text may name a site. -/
def IsSite (site : String) : Prop :=
  site ≠ "" ∧ site.utf8ByteSize ≤ maxSiteLength ∧ site.toList.all isSiteChar = true

instance (site : String) : Decidable (IsSite site) :=
  inferInstanceAs (Decidable (_ ∧ _))

/-- **No field of a payload is empty or too long**, and its site may be one. -/
structure Payload.WellFormed (p : Payload) : Prop where
  /-- The site may be one. -/
  site : IsSite p.site
  /-- There is an address. -/
  url_ne : p.url ≠ ""
  /-- It is not too long. -/
  url_le : p.url.utf8ByteSize ≤ maxAddressSize
  /-- Neither is the address of the page before. -/
  referrer_le : ∀ r ∈ p.referrer, r.utf8ByteSize ≤ maxAddressSize

theorem Payload.wellFormed_iff {p : Payload} :
    p.WellFormed ↔ IsSite p.site ∧ p.url ≠ "" ∧ p.url.utf8ByteSize ≤ maxAddressSize ∧
      ∀ r ∈ p.referrer, r.utf8ByteSize ≤ maxAddressSize :=
  ⟨fun h => ⟨h.site, h.url_ne, h.url_le, h.referrer_le⟩, fun ⟨h₁, h₂, h₃, h₄⟩ => ⟨h₁, h₂, h₃, h₄⟩⟩

instance (p : Payload) : Decidable p.WellFormed :=
  decidable_of_iff' _ p.wellFormed_iff

theorem checkSite_cases (site : String) :
    (IsSite site ∧ checkSite site = .ok ()) ∨
      ¬ IsSite site ∧ ∃ reason, checkSite site = .error (.badRequest reason) := by
  unfold checkSite
  split
  · next hempty =>
    exact .inr ⟨fun h => h.1 (String.isEmpty_iff.mp hempty), _, rfl⟩
  next hempty =>
  split
  · next hlong =>
    exact .inr ⟨fun h => absurd h.2.1 (by omega), _, rfl⟩
  next hlong =>
  split
  · next hchars =>
    refine .inr ⟨fun h => ?_, _, rfl⟩
    rw [h.2.2] at hchars
    cases hchars
  · next hchars =>
    rw [Bool.not_eq_true, Bool.not_eq_false'] at hchars
    exact .inl ⟨⟨fun h => hempty (String.isEmpty_iff.mpr h), by omega, hchars⟩, rfl⟩

namespace Service

variable {v : Service} {now : Instant} {r : Request} {p : Payload}

/-- **What is wrong with a payload comes before what the service serves.** -/
theorem checkPayload_cases (v : Service) (p : Payload) :
    (p.WellFormed ∧ v.acceptsSite p.site = true ∧ v.checkPayload p = .ok ()) ∨
      (p.WellFormed ∧ v.acceptsSite p.site = false ∧
        ∃ reason, v.checkPayload p = .error (.notFound reason)) ∨
      ¬ p.WellFormed ∧ ∃ reason, v.checkPayload p = .error (.badRequest reason) := by
  unfold checkPayload
  split
  · next hempty =>
    rw [Bool.or_eq_true, String.isEmpty_iff, String.isEmpty_iff] at hempty
    exact .inr (.inr ⟨fun h => hempty.elim h.site.1 h.url_ne, _, rfl⟩)
  next hempty =>
  rw [Bool.or_eq_true, String.isEmpty_iff, String.isEmpty_iff, not_or] at hempty
  split
  · next hlong =>
    refine .inr (.inr ⟨fun h => ?_, _, rfl⟩)
    rcases Bool.or_eq_true_iff.mp hlong with hlong | hlong
    · exact absurd h.url_le (by simpa using hlong)
    · cases hreferrer : p.referrer with
      | none => simp [hreferrer] at hlong
      | some referrer =>
          exact absurd (h.referrer_le referrer hreferrer) (by simpa [hreferrer] using hlong)
  next hshort =>
  rw [Bool.or_eq_true, not_or] at hshort
  rcases checkSite_cases p.site with ⟨hsite, hcheck⟩ | ⟨hsite, reason, hcheck⟩
  · have wellFormed : p.WellFormed :=
      { site := hsite
        url_ne := hempty.2
        url_le := by simpa using hshort.1
        referrer_le := by
          intro referrer hreferrer
          simpa [Option.mem_def.mp hreferrer] using hshort.2 }
    rw [hcheck]
    simp only [ok_bind]
    cases hserved : v.acceptsSite p.site with
    | true => exact .inl ⟨wellFormed, rfl, rfl⟩
    | false => exact .inr (.inl ⟨wellFormed, rfl, _, rfl⟩)
  · rw [hcheck]
    exact .inr (.inr ⟨fun h => hsite h.site, reason, rfl⟩)

/-! ## Calls of the writer -/

/-- **The payload of a request that reaches the writer.** -/
def admitted? (v : Service) (r : Request) : Option Payload :=
  r.payload.toOption.filter fun p => decide p.WellFormed && v.acceptsSite p.site

/-- The visit of which an event request tells. -/
def visit (v : Service) (r : Request) (p : Payload) : Visit :=
  let userAgent := (r.header? "user-agent").getD ""
  ⟨p.event r.client userAgent,
    (v.enricher r.client userAgent).withLanguage (r.header? "accept-language"), v.policy⟩

/-- The call of the writer for an event request. -/
def write (v : Service) (now : Instant) (r : Request) (p : Payload) :
    Store × Except StatsError Outcome :=
  v.store.record (v.visit r p).event (v.visit r p).attributes (v.visit r p).policy now

/-- What the writer answers is counted. -/
theorem recordPayload_eq : v.recordPayload now r p =
    match v.write now r p with
    | (s', .ok o) =>
      (({ v with store := s' } : Service).countRecorded o.complete, .ok (.bare 202))
    | (s', .error e) =>
      (({ v with store := s' } : Service).countRejected, .error (.ofError e)) := by
  simp only [recordPayload, write, visit]
  generalize v.store.record _ _ v.policy now = result
  obtain ⟨s', answer⟩ := result
  cases answer <;> rfl

end Service

/-- **A store has the facts of an earlier one and, after them, some more.** -/
inductive Store.Appends (s s' : Store) : List Fact → Prop where
  /-- There are no more, and there may be no table of facts. -/
  | nothing (same : s'.facts = s.facts) : Appends s s' []
  /-- They are rows of the table of facts. -/
  | rows {rows new : List Fact} (before : s.facts = .table rows)
      (after : s'.facts = .table (rows ++ new)) : Appends s s' new

namespace Store.Appends

variable {s s' s'' : Store} {new later : List Fact}

theorem trans (h : s.Appends s' new) (h' : s'.Appends s'' later) :
    s.Appends s'' (new ++ later) := by
  cases h with
  | nothing same =>
      rw [List.nil_append]
      cases h' with
      | nothing same' => exact .nothing (same'.trans same)
      | rows before after => exact .rows (same ▸ before) after
  | @rows rows _ before after =>
      cases h' with
      | nothing same' => exact .rows before (by rw [List.append_nil, same', after])
      | @rows rows' _ before' after' =>
          obtain rfl : rows' = rows ++ new := Slot.table.inj (before'.symm.trans after)
          exact .rows before (by rw [after', List.append_assoc])

/-- It is told by the two stores how many there are. -/
theorem ne_of_singleton {f : Fact} (h : s.Appends s' [f]) : s'.facts ≠ s.facts := by
  cases h with
  | rows before after =>
      rw [before, after, Ne, Slot.table.injEq, List.append_right_eq_self]
      exact List.cons_ne_nil _ _

end Store.Appends

/-- The statuses of a request whose event could not be written. -/
def writerStatuses : List ℕ :=
  [400, 500, 503]

namespace Service

variable {v w : Service} {now : Instant} {r : Request} {p : Payload} {status : ℕ}

/-- **What becomes of an event request**: the service after it, and the status of the
answer. -/
inductive Ingests (v : Service) (now : Instant) (r : Request) : Service → ℕ → Prop where
  /-- The payload could not be read. -/
  | unread {refusal : Refusal} {status : ℕ} (read : r.payload = .error refusal)
      (mem : status ∈ extractorStatuses) : Ingests v now r v status
  /-- Something is wrong with the payload. -/
  | malformed {p : Payload} (read : r.payload = .ok p) (h : ¬ p.WellFormed) :
      Ingests v now r v 400
  /-- The site is not served. -/
  | foreign {p : Payload} (read : r.payload = .ok p) (wellFormed : p.WellFormed)
      (h : v.acceptsSite p.site = false) : Ingests v now r v 404
  /-- The fact of the event was written. -/
  | kept {p : Payload} {s' : Store} {o : Outcome} (admitted : v.admitted? r = some p)
      (write : v.write now r p = (s', .ok o)) (appends : v.store.Appends s' [o.fact]) :
      Ingests v now r (({ v with store := s' } : Service).countRecorded o.complete) 202
  /-- It could not be written. -/
  | rejected {p : Payload} {s' : Store} {e : StatsError} {status : ℕ}
      (admitted : v.admitted? r = some p) (write : v.write now r p = (s', .error e))
      (same : s'.facts = v.store.facts) (mem : status ∈ writerStatuses) :
      Ingests v now r ({ v with store := s' } : Service).countRejected status

theorem admitted?_eq_some_iff : v.admitted? r = some p ↔
    r.payload = .ok p ∧ p.WellFormed ∧ v.acceptsSite p.site = true := by
  rw [admitted?, Option.filter_eq_some_iff, Bool.and_eq_true, decide_eq_true_eq]
  cases r.payload with
  | error refusal => simp [Except.toOption]
  | ok payload => simp [Except.toOption]

theorem ingests_recordPayload (now : Instant) (admitted : v.admitted? r = some p) :
    ∃ status, statusOf? (v.recordPayload now r p).2 = some status ∧
      v.Ingests now r (v.recordPayload now r p).1 status := by
  have hrecords : v.store.Records (v.visit r p) now (v.write now r p) := v.store.records _ now
  rw [recordPayload_eq]
  generalize hwrite : v.write now r p = result at hrecords
  cases hrecords with
  | refused fault => exact ⟨400, rfl, .rejected admitted hwrite rfl (by decide)⟩
  | dropped same d reason => exact ⟨503, rfl, .rejected admitted hwrite same (by decide)⟩
  | failed same cause => exact ⟨500, rfl, .rejected admitted hwrite same (by decide)⟩
  | kept storable time before after =>
      exact ⟨202, rfl, .kept admitted hwrite (.rows before after)⟩

/-- **Every event request is answered, in one of these ways.** -/
theorem ingests (v : Service) (now : Instant) (h : r.Posts .event) :
    ∃ a, (v.handle now r).2 = some a ∧ v.Ingests now r (v.handle now r).1 a.status := by
  obtain ⟨hservice, hstatus⟩ := v.handle_of_posts now rfl h
  suffices hingest : ∃ status, statusOf? (v.ingest now r).2 = some status ∧
      v.Ingests now r (v.ingest now r).1 status by
    obtain ⟨status, hanswer, hingests⟩ := hingest
    obtain ⟨a, ha, rfl⟩ := Option.map_eq_some_iff.mp (hstatus.trans hanswer)
    exact ⟨a, ha, hservice ▸ hingests⟩
  unfold ingest
  cases read : r.payload with
  | error refusal =>
      obtain ⟨status, reason, rfl, mem⟩ := Request.status_of_payload_eq_error read
      exact ⟨status, rfl, .unread read mem⟩
  | ok p =>
      rcases v.checkPayload_cases p with ⟨wellFormed, served, hcheck⟩ |
          ⟨wellFormed, unserved, reason, hcheck⟩ | ⟨malformed, reason, hcheck⟩
      · simp only [hcheck]
        exact ingests_recordPayload now (admitted?_eq_some_iff.mpr ⟨read, wellFormed, served⟩)
      · simp only [hcheck]
        exact ⟨404, rfl, .foreign read wellFormed unserved⟩
      · simp only [hcheck]
        exact ⟨400, rfl, .malformed read malformed⟩

/-! ## What the status tells -/

namespace Ingests

/-- An accepted request appended a fact, and no other did. -/
theorem facts_cases (h : v.Ingests now r w status) :
    (status = 202 ∧ ∃ f, v.store.Appends w.store [f]) ∨
      (status ≠ 202 ∧ w.store.facts = v.store.facts) := by
  have hextractor : 202 ∉ extractorStatuses := by decide
  have hwriter : 202 ∉ writerStatuses := by decide
  cases h with
  | unread read mem => exact .inr ⟨ne_of_mem_of_not_mem mem hextractor, rfl⟩
  | malformed read h => exact .inr ⟨by decide, rfl⟩
  | foreign read wellFormed h => exact .inr ⟨by decide, rfl⟩
  | kept admitted write appends => exact .inl ⟨rfl, _, appends⟩
  | rejected admitted write same mem =>
      exact .inr ⟨ne_of_mem_of_not_mem mem hwriter, same⟩

theorem accepted_iff (h : v.Ingests now r w status) :
    status = 202 ↔ ∃ f, v.store.Appends w.store [f] := by
  rcases h.facts_cases with ⟨hstatus, happends⟩ | ⟨hstatus, hsame⟩
  · exact iff_of_true hstatus happends
  · exact iff_of_false hstatus fun ⟨f, happends⟩ => happends.ne_of_singleton hsame

theorem of_unread (h : v.Ingests now r w status) {refusal : Refusal}
    (read : r.payload = .error refusal) : w = v ∧ status ∈ extractorStatuses := by
  cases h with
  | unread read' mem => exact ⟨rfl, mem⟩
  | malformed read' | foreign read' => exact nomatch read.symm.trans read'
  | kept admitted | rejected admitted =>
      exact nomatch read.symm.trans (admitted?_eq_some_iff.mp admitted).1

/-- A payload that could be read decides what becomes of the request. -/
theorem of_read (h : v.Ingests now r w status) (read : r.payload = .ok p) :
    (¬ p.WellFormed ∧ w = v ∧ status = 400) ∨
      (p.WellFormed ∧ v.acceptsSite p.site = false ∧ w = v ∧ status = 404) ∨
      (p.WellFormed ∧ v.acceptsSite p.site = true ∧
        ((∃ o, (v.write now r p).2 = .ok o ∧ status = 202) ∨
          ∃ e, (v.write now r p).2 = .error e ∧ status ∈ writerStatuses)) := by
  cases h with
  | unread read' => exact nomatch read.symm.trans read'
  | malformed read' malformed =>
      obtain rfl := Except.ok.inj (read.symm.trans read')
      exact .inl ⟨malformed, rfl, rfl⟩
  | foreign read' wellFormed foreign =>
      obtain rfl := Except.ok.inj (read.symm.trans read')
      exact .inr (.inl ⟨wellFormed, foreign, rfl, rfl⟩)
  | kept admitted write =>
      obtain ⟨read', wellFormed, served⟩ := admitted?_eq_some_iff.mp admitted
      obtain rfl := Except.ok.inj (read.symm.trans read')
      exact .inr (.inr ⟨wellFormed, served, .inl ⟨_, by rw [write], rfl⟩⟩)
  | rejected admitted write same mem =>
      obtain ⟨read', wellFormed, served⟩ := admitted?_eq_some_iff.mp admitted
      obtain rfl := Except.ok.inj (read.symm.trans read')
      exact .inr (.inr ⟨wellFormed, served, .inr ⟨_, by rw [write], mem⟩⟩)

end Ingests

/-- **What an event request comes to**, told from its status and from the service
before and after it. -/
structure AccountsFor (v : Service) (now : Instant) (r : Request) (w : Service) (status : ℕ) :
    Prop where
  /-- It is accepted exactly if it appended one fact. -/
  accepted_iff : status = 202 ↔ ∃ f, v.store.Appends w.store [f]
  /-- Otherwise it appended none. -/
  same_facts : status ≠ 202 → w.store.facts = v.store.facts
  /-- A payload that cannot be read changes nothing. -/
  unread : ∀ refusal, r.payload = .error refusal → w = v ∧ status ∈ extractorStatuses
  /-- Neither does one with which something is wrong. -/
  malformed : ∀ p, r.payload = .ok p → ¬ p.WellFormed → w = v ∧ status = 400
  /-- Nor one for a site that is not served. -/
  foreign : ∀ p, r.payload = .ok p → p.WellFormed → v.acceptsSite p.site = false →
    w = v ∧ status = 404
  /-- For any other the writer is called. -/
  written : ∀ p, v.admitted? r = some p →
    (∃ o, (v.write now r p).2 = .ok o ∧ status = 202) ∨
      ∃ e, (v.write now r p).2 = .error e ∧ status ∈ writerStatuses

theorem Ingests.accountsFor (h : v.Ingests now r w status) : v.AccountsFor now r w status where
  accepted_iff := h.accepted_iff
  same_facts hstatus := (h.facts_cases.resolve_left fun ⟨haccepted, _⟩ => hstatus haccepted).2
  unread _ := h.of_unread
  malformed p read malformed := by
    rcases h.of_read read with ⟨-, hrefused⟩ | ⟨wellFormed, -⟩ | ⟨wellFormed, -⟩
    · exact hrefused
    · exact absurd wellFormed malformed
    · exact absurd wellFormed malformed
  foreign p read wellFormed foreign := by
    rcases h.of_read read with ⟨malformed, -⟩ | ⟨-, -, hrefused⟩ | ⟨-, served, -⟩
    · exact absurd wellFormed malformed
    · exact hrefused
    · exact nomatch foreign.symm.trans served
  written p admitted := by
    obtain ⟨read, wellFormed, served⟩ := admitted?_eq_some_iff.mp admitted
    rcases h.of_read read with ⟨malformed, -⟩ | ⟨-, foreign, -⟩ | ⟨-, -, hwritten⟩
    · exact absurd wellFormed malformed
    · exact nomatch foreign.symm.trans served
    · exact hwritten

end Service

end Footfall
