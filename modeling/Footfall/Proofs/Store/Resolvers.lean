import Mathlib
import Footfall.Proofs.Store.World

/-!
# Resolvers side by side

Clients that resolve keys at the same time agree on the ids.  What carries the
proofs is that committed rows stay, and that every row, once committed or waiting
in the open transaction, has an id of its own.  So an id that one client was
answered is the id that every client is answered.

## Main Definitions

* `Progress` — what a resolution has been answered so far
* `Waiting` — a row of the open transaction has an id of its own
* `World.Agreed` — what holds at every moment
* `World.Settled` — what holds of a key from its first answer on

## Main Statements

* `World.sound_act`, `World.sound_run` — the invariant, and every interleaving
* `World.resolvers_agree` — agreement under every interleaving
-/

namespace Footfall

/-! ## The statements of a call -/

/-- A round in which the key was not found, nor inserted, nor found again. -/
def missedRound : List Reply :=
  [.read none, .wrote .conflict, .read none]

/-- The replies of some missed rounds. -/
def missed (n : ℕ) : List Reply :=
  (List.replicate n missedRound).flatten

theorem missed_succ (n : ℕ) : missed (n + 1) = missed n ++ missedRound := by
  rw [missed, missed, List.replicate_succ', List.flatten_append, List.flatten_singleton]

/-- **What a resolution has been answered**, as its state tells: while it is under
way, that it missed every round so far; an id, only of a committed row with the
key; an error, only after it missed all rounds. -/
inductive Progress (s : Store) (k : NaturalKey) : Resolving → List Reply → Prop where
  /-- About to look the key up. -/
  | looking {m n : ℕ} (rounds : m + n + 1 = Resolving.rounds) :
      Progress s k (.looking n) (missed m)
  /-- About to insert a row. -/
  | inserting {m n : ℕ} (rounds : m + n + 1 = Resolving.rounds) :
      Progress s k (.inserting n) (missed m ++ [.read none])
  /-- About to look again after a lost race. -/
  | lost {m n : ℕ} (rounds : m + n + 1 = Resolving.rounds) :
      Progress s k (.rereading n) (missed m ++ [.read none, .wrote .conflict])
  /-- About to look again after the row was inserted. -/
  | won {n : ℕ} {r : DimensionRow} (replies : List Reply) (mem : r ∈ s.rowsOf k.dimension)
      (names : k.names r = true) : Progress s k (.rereading n) replies
  /-- Over, with the id of the row. -/
  | found {r : DimensionRow} (replies : List Reply) (mem : r ∈ s.rowsOf k.dimension)
      (names : k.names r = true) : Progress s k (.done (.ok r.id)) replies
  /-- Over, without a row. -/
  | failed : Progress s k (.done (.error .noRows)) (missed Resolving.rounds)

/-- Rows that are committed stay. -/
theorem Progress.mono {s s' : Store} {k : NaturalKey} {state : Resolving} {replies : List Reply}
    (h : Progress s k state replies) (rows : ∀ d, s.rowsOf d <+: s'.rowsOf d) :
    Progress s' k state replies := by
  cases h with
  | looking rounds => exact .looking rounds
  | inserting rounds => exact .inserting rounds
  | lost rounds => exact .lost rounds
  | won replies mem names => exact .won replies ((rows _).subset mem) names
  | found replies mem names => exact .found replies ((rows _).subset mem) names
  | failed => exact .failed

namespace Store

variable {s s' : Store} {k : NaturalKey}

/-- What a statement of a resolution can make of a store. -/
inductive Tried (s : Store) (k : NaturalKey) : Store → Prop where
  /-- It read. -/
  | read : Tried s k s
  /-- It lost the race for the key, but used up an id. -/
  | lost : Tried s k (s.takeId k.dimension)
  /-- It inserted the row. -/
  | created (absent : (s.rowsOf k.dimension).find? k.names = none) : Tried s k (s.withRow k)

theorem withRow_eq (s : Store) (k : NaturalKey) :
    s.withRow k = (s.takeId k.dimension).append k.dimension (s.nextRow k) := rfl

theorem Tried.rows (h : s.Tried k s') (d : Dimension) : s.rowsOf d <+: s'.rowsOf d := by
  cases h with
  | read => exact List.prefix_refl _
  | lost => exact List.prefix_refl _
  | created absent => exact (grown_withRow s k).rows d

theorem Tried.le (h : s.Tried k s') (d : Dimension) :
    (s.dimensionIds.get d).getD 0 ≤ (s'.dimensionIds.get d).getD 0 := by
  cases h with
  | read => exact le_rfl
  | lost => exact le_getD_takeId d
  | created absent => exact le_getD_takeId d

theorem Tried.healthy (h : s.Healthy) (valid : k.validate = .ok ()) (tried : s.Tried k s') :
    s'.Healthy := by
  cases tried with
  | read => exact h
  | lost => exact h.takeId k.dimension
  | created absent =>
      have hcount : ((s.takeId k.dimension).dimensionIds.get k.dimension).getD 0 =
          (s.dimensionIds.get k.dimension).getD 0 + 1 := by
        simp [takeId, PerDimension.get_set]
      rw [withRow_eq]
      apply (h.takeId k.dimension).append
      · simp only [nextRow]
        omega
      · rw [hcount]
        exact le_rfl
      · intro r hr heq
        have := ((h.numbered k.dimension).bounds r hr).2
        simp only [nextRow] at heq
        omega
      · intro r hr hkey
        refine List.find?_eq_none.mp absent r hr ?_
        simp only [NaturalKey.names, Bool.and_eq_true, beq_iff_eq]
        exact hkey
      · show k.scope.isSome = _
        rw [NaturalKey.scope_eq valid, NaturalKey.isSome_parent valid]

theorem insertIfAbsent_of_find (c : s.Complete) (valid : k.validate = .ok ()) {r : DimensionRow}
    (h : (s.rowsOf k.dimension).find? k.names = some r) :
    s.insertIfAbsent k = .ok (s.takeId k.dimension, .conflict) := by
  have hany : (s.rowsOf k.dimension).any k.names = true :=
    List.any_eq_true.mpr ⟨r, List.mem_of_find?_eq_some h, List.find?_some h⟩
  have hsome : (k.dimension.parent?.isSome && k.parent.isNone) = false := by
    rw [← NaturalKey.isSome_parent valid]
    cases k.parent <;> rfl
  rw [insertIfAbsent, newRow_eq c, hsome, if_neg Bool.false_ne_true, hany, if_pos rfl]
  rfl

end Store

namespace Call

variable {s : Store} {k : NaturalKey} {n : ℕ} {replies : List Reply}

/-- A read that finds the row of the key ends the call with its id. -/
theorem step_of_lookup {state : Resolving} (reads : state = .looking n ∨ state = .rereading n)
    {r : DimensionRow} (hlookup : s.lookup k = .ok (some r.id)) :
    (⟨k, state, replies⟩ : Call).step s =
      (s, ⟨k, .done (.ok r.id), replies ++ [.read (some r.id)]⟩) := by
  rcases reads with rfl | rfl
  · simp only [step, Resolving.step, Resolving.replies, hlookup]
  · simp only [step, Resolving.step, Resolving.replies, hlookup]

/-- A first look that finds no row goes on to insert one. -/
theorem step_looking_of_absent (hlookup : s.lookup k = .ok none) :
    (⟨k, .looking n, replies⟩ : Call).step s =
      (s, ⟨k, .inserting n, replies ++ [.read none]⟩) := by
  simp only [step, Resolving.step, Resolving.replies, hlookup]

/-- An insertion looks again, whatever comes of it. -/
theorem step_inserting {s' : Store} {outcome : InsertOutcome}
    (hinsert : s.insertIfAbsent k = .ok (s', outcome)) :
    (⟨k, .inserting n, replies⟩ : Call).step s =
      (s', ⟨k, .rereading n, replies ++ [.wrote outcome]⟩) := by
  simp only [step, Resolving.step, Resolving.replies, hinsert]

/-- A last look that finds no row ends the round. -/
theorem step_rereading_of_absent (hlookup : s.lookup k = .ok none) :
    (⟨k, .rereading n, replies⟩ : Call).step s =
      (s, ⟨k, match n with
        | 0 => .done (.error .noRows)
        | n + 1 => .looking n, replies ++ [.read none]⟩) := by
  cases n with
  | zero => simp only [step, Resolving.step, Resolving.replies, hlookup]
  | succ n => simp only [step, Resolving.step, Resolving.replies, hlookup]

/-- A call that is over does nothing. -/
theorem step_done (result : Except StoreFault ℤ) :
    (⟨k, .done result, replies⟩ : Call).step s = (s, ⟨k, .done result, replies⟩) := by
  simp only [step, Resolving.step, Resolving.replies, List.append_nil]

/-- **One statement of a call on a healthy store.** -/
theorem step_spec {c : Call} (h : s.Healthy) (valid : c.key.validate = .ok ())
    (progress : Progress s c.key c.state c.replies) :
    s.Tried c.key (c.step s).1 ∧
      Progress (c.step s).1 c.key (c.step s).2.state (c.step s).2.replies := by
  obtain ⟨k, state, replies⟩ := c
  dsimp only at valid progress ⊢
  have hlookup := Store.lookup_eq (h.complete.dimensions _) valid
  cases progress with
  | @looking m n rounds =>
      cases hfind : (s.rowsOf k.dimension).find? k.names with
      | none =>
          rw [hfind, Option.map_none] at hlookup
          rw [step_looking_of_absent hlookup]
          exact ⟨.read, .inserting rounds⟩
      | some r =>
          rw [hfind, Option.map_some] at hlookup
          rw [step_of_lookup (.inl rfl) hlookup]
          exact ⟨.read, .found _ (List.mem_of_find?_eq_some hfind) (List.find?_some hfind)⟩
  | @inserting m n rounds =>
      cases hfind : (s.rowsOf k.dimension).find? k.names with
      | none =>
          rw [step_inserting (Store.insertIfAbsent_of_absent (h.complete.dimensions _) valid hfind)]
          refine ⟨.created hfind, .won (r := s.nextRow k) _ ?_ ?_⟩
          · rw [Store.rowsOf_withRow, if_pos rfl]
            exact List.mem_append_right _ (List.mem_singleton_self _)
          · simp [NaturalKey.names, Store.nextRow]
      | some r =>
          rw [step_inserting (Store.insertIfAbsent_of_find h.complete valid hfind),
            List.append_assoc]
          exact ⟨.lost, .lost rounds⟩
  | @lost m n rounds =>
      cases hfind : (s.rowsOf k.dimension).find? k.names with
      | none =>
          rw [hfind, Option.map_none] at hlookup
          have hmissed : missed m ++ [.read none, .wrote .conflict] ++ [.read none] =
              missed (m + 1) := by
            rw [missed_succ, List.append_assoc]
            rfl
          rw [step_rereading_of_absent hlookup, hmissed]
          cases n with
          | zero =>
              rw [show m + 1 = Resolving.rounds from rounds]
              exact ⟨.read, .failed⟩
          | succ n => exact ⟨.read, .looking (by omega)⟩
      | some r =>
          rw [hfind, Option.map_some] at hlookup
          rw [step_of_lookup (.inr rfl) hlookup]
          exact ⟨.read, .found _ (List.mem_of_find?_eq_some hfind) (List.find?_some hfind)⟩
  | won _ mem names =>
      rw [h.find?_names mem names, Option.map_some] at hlookup
      rw [step_of_lookup (.inr rfl) hlookup]
      exact ⟨.read, .found _ mem names⟩
  | found _ mem names =>
      rw [step_done]
      exact ⟨.read, .found _ mem names⟩
  | failed =>
      rw [step_done]
      exact ⟨.read, .failed⟩

end Call

/-- So is a refusal that signals a conflict. -/
theorem Call.refused_spec {s : Store} {c : Call} {fault : StoreFault} {message : String}
    (signals : signalsConflict message = true)
    (progress : Progress s c.key c.state c.replies) :
    s.Tried c.key (c.refused s fault message).1 ∧
      Progress (c.refused s fault message).1 c.key (c.refused s fault message).2.state
        (c.refused s fault message).2.replies := by
  obtain ⟨k, state, replies⟩ := c
  dsimp only at progress ⊢
  cases progress with
  | inserting rounds =>
      simp only [Call.refused, signals, if_true, List.append_assoc]
      exact ⟨.lost, .lost rounds⟩
  | looking rounds => exact ⟨.read, .looking rounds⟩
  | lost rounds => exact ⟨.read, .lost rounds⟩
  | won _ mem names => exact ⟨.read, .won _ mem names⟩
  | found _ mem names => exact ⟨.read, .found _ mem names⟩
  | failed => exact ⟨.read, .failed⟩

/-! ## The open transaction -/

/-- A row that waits for its commit has an id of its own. -/
structure Waiting (s : Store) (d : Dimension) (row : DimensionRow) : Prop where
  /-- The id is positive. -/
  pos : 1 ≤ row.id
  /-- The id was given out. -/
  le : row.id ≤ ((s.dimensionIds.get d).getD 0 : ℕ)
  /-- No committed row has it. -/
  new : ∀ r ∈ s.rowsOf d, r.id ≠ row.id
  /-- The row has a parent exactly if its dimension has one. -/
  parent : row.parent.isSome = d.parent?.isSome

/-- All rows of some insertions wait, and their ids differ. -/
structure WaitingAll (s : Store) (pending : List Held) : Prop where
  /-- Every row waits. -/
  each : ∀ h ∈ pending, ∀ row, h.row = some row → Waiting s h.dimension row
  /-- Ids of one table differ. -/
  apart : pending.Pairwise fun a b => a.dimension = b.dimension →
    ∀ row row', a.row = some row → b.row = some row' → row.id ≠ row'.id

theorem WaitingAll.nil (s : Store) : WaitingAll s [] where
  each h hh := by cases hh
  apart := .nil

section Waiting

variable {s s' : Store} {k : NaturalKey} {pending : List Held}

/-- Whatever a client does, it takes no id that waits. -/
theorem WaitingAll.tried (h : WaitingAll s pending) (tried : s.Tried k s') :
    WaitingAll s' pending where
  each held hheld row hrow := by
    have hwait := h.each held hheld row hrow
    refine ⟨hwait.pos, hwait.le.trans (Int.ofNat_le.mpr (tried.le _)), ?_, hwait.parent⟩
    cases tried with
    | read => exact hwait.new
    | lost => exact hwait.new
    | created absent =>
        rw [Store.rowsOf_withRow]
        split
        · next hd =>
          have hle := hwait.le
          rw [hd, List.forall_mem_append, List.forall_mem_singleton]
          refine ⟨hwait.new, fun heq => ?_⟩
          simp only [Store.nextRow, hd] at heq
          omega
        · exact hwait.new
  apart := h.apart

theorem WaitingAll.takeId (h : WaitingAll s pending) (d : Dimension) :
    WaitingAll (s.takeId d) pending where
  each held hheld row hrow := by
    have hwait := h.each held hheld row hrow
    exact ⟨hwait.pos, hwait.le.trans (Int.ofNat_le.mpr (Store.le_getD_takeId _)), hwait.new,
      hwait.parent⟩
  apart := h.apart

/-- An insertion without a row changes nothing. -/
theorem WaitingAll.concat_none (h : WaitingAll s pending) (d : Dimension) :
    WaitingAll s (pending ++ [⟨d, none⟩]) where
  each := by
    simp only [List.forall_mem_append, List.forall_mem_singleton]
    exact ⟨h.each, fun row hrow => by cases hrow⟩
  apart := by
    rw [List.pairwise_append]
    refine ⟨h.apart, List.pairwise_singleton _ _, fun a _ b hb _ row row' _ hrow' => ?_⟩
    rw [List.mem_singleton.mp hb] at hrow'
    cases hrow'

/-- A new row waits under the next id. -/
theorem WaitingAll.concat_nextRow (healthy : s.Healthy) (h : WaitingAll s pending)
    (scope : k.scope.isSome = k.dimension.parent?.isSome) :
    WaitingAll (s.takeId k.dimension) (pending ++ [⟨k.dimension, some (s.nextRow k)⟩]) where
  each := by
    simp only [List.forall_mem_append, List.forall_mem_singleton]
    refine ⟨(h.takeId k.dimension).each, fun row hrow => ?_⟩
    obtain rfl := Option.some.inj hrow
    refine ⟨?_, ?_, fun r hr heq => ?_, scope⟩
    · simp only [Store.nextRow]
      omega
    · simp [Store.nextRow, Store.takeId, PerDimension.get_set]
    · have := ((healthy.numbered k.dimension).bounds r hr).2
      simp only [Store.nextRow] at heq
      omega
  apart := by
    rw [List.pairwise_append]
    refine ⟨h.apart, List.pairwise_singleton _ _, fun a ha b hb hd row row' hrow hrow' heq => ?_⟩
    obtain rfl := List.mem_singleton.mp hb
    obtain rfl := Option.some.inj hrow'
    have hle := (h.each a ha row hrow).le
    dsimp only at hd
    rw [hd] at hle
    simp only [Store.nextRow] at heq
    omega

theorem commit_eq_ok (c : s.Complete) {held : Held} (h : s.commit held = .ok s') :
    (held.row = none ∧ s' = s) ∨ ∃ row, held.row = some row ∧
      (∀ r ∈ s.rowsOf held.dimension, ¬ (r.parent = row.parent ∧ r.value = row.value)) ∧
      s' = s.append held.dimension row := by
  obtain ⟨d, row⟩ := held
  cases row with
  | none => exact .inl ⟨rfl, (Except.ok.inj h).symm⟩
  | some row =>
      simp only [Store.commit, c.dimensionRows, ok_bind] at h
      split at h
      · cases h
      · next hany =>
        refine .inr ⟨row, rfl, fun r hr hkey => hany ?_, ?_⟩
        · rw [List.any_eq_true]
          exact ⟨r, hr, by simp [hkey]⟩
        · rw [Store.addRow, c.dimensionRows, ok_bind] at h
          exact (Except.ok.inj h).symm

/-- After a row was written, the others still wait: their ids are not its id. -/
theorem WaitingAll.append {held : Held} (h : WaitingAll s (held :: pending)) {row : DimensionRow}
    (hrow : held.row = some row) : WaitingAll (s.append held.dimension row) pending where
  each b hb row' hrow' := by
    have hwait := h.each b (List.mem_cons_of_mem held hb) row' hrow'
    refine ⟨hwait.pos, hwait.le, ?_, hwait.parent⟩
    rw [Store.rowsOf_append]
    split
    · next hd =>
      rw [hd, List.forall_mem_append, List.forall_mem_singleton]
      exact ⟨hwait.new, (List.pairwise_cons.mp h.apart).1 b hb hd row row' hrow hrow'⟩
    · exact hwait.new
  apart := (List.pairwise_cons.mp h.apart).2

theorem WaitingAll.tail {held : Held} (h : WaitingAll s (held :: pending)) :
    WaitingAll s pending where
  each b hb := h.each b (List.mem_cons_of_mem held hb)
  apart := (List.pairwise_cons.mp h.apart).2

/-- **A commit keeps the store healthy**, however many rows it writes. -/
theorem healthy_of_commits (healthy : s.Healthy) (h : WaitingAll s pending)
    (committed : pending.foldlM Store.commit s = .ok s') :
    s'.Healthy ∧ ∀ d, s.rowsOf d <+: s'.rowsOf d := by
  induction pending generalizing s with
  | nil =>
      obtain rfl := Except.ok.inj committed
      exact ⟨healthy, fun d => List.prefix_refl _⟩
  | cons held pending ih =>
      rw [List.foldlM_cons, bind_eq_ok_iff] at committed
      obtain ⟨mid, hmid, hrest⟩ := committed
      rcases commit_eq_ok healthy.complete hmid with ⟨-, rfl⟩ | ⟨row, hrow, newKey, rfl⟩
      · exact ih healthy h.tail hrest
      · have hwait := h.each held List.mem_cons_self row hrow
        have hmid := healthy.append hwait.pos hwait.le hwait.new newKey hwait.parent
        obtain ⟨hhealthy, hrows⟩ := ih hmid (h.append hrow) hrest
        exact ⟨hhealthy, fun d => (Store.rowsOf_isPrefix_append d).trans (hrows d)⟩

end Waiting

/-! ## Every interleaving -/

namespace World

variable {w : World}

/-- **The invariant of every interleaving.** -/
structure Sound (w : World) : Prop where
  /-- The committed rows are healthy. -/
  healthy : w.store.Healthy
  /-- The rows of the open transaction have ids of their own. -/
  waiting : WaitingAll w.store w.pending
  /-- Only keys that are not refused are resolved. -/
  valid : ∀ c ∈ w.calls, c.key.validate = .ok ()
  /-- Every call has been answered what its state tells. -/
  progress : ∀ c ∈ w.calls, Progress w.store c.key c.state c.replies

theorem sound_opened {s : Store} (healthy : s.Healthy) : (opened s).Sound where
  healthy := healthy
  waiting := .nil s
  valid c hc := by cases hc
  progress c hc := by cases hc

/-- The turn of a call. -/
theorem Sound.turn (h : w.Sound) (i : ℕ) {f : Call → Store × Call}
    (hf : ∀ c ∈ w.calls, (f c).2.key = c.key ∧ w.store.Tried c.key (f c).1 ∧
      Progress (f c).1 c.key (f c).2.state (f c).2.replies) :
    (w.turn i f).Sound ∧ ∀ d, w.store.rowsOf d <+: (w.turn i f).store.rowsOf d := by
  unfold World.turn
  cases hi : w.calls[i]? with
  | none => exact ⟨h, fun d => List.prefix_refl _⟩
  | some c =>
      have hc : c ∈ w.calls := List.mem_of_getElem? hi
      obtain ⟨hkey, tried, progress⟩ := hf c hc
      refine ⟨⟨tried.healthy h.healthy (h.valid c hc), h.waiting.tried tried, ?_, ?_⟩, tried.rows⟩
      · intro c' hc'
        rcases List.mem_or_eq_of_mem_set hc' with hc' | rfl
        · exact h.valid c' hc'
        · rw [hkey]
          exact h.valid c hc
      · intro c' hc'
        rcases List.mem_or_eq_of_mem_set hc' with hc' | rfl
        · exact (h.progress c' hc').mono tried.rows
        · rw [hkey]
          exact progress

theorem Sound.start (h : w.Sound) (k : NaturalKey) :
    (w.act (.start k)).Sound ∧ ∀ d, w.store.rowsOf d <+: (w.act (.start k)).store.rowsOf d := by
  cases valid : k.validate with
  | error fault =>
      have hact : w.act (.start k) = w := by simp only [act, valid]
      rw [hact]
      exact ⟨h, fun d => List.prefix_refl _⟩
  | ok u =>
      have hact : w.act (.start k) = ⟨w.store, w.calls ++ [⟨k, .start, []⟩], w.pending⟩ := by
        simp only [act, valid]
      rw [hact]
      refine ⟨⟨h.healthy, h.waiting, ?_, ?_⟩, fun d => List.prefix_refl _⟩
      · simp only [List.forall_mem_append, List.forall_mem_singleton]
        exact ⟨h.valid, valid⟩
      · simp only [List.forall_mem_append, List.forall_mem_singleton]
        exact ⟨h.progress, .looking (m := 0) rfl⟩

theorem Sound.hold (h : w.Sound) (k : NaturalKey) :
    (w.act (.hold k)).Sound ∧ ∀ d, w.store.rowsOf d <+: (w.act (.hold k)).store.rowsOf d := by
  simp only [act, Store.newRow_eq h.healthy.complete]
  split
  · next heq =>
    split at heq <;> cases heq
  · next s row heq =>
    split at heq
    · -- without its parent the key is not inserted
      obtain ⟨rfl, rfl⟩ := Prod.mk.inj (Except.ok.inj heq)
      simp only [ite_self]
      exact ⟨⟨h.healthy, h.waiting.concat_none _, h.valid, h.progress⟩,
        fun d => List.prefix_refl _⟩
    · next hparent =>
      obtain ⟨rfl, rfl⟩ := Prod.mk.inj (Except.ok.inj heq)
      refine ⟨⟨h.healthy.takeId _, ?_, h.valid, fun c hc => (h.progress c hc).mono fun d =>
        List.prefix_refl _⟩, fun d => List.prefix_refl _⟩
      have hscope : k.scope.isSome = k.dimension.parent?.isSome := by
        unfold NaturalKey.scope
        cases hup : k.dimension.parent? <;> cases hk : k.parent <;> simp [hup, hk] at hparent ⊢
      dsimp only
      split
      · exact (h.waiting.takeId _).concat_none _
      · split
        · exact (h.waiting.takeId _).concat_none _
        · exact h.waiting.concat_nextRow h.healthy hscope

theorem Sound.finish (h : w.Sound) (keep : Bool) :
    (w.act (.finish keep)).Sound ∧
      ∀ d, w.store.rowsOf d <+: (w.act (.finish keep)).store.rowsOf d := by
  cases keep with
  | false =>
      exact ⟨⟨h.healthy, .nil _, h.valid, h.progress⟩, fun d => List.prefix_refl _⟩
  | true =>
      cases committed : w.pending.foldlM Store.commit w.store with
      | error e =>
          have hact : w.act (.finish true) = ⟨w.store, w.calls, []⟩ := by
            simp only [act, committed]
          rw [hact]
          exact ⟨⟨h.healthy, .nil _, h.valid, h.progress⟩, fun d => List.prefix_refl _⟩
      | ok s =>
          have hact : w.act (.finish true) = ⟨s, w.calls, []⟩ := by
            simp only [act, committed]
          rw [hact]
          obtain ⟨healthy, rows⟩ := healthy_of_commits h.healthy h.waiting committed
          exact ⟨⟨healthy, .nil _, h.valid, fun c hc => (h.progress c hc).mono rows⟩, rows⟩

/-- **What one move preserves.** -/
theorem sound_act (h : w.Sound) {m : Move} (lawful : m.Lawful) :
    (w.act m).Sound ∧ ∀ d, w.store.rowsOf d <+: (w.act m).store.rowsOf d := by
  cases m with
  | start k => exact h.start k
  | step i =>
      exact h.turn i fun c hc =>
        ⟨rfl, Call.step_spec h.healthy (h.valid c hc) (h.progress c hc)⟩
  | refuse i fault message =>
      refine h.turn i fun c hc => ⟨?_, Call.refused_spec lawful (h.progress c hc)⟩
      unfold Call.refused
      split
      · split <;> rfl
      · rfl
  | hold k => exact h.hold k
  | finish keep => exact h.finish keep

/-- **What every interleaving preserves.** -/
theorem sound_run (h : w.Sound) {moves : List Move} (lawful : ∀ m ∈ moves, m.Lawful) :
    (w.run moves).Sound ∧ ∀ d, w.store.rowsOf d <+: (w.run moves).store.rowsOf d := by
  induction moves generalizing w with
  | nil => exact ⟨h, fun d => List.prefix_refl _⟩
  | cons m moves ih =>
      obtain ⟨hsound, hrows⟩ := sound_act h (lawful m List.mem_cons_self)
      obtain ⟨hrun, hrest⟩ := ih hsound fun m' hm' => lawful m' (List.mem_cons_of_mem m hm')
      exact ⟨hrun, fun d => (hrows d).trans (hrest d)⟩

/-! ## Agreement -/

/-- **What holds at every moment.** -/
structure Agreed (w : World) : Prop where
  /-- No two committed rows of a table have one natural key. -/
  keys_once : ∀ d, ((w.store.rowsOf d).map fun r => (r.parent, r.value)).Nodup
  /-- A parent is part of the key of regions and cities, and of no other. -/
  parents : ∀ d, ∀ r ∈ w.store.rowsOf d, r.parent.isSome = d.parent?.isSome
  /-- Calls of one dimension return one id exactly if they resolve one key. -/
  same_id_iff : ∀ a ∈ w.calls, ∀ b ∈ w.calls, ∀ i j, a.state = .done (.ok i) →
    b.state = .done (.ok j) → a.key.dimension = b.key.dimension → (i = j ↔ a.key = b.key)
  /-- A call fails only after it missed all rounds. -/
  failed : ∀ c ∈ w.calls, ∀ e, c.state = .done (.error e) →
    e = .noRows ∧ c.replies = missed Resolving.rounds

/-- **What holds of a key that has an id.** -/
structure Settled (w : World) (k : NaturalKey) (id : ℤ) : Prop where
  /-- The id is looked up. -/
  lookup : w.store.lookup k = .ok (some id)
  /-- The id leads back to the value. -/
  value : w.store.valueOf k.dimension id = .ok (some k.value)
  /-- The first statement of a new call ends it with the id. -/
  first : Resolving.start.step k w.store = (w.store, .done (.ok id))
  /-- So the key resolves to the id. -/
  resolve : w.store.resolve k = (w.store, .ok id)
  /-- No call of the key returned another one. -/
  calls : ∀ c ∈ w.calls, c.key = k → ∀ id', c.state = .done (.ok id') → id' = id

/-- An id was returned for a committed row. -/
theorem Sound.exists_row (h : w.Sound) {c : Call} (hc : c ∈ w.calls) {id : ℤ}
    (hdone : c.state = .done (.ok id)) :
    ∃ r ∈ w.store.rowsOf c.key.dimension, c.key.names r = true ∧ r.id = id := by
  have progress := h.progress c hc
  rw [hdone] at progress
  cases progress with
  | found _ mem names => exact ⟨_, mem, names, rfl⟩

theorem Sound.agreed (h : w.Sound) : w.Agreed where
  keys_once := h.healthy.nodup_keys
  parents := h.healthy.parents
  same_id_iff a ha b hb i j hi hj hd := by
    obtain ⟨r, hr, hnames, rfl⟩ := h.exists_row ha hi
    obtain ⟨r', hr', hnames', rfl⟩ := h.exists_row hb hj
    have hkeys := hnames
    have hkeys' := hnames'
    simp only [NaturalKey.names, Bool.and_eq_true, beq_iff_eq,
      NaturalKey.scope_eq (h.valid a ha)] at hkeys
    simp only [NaturalKey.names, Bool.and_eq_true, beq_iff_eq,
      NaturalKey.scope_eq (h.valid b hb)] at hkeys'
    constructor
    · intro hid
      -- one id is one row, and a row has one key
      have hrow : r = r' := (h.healthy.numbered _).ids r hr r' (hd ▸ hr') hid
      subst hrow
      calc a.key = ⟨a.key.dimension, a.key.parent, a.key.value⟩ := rfl
        _ = ⟨b.key.dimension, b.key.parent, b.key.value⟩ := by
          rw [hd, ← hkeys.1, ← hkeys.2, hkeys'.1, hkeys'.2]
        _ = b.key := rfl
    · intro hkey
      have hfind := h.healthy.find?_names hr hnames
      rw [hkey, h.healthy.find?_names hr' hnames'] at hfind
      rw [Option.some.inj hfind]
  failed c hc e hdone := by
    have progress := h.progress c hc
    rw [hdone] at progress
    generalize c.replies = replies at progress ⊢
    cases progress with
    | failed => exact ⟨rfl, rfl⟩

theorem Sound.settled (h : w.Sound) {c : Call} (hc : c ∈ w.calls) {id : ℤ}
    (hdone : c.state = .done (.ok id)) : w.Settled c.key id := by
  obtain ⟨r, hr, hnames, rfl⟩ := h.exists_row hc hdone
  have hfind := h.healthy.find?_names hr hnames
  have hlookup : w.store.lookup c.key = .ok (some r.id) := by
    rw [Store.lookup_eq (h.healthy.complete.dimensions _) (h.valid c hc), hfind, Option.map_some]
  refine ⟨hlookup, ?_, ?_, ?_, ?_⟩
  · rw [Store.valueOf, h.healthy.complete.dimensionRows, ok_bind,
      (h.healthy.numbered c.key.dimension).find?_id hr, Option.map_some]
    simp only [NaturalKey.names, Bool.and_eq_true, beq_iff_eq] at hnames
    rw [hnames.2]
  · simp only [Resolving.start, Resolving.step, hlookup]
  · exact Store.resolve_of_find (h.healthy.complete.dimensions _) (h.valid c hc) hfind
  · intro b hb hkey id' hdone'
    exact (h.agreed.same_id_iff b hb c hc id' r.id hdone' hdone (by rw [hkey])).mpr hkey

/-- A call that is over stays as it is. -/
theorem mem_turn {i : ℕ} {f : Call → Store × Call} {c : Call} (hc : c ∈ w.calls)
    (fixed : (f c).2 = c) : c ∈ (w.turn i f).calls := by
  unfold turn
  cases hi : w.calls[i]? with
  | none => exact hc
  | some c₀ =>
      obtain ⟨j, hj⟩ := List.mem_iff_getElem?.mp hc
      refine List.mem_iff_getElem?.mpr ⟨j, ?_⟩
      by_cases hij : i = j
      · subst hij
        obtain rfl : c₀ = c := Option.some.inj (hi.symm.trans hj)
        have hlt : i < w.calls.length := (List.getElem?_eq_some_iff.mp hi).1
        dsimp only
        rw [List.getElem?_set_self hlt, fixed]
      · dsimp only
        rw [List.getElem?_set_ne hij, hj]

theorem mem_act_of_done {c : Call} (hc : c ∈ w.calls) {result : Except StoreFault ℤ}
    (hdone : c.state = .done result) (m : Move) : c ∈ (w.act m).calls := by
  obtain ⟨k, state, replies⟩ := c
  dsimp only at hdone
  subst hdone
  cases m with
  | start k =>
      cases valid : k.validate with
      | error fault =>
          simp only [act, valid]
          exact hc
      | ok u =>
          simp only [act, valid]
          exact List.mem_append_left _ hc
  | step i =>
      refine mem_turn hc ?_
      simp only [Call.step, Resolving.step, Resolving.replies, List.append_nil]
  | refuse i fault message => exact mem_turn hc rfl
  | hold k =>
      simp only [act]
      split
      · exact hc
      · exact hc
  | finish keep =>
      cases keep with
      | false => exact hc
      | true =>
          simp only [act]
          split
          · exact hc
          · exact hc

theorem mem_run_of_done {c : Call} (hc : c ∈ w.calls) {result : Except StoreFault ℤ}
    (hdone : c.state = .done result) (moves : List Move) : c ∈ (w.run moves).calls := by
  induction moves generalizing w with
  | nil => exact hc
  | cons m moves ih => exact ih (mem_act_of_done hc hdone m)

/-- **Resolvers agree under every interleaving** of any number of clients and of
a transaction that commits or rolls back.  At every moment natural keys are
unique, ids tell keys apart, and only missing all rounds is an error; and from
the moment a key's id is first returned, it is the id of the key. -/
theorem resolvers_agree (s : Store) (healthy : s.Healthy) (moves : List Move)
    (lawful : ∀ m ∈ moves, m.Lawful) :
    ((opened s).run moves).Agreed ∧
      ∀ c ∈ ((opened s).run moves).calls, ∀ id, c.state = .done (.ok id) →
        ∀ later : List Move, (∀ m ∈ later, m.Lawful) →
          ((opened s).run (moves ++ later)).Settled c.key id := by
  obtain ⟨hsound, -⟩ := sound_run (sound_opened healthy) lawful
  refine ⟨hsound.agreed, fun c hc id hdone later hlater => ?_⟩
  rw [run_append]
  exact (sound_run hsound hlater).1.settled (mem_run_of_done hc hdone later) hdone

/-- A key of the sample. -/
def sampleKey : NaturalKey :=
  ⟨.browser, none, "Firefox"⟩

/-- Two clients miss the key, while an open transaction inserts it.  The first
loses its race, the second wins, and the transaction comes too late. -/
def sampleRace : List Move :=
  [.start sampleKey, .start sampleKey, .step 0, .step 1, .hold sampleKey,
    .refuse 0 .duplicateKey "Constraint Error: Duplicate key", .step 1, .step 1, .step 0,
    .finish true]

theorem resolvers_agree_after_sampleRace :
    Store.migrated.Healthy ∧ (∀ m ∈ sampleRace, m.Lawful) ∧
      (∃ c ∈ ((opened .migrated).run sampleRace).calls,
        c.key = sampleKey ∧ c.state = .done (.ok 3)) ∧
      ((opened .migrated).run sampleRace).Agreed ∧
      ((opened .migrated).run (sampleRace ++ [.start sampleKey, .step 2])).Settled sampleKey 3 := by
  have lawful : ∀ m ∈ sampleRace, m.Lawful := by decide
  have later : ∀ m ∈ [Move.start sampleKey, .step 2], m.Lawful := by decide
  obtain ⟨agreed, settled⟩ := resolvers_agree .migrated Store.healthy_migrated sampleRace lawful
  have hcall : ∃ c ∈ ((opened .migrated).run sampleRace).calls,
      c.key = sampleKey ∧ c.state = .done (.ok 3) :=
    ⟨_, List.mem_cons_self, rfl, rfl⟩
  refine ⟨Store.healthy_migrated, lawful, hcall, agreed, ?_⟩
  obtain ⟨c, hc, hkey, hdone⟩ := hcall
  have hsettled := settled c hc 3 hdone _ later
  rwa [hkey] at hsettled

end World

end Footfall
