import Mathlib
import Footfall.Proofs.Store.Reference
import Footfall.Text.Cut

/-!
# Clients of one store

Any number of clients resolve keys on connections of their own, one statement at
a time, while a further connection inserts keys in a transaction that it later
commits or rolls back.  Between two statements of one client everything may
happen at the others.

Of the store no more is assumed than that it keeps natural keys unique and shows
nothing before its commit.  It may refuse an insertion at any time, for instance
since an open transaction inserted the key, but then it says so in words that
name a conflict.

## Main Definitions

* `Store.Healthy` — reference tables in which ids and natural keys are unique
* `Move`, `World` — what can happen next, and to what
* `World.run` — an interleaving

## Main Statements

* `World.run_resolve` — a resolution that nobody interrupts is `Store.resolve`
* `World.run_hold_finish` — a transaction of one insertion is `Store.hold` and
  `Store.release`
-/

namespace Footfall

/-! ## Healthy stores -/

/-- The next id of a reference table is used up. -/
def Store.takeId (s : Store) (d : Dimension) : Store :=
  { s with dimensionIds := s.dimensionIds.set d (some ((s.dimensionIds.get d).getD 0 + 1)) }

/-- A row is appended to a reference table. -/
def Store.append (s : Store) (d : Dimension) (row : DimensionRow) : Store :=
  { s with dimensions := s.dimensions.set d (.table (s.rowsOf d ++ [row])) }

namespace Store

variable {s : Store} {k : NaturalKey} {d : Dimension} {row : DimensionRow}

/-- Every reference table stands, and its ids and natural keys are unique.  Rows
of regions and cities have a parent, and no others. -/
structure Healthy (s : Store) : Prop where
  /-- Every table stands. -/
  complete : s.Complete
  /-- Ids were given out before, and neither they nor keys repeat. -/
  numbered : s.Referential
  /-- No row stands twice. -/
  once : ∀ d, (s.rowsOf d).Nodup
  /-- A row has a parent exactly if its dimension has one. -/
  parents : ∀ d, ∀ r ∈ s.rowsOf d, r.parent.isSome = d.parent?.isSome

theorem healthy_migrated : migrated.Healthy where
  complete := complete_migrated
  numbered := referential_migrated
  once d := by
    rw [rowsOf_migrated]
    exact .nil
  parents d r hr := by
    rw [rowsOf_migrated] at hr
    cases hr

/-- Natural keys do not repeat. -/
theorem Healthy.nodup_keys (h : s.Healthy) (d : Dimension) :
    ((s.rowsOf d).map fun r => (r.parent, r.value)).Nodup := by
  refine List.Nodup.map_on ?_ (h.once d)
  intro a ha b hb heq
  exact (h.numbered d).keys a ha b hb (congrArg Prod.fst heq) (congrArg Prod.snd heq)

theorem le_getD_takeId (e : Dimension) :
    (s.dimensionIds.get e).getD 0 ≤ ((s.takeId d).dimensionIds.get e).getD 0 := by
  simp only [takeId, PerDimension.get_set]
  split
  · next h =>
    rw [h, Option.getD_some]
    exact Nat.le_succ _
  · exact le_rfl

theorem Healthy.takeId (h : s.Healthy) (d : Dimension) : (s.takeId d).Healthy where
  complete := ⟨h.complete.dimensions, h.complete.facts, h.complete.daily, h.complete.hourly,
    h.complete.watermarks⟩
  numbered e := (h.numbered e).mono (le_getD_takeId e)
  once := h.once
  parents := h.parents

theorem rowsOf_append (e : Dimension) :
    (s.append d row).rowsOf e = if d = e then s.rowsOf d ++ [row] else s.rowsOf e := by
  simp only [rowsOf, append, PerDimension.get_set]
  split
  · rfl
  · rfl

theorem rowsOf_isPrefix_append (e : Dimension) : s.rowsOf e <+: (s.append d row).rowsOf e := by
  rw [rowsOf_append]
  split
  · next h => exact h ▸ List.prefix_append _ _
  · exact List.prefix_refl _

/-- A row with a new id and a new key may be appended. -/
theorem Healthy.append (h : s.Healthy) (pos : 1 ≤ row.id)
    (le : row.id ≤ ((s.dimensionIds.get d).getD 0 : ℕ))
    (newId : ∀ r ∈ s.rowsOf d, r.id ≠ row.id)
    (newKey : ∀ r ∈ s.rowsOf d, ¬ (r.parent = row.parent ∧ r.value = row.value))
    (scope : row.parent.isSome = d.parent?.isSome) : (s.append d row).Healthy where
  complete := by
    refine ⟨fun e => ?_, h.complete.facts, h.complete.daily, h.complete.hourly,
      h.complete.watermarks⟩
    rw [rowsOf_append]
    simp only [Store.append, PerDimension.get_set]
    split
    · rfl
    · exact h.complete.dimensions e
  numbered e := by
    rw [rowsOf_append]
    by_cases he : d = e
    · subst he
      rw [if_pos rfl]
      exact (h.numbered d).concat pos le newId newKey
    · rw [if_neg he]
      exact h.numbered e
  once e := by
    rw [rowsOf_append]
    split
    · refine List.nodup_append.mpr ⟨h.once d, List.nodup_singleton row, ?_⟩
      intro r hr r' hr' heq
      rw [List.mem_singleton.mp hr'] at heq
      exact newId r hr (congrArg DimensionRow.id heq)
    · exact h.once e
  parents e r hr := by
    rw [rowsOf_append] at hr
    split at hr
    · next he =>
      subst he
      rcases List.mem_append.mp hr with hr | hr
      · exact h.parents d r hr
      · rw [List.mem_singleton.mp hr]
        exact scope
    · exact h.parents e r hr

/-- The row of a key, of which there is one at most. -/
theorem Healthy.find?_names (h : s.Healthy) {r : DimensionRow} (hr : r ∈ s.rowsOf k.dimension)
    (names : k.names r = true) : (s.rowsOf k.dimension).find? k.names = some r := by
  cases hfind : (s.rowsOf k.dimension).find? k.names with
  | none => exact absurd names (List.find?_eq_none.mp hfind r hr)
  | some r' =>
      have hnames := List.find?_some hfind
      simp only [NaturalKey.names, Bool.and_eq_true, beq_iff_eq] at hnames names
      rw [(h.numbered k.dimension).keys r' (List.mem_of_find?_eq_some hfind) r hr
        (hnames.1.trans names.1.symm) (hnames.2.trans names.2.symm)]

/-- What an insertion takes and makes of a healthy store. -/
theorem newRow_eq (c : s.Complete) (k : NaturalKey) :
    s.newRow k =
      if k.dimension.parent?.isSome && k.parent.isNone then .ok (s, none)
      else .ok (s.takeId k.dimension,
        if (s.rowsOf k.dimension).any k.names then none else some (s.nextRow k)) := by
  rw [newRow, c.dimensionRows, ok_bind]
  rfl

end Store

/-! ## What can happen -/

/-- What a statement of a resolution was answered. -/
inductive Reply where
  /-- The id of a row was read, or no row. -/
  | read (found : Option ℤ)
  /-- A row was inserted, or not. -/
  | wrote (outcome : InsertOutcome)
  deriving DecidableEq

/-- Whether the words in which the store refuses an insertion tell of another
writer, in letters of either case. -/
def signalsConflict (message : String) : Bool :=
  ["constraint", "duplicate key", "conflict"].any fun mark =>
    occursIn mark.toList (message.toList.map Char.toLower)

/-- What the next statement of a resolution is answered. -/
def Resolving.replies (k : NaturalKey) (s : Store) : Resolving → List Reply
  | .looking _ | .rereading _ =>
    match s.lookup k with
    | .ok found => [.read found]
    | .error _ => []
  | .inserting _ =>
    match s.insertIfAbsent k with
    | .ok (_, outcome) => [.wrote outcome]
    | .error _ => []
  | .done _ => []

/-- The resolution of a key by some client. -/
structure Call where
  /-- The key. -/
  key : NaturalKey
  /-- How far it got. -/
  state : Resolving
  /-- What its statements were answered. -/
  replies : List Reply

namespace Call

/-- The next statement of a call. -/
def step (s : Store) (c : Call) : Store × Call :=
  ((c.state.step c.key s).1,
    ⟨c.key, (c.state.step c.key s).2, c.replies ++ c.state.replies c.key s⟩)

/-- The store refuses the insertion of a call, which uses up an id all the same.
The call goes on if the message signals a conflict, and fails otherwise. -/
def refused (s : Store) (fault : StoreFault) (message : String) (c : Call) : Store × Call :=
  match c.state with
  | .inserting n =>
    (s.takeId c.key.dimension,
      if signalsConflict message then ⟨c.key, .rereading n, c.replies ++ [.wrote .conflict]⟩
      else ⟨c.key, .done (.error fault), c.replies⟩)
  | _ => (s, c)

end Call

/-- What can happen next. -/
inductive Move where
  /-- A client begins to resolve a key. -/
  | start (k : NaturalKey)
  /-- A call executes its next statement. -/
  | step (call : ℕ)
  /-- The store refuses the insertion of a call. -/
  | refuse (call : ℕ) (fault : StoreFault) (message : String)
  /-- The open transaction inserts a key. -/
  | hold (k : NaturalKey)
  /-- The open transaction is committed, or rolled back. -/
  | finish (keep : Bool)

/-- Where the store refuses an insertion, it names a conflict. -/
def Move.Lawful : Move → Prop
  | .refuse _ _ message => signalsConflict message = true
  | _ => True

instance : (m : Move) → Decidable m.Lawful
  | .refuse _ _ message => inferInstanceAs (Decidable (signalsConflict message = true))
  | .start _ | .step _ | .hold _ | .finish _ => .isTrue trivial

/-- The committed rows, all calls so far, and the rows of the open transaction. -/
structure World where
  /-- What is committed. -/
  store : Store
  /-- The calls in the order in which they began. -/
  calls : List Call
  /-- The insertions of the open transaction. -/
  pending : List Held

/-- Whether an insertion of the open transaction has a key. -/
def Held.hasKey (k : NaturalKey) (h : Held) : Bool :=
  h.dimension == k.dimension && h.row.any k.names

namespace World

/-- A store before the first call. -/
def opened (s : Store) : World :=
  ⟨s, [], []⟩

/-- The turn of one call. -/
def turn (w : World) (i : ℕ) (f : Call → Store × Call) : World :=
  match w.calls[i]? with
  | none => w
  | some c => ⟨(f c).1, w.calls.set i (f c).2, w.pending⟩

/-- What a move makes of the world.  A key that `validate` refuses is not
resolved.  The open transaction sees the committed rows and its own; its commit
writes all of its rows, or none if one of the keys was taken meanwhile. -/
def act (w : World) : Move → World
  | .start k =>
    match k.validate with
    | .ok () => ⟨w.store, w.calls ++ [⟨k, .start, []⟩], w.pending⟩
    | .error _ => w
  | .step i => w.turn i (Call.step w.store)
  | .refuse i fault message => w.turn i (Call.refused w.store fault message)
  | .hold k =>
    match w.store.newRow k with
    | .error _ => w
    | .ok (s, row) =>
      ⟨s, w.calls,
        w.pending ++ [⟨k.dimension, if w.pending.any (·.hasKey k) then none else row⟩]⟩
  | .finish true =>
    match w.pending.foldlM Store.commit w.store with
    | .ok s => ⟨s, w.calls, []⟩
    | .error _ => ⟨w.store, w.calls, []⟩
  | .finish false => ⟨w.store, w.calls, []⟩

/-- An interleaving. -/
def run (w : World) (moves : List Move) : World :=
  moves.foldl act w

variable {w : World}

@[simp] theorem run_nil : w.run [] = w := rfl

@[simp] theorem run_cons (m : Move) (moves : List Move) :
    w.run (m :: moves) = (w.act m).run moves := rfl

theorem run_append (moves later : List Move) :
    w.run (moves ++ later) = (w.run moves).run later :=
  List.foldl_append

/-! ## Single calls and single insertions -/

/-- The statements of one call, one after another, are the steps of its
resolution. -/
theorem run_steps {i : ℕ} {c : Call} (hi : w.calls[i]? = some c) (n : ℕ) :
    ∃ replies, w.run (List.replicate n (.step i)) =
      ⟨(c.state.steps c.key n w.store).1,
        w.calls.set i ⟨c.key, (c.state.steps c.key n w.store).2, replies⟩, w.pending⟩ := by
  induction n generalizing w c with
  | zero =>
      refine ⟨c.replies, ?_⟩
      have hset : w.calls.set i c = w.calls := by
        obtain ⟨hlt, rfl⟩ := List.getElem?_eq_some_iff.mp hi
        exact List.set_getElem_self hlt
      simp only [List.replicate_zero, run_nil, Resolving.steps, hset]
  | succ n ih =>
      have hact : w.act (.step i) =
          ⟨(c.step w.store).1, w.calls.set i (c.step w.store).2, w.pending⟩ := by
        simp only [act, turn, hi]
      have hlt : i < w.calls.length := (List.getElem?_eq_some_iff.mp hi).1
      obtain ⟨replies, hrun⟩ := ih (w := w.act (.step i)) (c := (c.step w.store).2) (by
        rw [hact]
        exact List.getElem?_set_self hlt)
      refine ⟨replies, ?_⟩
      rw [List.replicate_succ, run_cons, hrun, hact]
      simp only [List.set_set, Call.step, Resolving.steps]

/-- **A resolution that nobody interrupts is `Store.resolve`.** -/
theorem run_resolve (s : Store) {k : NaturalKey} (valid : k.validate = .ok ()) :
    ∃ c : Call, (opened s).run (.start k :: List.replicate (3 * Resolving.rounds) (.step 0)) =
        ⟨(s.resolve k).1, [c], []⟩ ∧
      c.key = k ∧ c.state.result.mapError (.resolution k.dimension) = (s.resolve k).2 := by
  have hstart : (opened s).act (.start k) = ⟨s, [⟨k, .start, []⟩], []⟩ := by
    simp only [act, opened, valid, List.nil_append]
  obtain ⟨replies, hrun⟩ := run_steps (w := ⟨s, [⟨k, .start, []⟩], []⟩) (i := 0) rfl
    (3 * Resolving.rounds)
  refine ⟨⟨k, (Resolving.start.steps k (3 * Resolving.rounds) s).2, replies⟩, ?_, rfl, ?_⟩
  · rw [run_cons, hstart, hrun, Store.resolve, valid]
    rfl
  · rw [Store.resolve, valid]

/-- **A transaction of one insertion is `Store.hold` and `Store.release`.** -/
theorem run_hold_finish (s : Store) (h : s.held = none) (k : NaturalKey) (keep : Bool) :
    ((opened s).run [.hold k, .finish keep]).store = ((s.hold k).1.release keep).1 := by
  have hclear : ({ s with held := none } : Store) = s := by rw [← h]
  cases hrow : s.newRow k with
  | error e =>
      simp only [run_cons, run_nil, act, opened, hrow, Store.hold, Store.release]
      cases keep with
      | false => exact hclear.symm
      | true => exact hclear.symm
  | ok result =>
      obtain ⟨s', row⟩ := result
      -- taking an id does not touch the held row
      have hheld : s'.held = s.held := by
        rw [Store.newRow, bind_eq_ok_iff] at hrow
        obtain ⟨rows, -, hrow⟩ := hrow
        split at hrow
        · rw [← (Prod.mk.inj (Except.ok.inj hrow)).1]
        · rw [← (Prod.mk.inj (Except.ok.inj hrow)).1]
      have hclear' : ({ s' with held := none } : Store) = s' := by rw [← h, ← hheld]
      simp only [run_cons, run_nil, act, opened, hrow, Store.hold, Store.release, List.any_nil,
        Bool.false_eq_true, if_false, List.nil_append, hclear']
      cases keep with
      | false => rfl
      | true =>
          simp only [List.foldlM_cons, List.foldlM_nil, if_true]
          cases s'.commit ⟨k.dimension, row⟩ with
          | error e => rfl
          | ok committed => rfl

end World

end Footfall
