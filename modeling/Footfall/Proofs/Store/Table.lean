import Mathlib
import Footfall.Store.Table

/-!
# What a table finds

A table is its look-up function: the rows are the pairs that look-ups find, and
writing rows one after another is described by what look-ups find afterwards.

## Main Definitions

* `Table.SameExcept` — tables that differ in rows of some keys only

## Main Statements

* `Table.get?_eq_some_iff` — a look-up finds the rows of the table
* `Table.get?_putAll_of_mem`, `Table.get?_putAll_of_notMem` — what is found after
  rows with distinct keys were written
-/

namespace Footfall

namespace Table

open Ranked (rank)

variable {K V : Type} [Ranked K]

theorem rank_inj {a b : K} : rank a = rank b ↔ a = b :=
  ⟨Ranked.rank_injective, congrArg rank⟩

theorem get?_put_self (t : Table K V) (k : K) (v : V) : (t.put k v).get? k = some v := by
  simp [get?_put]

theorem get?_put_of_ne (t : Table K V) {k k' : K} (v : V) (h : k ≠ k') :
    (t.put k v).get? k' = t.get? k' := by
  simp [get?_put, rank_inj, h]

@[simp] theorem get?_empty (k : K) : (empty : Table K V).get? k = none := rfl

theorem find_eq_some_iff {rows : List (K × V)}
    (sorted : rows.Pairwise fun a b => rank a.1 < rank b.1) {k : K} {v : V} :
    find rows k = some v ↔ (k, v) ∈ rows := by
  induction rows with
  | nil => simp [find]
  | cons r rows ih =>
      obtain ⟨hr, sorted⟩ := List.pairwise_cons.mp sorted
      by_cases hk : r.1 = k
      · subst hk
        rw [find_cons_self, List.mem_cons]
        constructor
        · rintro h
          cases h
          exact .inl rfl
        · rintro (h | h)
          · rw [← h]
          · exact absurd (hr _ h) (List.lt_irrefl _)
      · rw [find_cons_of_ne (fun h => hk (rank_inj.mp h)), ih sorted, List.mem_cons]
        constructor
        · exact .inr
        · rintro (h | h)
          · exact absurd (congrArg Prod.fst h).symm hk
          · exact h

/-- A look-up finds the rows of the table. -/
theorem get?_eq_some_iff {t : Table K V} {k : K} {v : V} :
    t.get? k = some v ↔ (k, v) ∈ t.rows :=
  find_eq_some_iff t.sorted

theorem rows_nodup (t : Table K V) : t.rows.Nodup := by
  refine t.sorted.imp fun {a b} hlt heq => ?_
  rw [heq] at hlt
  exact List.lt_irrefl _ hlt

/-- Two tables have the same rows, save for keys of some kind. -/
def SameExcept (p : K → Prop) (t t' : Table K V) : Prop :=
  ∀ k, ¬ p k → t'.get? k = t.get? k

theorem SameExcept.mono {p q : K → Prop} {t t' : Table K V} (h : SameExcept p t t')
    (sub : ∀ k, p k → q k) : SameExcept q t t' :=
  fun k hk => h k (mt (sub k) hk)

/-! ## Writing many rows -/

theorem get?_putAll_of_notMem {t : Table K V} {rows : List (K × V)} {k : K}
    (h : ∀ r ∈ rows, r.1 ≠ k) : (t.putAll rows).get? k = t.get? k := by
  induction rows generalizing t with
  | nil => rfl
  | cons r rows ih =>
      have hrest := ih (t := t.put r.1 r.2) fun x hx => h x (List.mem_cons_of_mem r hx)
      exact hrest.trans (get?_put_of_ne t r.2 (h r List.mem_cons_self))

theorem get?_putAll_of_mem {t : Table K V} {rows : List (K × V)}
    (distinctKeys : (rows.map (·.1)).Nodup) {k : K} {v : V} (h : (k, v) ∈ rows) :
    (t.putAll rows).get? k = some v := by
  induction rows generalizing t with
  | nil => simp at h
  | cons r rows ih =>
      obtain ⟨hr, distinctKeys⟩ := List.nodup_cons.mp distinctKeys
      rcases List.mem_cons.mp h with rfl | h
      · have hrest : ∀ x ∈ rows, x.1 ≠ k := by
          intro x hx heq
          exact hr (List.mem_map.mpr ⟨x, hx, heq⟩)
        exact (get?_putAll_of_notMem hrest).trans (get?_put_self t k v)
      · exact ih distinctKeys h

end Table

end Footfall
