/-!
# Tables with a primary key

A table holds at most one row for each key. Its rows are kept in the order of their keys, so two
tables with the same rows are equal.

## Main Definitions

* `Ranked` — keys with a place in an order, given by a list of numbers
* `Table` — rows with distinct keys, in the order of their keys
* `Table.get?`, `Table.put` — look a row up, and write one over the row that has its key
* `Table.putAll` — writes rows one after another

## Main Statements

* `Table.get?_put` — writing a row changes what its key finds and nothing else
* `Table.ext_get?` — tables that find the same rows are equal
-/

namespace Footfall

/-- Keys with a place in an order. -/
class Ranked (K : Type) where
  /-- The place of a key; places compare as lists of numbers. -/
  rank : K → List Int
  /-- No two keys share a place. -/
  rank_injective : ∀ {a b : K}, rank a = rank b → a = b

open Ranked (rank)

/-- Rows with distinct keys, in the order of their keys. -/
structure Table (K V : Type) [Ranked K] where
  /-- The rows, each with its key. -/
  rows : List (K × V)
  /-- The keys stand in strict order. -/
  sorted : rows.Pairwise fun a b => rank a.1 < rank b.1

namespace Table

variable {K V : Type} [Ranked K]

/-- The table without rows. -/
def empty : Table K V := ⟨[], .nil⟩

instance : Inhabited (Table K V) := ⟨empty⟩

/-- The row of a key in a list of rows. -/
def find (rows : List (K × V)) (k : K) : Option V :=
  (rows.find? fun r => rank r.1 == rank k).map (·.2)

/-- Writes a row to its place in an ordered list, over the row that has its key. -/
def place (k : K) (v : V) : List (K × V) → List (K × V)
  | [] => [(k, v)]
  | r :: rows =>
    if rank k < rank r.1 then (k, v) :: r :: rows
    else if rank k = rank r.1 then (k, v) :: rows
    else r :: place k v rows

/-- The keys after writing a row are the old ones and its own. -/
theorem rank_mem_place {k : K} {v : V} {rows : List (K × V)} {x : K × V}
    (h : x ∈ place k v rows) : x ∈ rows ∨ x = (k, v) := by
  induction rows with
  | nil => simpa [place] using h
  | cons r rows ih =>
    unfold place at h
    split at h
    · rcases List.mem_cons.1 h with h | h
      · exact .inr h
      · exact .inl h
    · split at h
      · rcases List.mem_cons.1 h with h | h
        · exact .inr h
        · exact .inl (List.mem_cons_of_mem _ h)
      · rcases List.mem_cons.1 h with h | h
        · exact .inl (h ▸ List.mem_cons_self)
        · rcases ih h with h | h
          · exact .inl (List.mem_cons_of_mem _ h)
          · exact .inr h

/-- Of two places one comes first, or they are one place. -/
theorem rank_lt_of_not {a b : List Int} (h₁ : ¬ a < b) (h₂ : a ≠ b) : b < a :=
  Decidable.byContradiction fun h =>
    h₂ (List.le_antisymm (List.not_lt.1 h) (List.not_lt.1 h₁))

theorem place_sorted {k : K} {v : V} {rows : List (K × V)}
    (h : rows.Pairwise fun a b => rank a.1 < rank b.1) :
    (place k v rows).Pairwise fun a b => rank a.1 < rank b.1 := by
  induction rows with
  | nil => simp [place]
  | cons r rows ih =>
    have ⟨hr, hrows⟩ := List.pairwise_cons.1 h
    unfold place
    split
    · next hlt =>
      refine List.pairwise_cons.2 ⟨fun x hx => ?_, h⟩
      rcases List.mem_cons.1 hx with rfl | hx
      · exact hlt
      · exact List.lt_trans hlt (hr x hx)
    · next hlt =>
      split
      · next heq =>
        exact List.pairwise_cons.2 ⟨fun x hx => heq ▸ hr x hx, hrows⟩
      · next hne =>
        refine List.pairwise_cons.2 ⟨fun x hx => ?_, ih hrows⟩
        rcases rank_mem_place hx with hx | rfl
        · exact hr x hx
        · exact rank_lt_of_not hlt hne

/-- The row of a key. -/
def get? (t : Table K V) (k : K) : Option V :=
  find t.rows k

/-- Writes a row over the row that has its key. -/
def put (t : Table K V) (k : K) (v : V) : Table K V :=
  ⟨place k v t.rows, place_sorted t.sorted⟩

/-- Writes rows one after another. -/
def putAll (t : Table K V) (rows : List (K × V)) : Table K V :=
  rows.foldl (fun t r => t.put r.1 r.2) t

theorem find_place (k k' : K) (v : V) (rows : List (K × V)) :
    find (place k v rows) k' = if rank k = rank k' then some v else find rows k' := by
  unfold find
  induction rows with
  | nil => by_cases h : rank k = rank k' <;> simp [place, h]
  | cons r rows ih =>
    unfold place
    split
    · by_cases h : rank k = rank k' <;> simp [h]
    · split
      · next heq =>
        rw [List.find?_cons, List.find?_cons]
        by_cases h : rank k = rank k'
        · simp [h]
        · have : (rank k == rank k') = false := by simpa using h
          simp [← heq, this, h]
      · next hne =>
        rw [List.find?_cons, List.find?_cons]
        by_cases h : rank r.1 = rank k'
        · simp only [h, beq_self_eq_true]
          rw [if_neg (fun e => hne (e.trans h.symm))]
        · have : (rank r.1 == rank k') = false := by simpa using h
          simp only [this]
          exact ih

/-- Writing a row changes what its key finds and nothing else. -/
theorem get?_put (t : Table K V) (k k' : K) (v : V) :
    (t.put k v).get? k' = if rank k = rank k' then some v else t.get? k' :=
  find_place k k' v t.rows

theorem find_eq_none {rows : List (K × V)} {k : K} (h : ∀ x ∈ rows, rank k < rank x.1) :
    find rows k = none := by
  unfold find
  rw [List.find?_eq_none.2]
  · rfl
  · intro x hx he
    have : rank x.1 = rank k := by simpa using he
    exact List.lt_irrefl _ (this ▸ h x hx)

theorem find_cons_self (r : K × V) (rows : List (K × V)) : find (r :: rows) r.1 = some r.2 := by
  simp [find]

theorem find_cons_of_ne {r : K × V} {rows : List (K × V)} {k : K} (h : rank r.1 ≠ rank k) :
    find (r :: rows) k = find rows k := by
  have : (rank r.1 == rank k) = false := by simpa using h
  simp only [find, List.find?_cons, this]

theorem eq_of_find {a b : List (K × V)} (ha : a.Pairwise fun x y => rank x.1 < rank y.1)
    (hb : b.Pairwise fun x y => rank x.1 < rank y.1) (h : ∀ k, find a k = find b k) : a = b := by
  induction a generalizing b with
  | nil =>
    cases b with
    | nil => rfl
    | cons r b => simpa [find] using (h r.1)
  | cons r a ih =>
    have ⟨hr, ha'⟩ := List.pairwise_cons.1 ha
    cases b with
    | nil => simpa [find] using (h r.1)
    | cons s b =>
      have ⟨hs, hb'⟩ := List.pairwise_cons.1 hb
      have hrs : rank r.1 = rank s.1 := by
        by_cases hlt : rank r.1 < rank s.1
        · have h1 := h r.1
          rw [find_cons_self, find_eq_none] at h1
          · cases h1
          · intro x hx
            rcases List.mem_cons.1 hx with rfl | hx
            · exact hlt
            · exact List.lt_trans hlt (hs x hx)
        · by_cases heq : rank r.1 = rank s.1
          · exact heq
          · have hlt' := rank_lt_of_not hlt heq
            have h1 := h s.1
            rw [find_cons_self, find_eq_none] at h1
            · cases h1
            · intro x hx
              rcases List.mem_cons.1 hx with rfl | hx
              · exact hlt'
              · exact List.lt_trans hlt' (hr x hx)
      have hk : r.1 = s.1 := Ranked.rank_injective hrs
      have hv : r.2 = s.2 := by
        have h1 := h r.1
        rw [find_cons_self, hk, find_cons_self] at h1
        exact Option.some.inj h1
      have hrest : a = b := by
        refine ih ha' hb' fun k => ?_
        by_cases he : rank r.1 = rank k
        · rw [find_eq_none (fun x hx => he ▸ hr x hx),
            find_eq_none (fun x hx => (he ▸ hrs ▸ hs x hx))]
        · have h1 := h k
          rwa [find_cons_of_ne he, find_cons_of_ne (hrs ▸ he)] at h1
      rw [hrest, show r = s from Prod.ext hk hv]

/-- Tables that find the same rows are equal. -/
theorem ext_get? {a b : Table K V} (h : ∀ k, a.get? k = b.get? k) : a = b := by
  have := eq_of_find a.sorted b.sorted h
  cases a; cases b
  simpa using this

end Table

end Footfall
