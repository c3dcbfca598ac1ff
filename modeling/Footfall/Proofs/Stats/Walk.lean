import Mathlib
import Footfall.Proofs.Calendar.Grid
import Footfall.Stats.Densify

/-!
# Walks over buckets

A walk goes from one boundary to the next, as long as this leads forward and not past
the end.  Over the buckets of a granularity it misses none of them: its place `i` is the
start of the bucket `i` after the first one.  What is said of a filled series follows
from that, be it the number of its points, their ends or their members.

## Main Definitions

* `Granularity.boundaries` — the starts of the buckets of a range

## Main Statements

* `pairwise_walk`, `isChain_walk` — a walk leads forward, step by step
* `Granularity.getElem?_walk` — the places of a walk over buckets
* `Granularity.length_boundaries`, `Granularity.mem_boundaries` — the starts of a range
-/

namespace Footfall

/-! ## Walks -/

/-- Instants in strict order are not repeated. -/
theorem Instant.nodup_of_pairwise_lt {ts : List Instant} (h : ts.Pairwise (· < ·)) : ts.Nodup := by
  refine h.imp ?_
  rintro a b hlt rfl
  exact Int.lt_irrefl _ hlt

section Walk

variable {step : Instant → Instant} {stop cursor t : Instant}

/-- A walk leads forward from its first boundary. -/
theorem le_of_mem_walk (h : t ∈ walk step stop cursor) : cursor ≤ t := by
  induction cursor using walk.induct step stop with
  | case1 cursor hle hlt ih =>
      rw [walk, if_pos hle, if_pos hlt, List.mem_cons] at h
      rcases h with rfl | h
      · exact Int.le_refl _
      · exact Int.le_of_lt (Int.lt_of_lt_of_le hlt (ih h))
  | case2 cursor hle hlt =>
      rw [walk, if_pos hle, if_neg hlt, List.mem_singleton] at h
      rw [h]
      exact Int.le_refl _
  | case3 cursor hle =>
      rw [walk, if_neg hle] at h
      cases h

/-- **A walk leads forward.** -/
theorem pairwise_walk (step : Instant → Instant) (stop cursor : Instant) :
    (walk step stop cursor).Pairwise (· < ·) := by
  induction cursor using walk.induct step stop with
  | case1 cursor hle hlt ih =>
      rw [walk, if_pos hle, if_pos hlt, List.pairwise_cons]
      exact ⟨fun t ht => Int.lt_of_lt_of_le hlt (le_of_mem_walk ht), ih⟩
  | case2 cursor hle hlt =>
      rw [walk, if_pos hle, if_neg hlt]
      exact List.pairwise_singleton _ _
  | case3 cursor hle =>
      rw [walk, if_neg hle]
      exact .nil

theorem nodup_walk (step : Instant → Instant) (stop cursor : Instant) :
    (walk step stop cursor).Nodup :=
  Instant.nodup_of_pairwise_lt (pairwise_walk step stop cursor)

/-- A walk that does not end at once starts at its first boundary. -/
theorem head?_walk_of_mem (h : t ∈ (walk step stop cursor).head?) : t = cursor := by
  rw [walk] at h
  split at h
  · split at h <;> exact (Option.some.inj h).symm
  · cases h

/-- **Each boundary of a walk is the step of the one before.** -/
theorem isChain_walk (step : Instant → Instant) (stop cursor : Instant) :
    (walk step stop cursor).IsChain fun a b => b = step a := by
  induction cursor using walk.induct step stop with
  | case1 cursor hle hlt ih =>
      rw [walk, if_pos hle, if_pos hlt, List.isChain_cons]
      exact ⟨fun t ht => head?_walk_of_mem ht, ih⟩
  | case2 cursor hle hlt =>
      rw [walk, if_pos hle, if_neg hlt]
      exact .singleton _
  | case3 cursor hle =>
      rw [walk, if_neg hle]
      exact .nil

end Walk

/-! ## Walks over buckets -/

namespace Granularity

variable {g : Granularity} {first last : ℤ} {start stop cursor t u : Instant}

/-- **A walk over buckets misses none of them**: its place `i` is the start of the bucket
`i` after the first one. -/
theorem getElem?_walk (hfirst : g.Starts first cursor) (hlast : g.Starts last stop) (i : ℕ) :
    (walk g.step stop cursor)[i]? = some t ↔ first + i ≤ last ∧ g.Starts (first + i) t := by
  induction cursor using walk.induct g.step stop generalizing first i with
  | case1 cursor hle hlt ih =>
      rw [walk, if_pos hle, if_pos hlt]
      rw [hfirst.le_iff hlast] at hle
      rcases starts_step_or hfirst with hnext | ⟨hstay, -⟩
      · cases i with
        | zero =>
            rw [List.getElem?_cons_zero, Option.some_inj, Nat.cast_zero, add_zero]
            exact ⟨fun h => ⟨hle, h ▸ hfirst⟩, fun h => hfirst.unique h.2⟩
        | succ i =>
            have hplace : first + ((i + 1 : ℕ) : ℤ) = first + 1 + i := by
              push_cast
              omega
            rw [List.getElem?_cons_succ, ih hnext, hplace]
      · rw [hstay] at hlt
        exact absurd hlt (Int.lt_irrefl _)
  | case2 cursor hle hlt =>
      rw [walk, if_pos hle, if_neg hlt]
      rw [hfirst.le_iff hlast] at hle
      rcases starts_step_or hfirst with hnext | ⟨-, hend⟩
      · rw [hfirst.lt_iff hnext] at hlt
        omega
      · -- the walk has come to the last bucket of the calendar
        have hlater := hend last stop hlast
        cases i with
        | zero =>
            rw [List.getElem?_cons_zero, Option.some_inj, Nat.cast_zero, add_zero]
            exact ⟨fun h => ⟨hle, h ▸ hfirst⟩, fun h => hfirst.unique h.2⟩
        | succ i =>
            rw [List.getElem?_cons_succ, List.getElem?_nil]
            constructor
            · intro h
              cases h
            · intro h
              omega
  | case3 cursor hle =>
      rw [walk, if_neg hle]
      rw [hfirst.le_iff hlast] at hle
      constructor
      · intro h
        cases h
      · intro h
        omega

theorem mem_walk (hfirst : g.Starts first cursor) (hlast : g.Starts last stop) :
    t ∈ walk g.step stop cursor ↔ ∃ n, first ≤ n ∧ n ≤ last ∧ g.Starts n t := by
  rw [List.mem_iff_getElem?]
  simp only [getElem?_walk hfirst hlast]
  constructor
  · rintro ⟨i, hle, hi⟩
    exact ⟨first + i, by omega, hle, hi⟩
  · rintro ⟨n, hfrom, hto, hn⟩
    obtain ⟨i, rfl⟩ := Int.le.dest hfrom
    exact ⟨i, hto, hn⟩

/-! ## The boundaries of a range -/

/-- The starts of the buckets from the one that holds `start` to the one that holds `stop`. -/
def boundaries (g : Granularity) (start stop : Instant) : List Instant :=
  walk g.step (g.truncate stop) (g.truncate start)

theorem getElem?_boundaries (i : ℕ) :
    (g.boundaries start stop)[i]? = some t ↔
      g.numberOf start.seconds + i ≤ g.numberOf stop.seconds ∧
        g.Starts (g.numberOf start.seconds + i) t :=
  getElem?_walk (starts_truncate g start) (starts_truncate g stop) i

theorem mem_boundaries :
    t ∈ g.boundaries start stop ↔
      ∃ n, g.numberOf start.seconds ≤ n ∧ n ≤ g.numberOf stop.seconds ∧ g.Starts n t :=
  mem_walk (starts_truncate g start) (starts_truncate g stop)

/-- The buckets of instants that lie in a range by their seconds are buckets of the range. -/
theorem truncate_mem_boundaries (hfrom : start.seconds ≤ t.seconds)
    (hto : t.seconds ≤ stop.seconds) : g.truncate t ∈ g.boundaries start stop :=
  mem_boundaries.mpr ⟨g.numberOf t.seconds, numberOf_mono g hfrom, numberOf_mono g hto,
    starts_truncate g t⟩

/-- A walk over a range has a place for each of its buckets. -/
theorem lt_length_boundaries_iff (g : Granularity) (start stop : Instant) (i : ℕ) :
    i < (g.boundaries start stop).length ↔
      g.numberOf start.seconds + i ≤ g.numberOf stop.seconds := by
  have hplace : i < (g.boundaries start stop).length ↔
      ∃ t, (g.boundaries start stop)[i]? = some t := by
    rw [← Option.isSome_iff_exists, isSome_getElem?]
  rw [hplace]
  simp only [getElem?_boundaries]
  constructor
  · rintro ⟨t, hle, -⟩
    exact hle
  · intro hle
    obtain ⟨t, ht⟩ := exists_starts (starts_truncate g start) (starts_truncate g stop)
      (n := g.numberOf start.seconds + i) (by omega) hle
    exact ⟨t, hle, ht⟩

/-- **A range has as many boundaries as buckets**, and none if its end lies in an earlier bucket. -/
theorem length_boundaries_eq_max (g : Granularity) (start stop : Instant) :
    ((g.boundaries start stop).length : ℤ) = max 0 (g.bucketCount start stop) := by
  have hfirst := lt_length_boundaries_iff g start stop 0
  have hlast := lt_length_boundaries_iff g start stop ((g.boundaries start stop).length - 1)
  have hafter := lt_length_boundaries_iff g start stop (g.boundaries start stop).length
  rw [bucketCount_eq]
  omega

theorem length_boundaries (h : start ≤ stop) :
    ((g.boundaries start stop).length : ℤ) = g.bucketCount start stop := by
  have horder := numberOf_le g h
  rw [length_boundaries_eq_max, bucketCount_eq]
  omega

/-- The first boundary is the start of the bucket that holds the start. -/
theorem head?_boundaries (h : start ≤ stop) :
    (g.boundaries start stop).head? = some (g.truncate start) := by
  have horder := numberOf_le g h
  rw [List.head?_eq_getElem?, getElem?_boundaries, Nat.cast_zero, add_zero]
  exact ⟨horder, starts_truncate g start⟩

/-- The last boundary, if there is one, is the start of the bucket that holds the end. -/
theorem eq_of_mem_getLast?_boundaries (h : t ∈ (g.boundaries start stop).getLast?) :
    t = g.truncate stop := by
  have hlength := length_boundaries_eq_max g start stop
  have hpos := List.length_pos_of_mem (List.mem_of_getLast? h)
  rw [bucketCount_eq] at hlength
  have hplace : g.numberOf start.seconds + (((g.boundaries start stop).length - 1 : ℕ) : ℤ) =
      g.numberOf stop.seconds := by omega
  rw [List.getLast?_eq_getElem?, Option.mem_def, getElem?_boundaries, hplace] at h
  exact h.2.unique (starts_truncate g stop)

theorem getLast?_boundaries (h : start ≤ stop) :
    (g.boundaries start stop).getLast? = some (g.truncate stop) := by
  have hne : g.boundaries start stop ≠ [] := fun hnil => by
    have hhead := head?_boundaries (g := g) h
    rw [hnil] at hhead
    cases hhead
  have hlast := List.getLast?_eq_some_getLast hne
  rw [hlast, eq_of_mem_getLast?_boundaries hlast]

end Granularity

end Footfall
