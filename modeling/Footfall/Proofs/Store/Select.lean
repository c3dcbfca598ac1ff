import Mathlib
import Footfall.Proofs.Calendar.Bucket
import Footfall.Store.Select

/-!
# What a selection answers

A selection with a text that the store refuses fails if a row gets as far as to be compared
with it.  If none does, the answer is empty, and it would be if the text were taken.  So what
is answered are the rows that compare with the instants themselves, whatever the instants are.

## Main Statements

* `selectRows_eq_ok_iff` — when a selection succeeds, and what it answers
* `selectRows_cases` — selections that stop at the same places fail or succeed together
* `selectRows_between_eq_ok_iff` — a selection between two instants
-/

namespace Footfall

section Conditions

variable {α : Type} {t : Instant} {test : Timestamp → α → Bool}

namespace Condition

@[simp] theorem admits_ok (own : α → Bool) (r : α) : admits (.ok own) r = own r := rfl

@[simp] theorem fault?_ok (own : α → Bool) : fault? (.ok own : Condition α) = none := rfl

end Condition

theorem Instant.condition_of_storable (h : t.Storable) :
    t.condition test = .ok (test t.toTimestamp) := by
  rw [condition, stored_of_storable h]
  rfl

/-- A comparison with an instant keeps a row back only if the store takes the instant. -/
theorem Instant.admits_condition {r : α} :
    (t.condition test).admits r = true ↔ (t.Storable → test t.toTimestamp r = true) := by
  by_cases h : t.Storable
  · rw [condition_of_storable h, Condition.admits_ok]
    exact ⟨fun hr _ => hr, fun hr => hr h⟩
  · rw [condition, stored_of_not_storable h]
    exact ⟨fun _ hstorable => absurd hstorable h, fun _ => rfl⟩

@[simp] theorem Instant.fault?_condition : (t.condition test).fault? = none ↔ t.Storable := by
  by_cases h : t.Storable
  · simp [condition_of_storable h, h]
  · rw [condition, stored_of_not_storable h]
    simp [Except.map, Condition.fault?, h]

end Conditions

section Selections

variable {α β : Type} {cs : List (Condition α)} {rows selected : List α}

theorem mem_admittedRows {r : α} :
    r ∈ admittedRows cs rows ↔ r ∈ rows ∧ ∀ c ∈ cs, c.admits r = true := by
  rw [admittedRows, List.mem_filter, List.all_eq_true]

/-- A plain test may be made first. -/
theorem admittedRows_cons_ok (own : α → Bool) :
    admittedRows (.ok own :: cs) rows = admittedRows cs (rows.filter own) := by
  rw [admittedRows, admittedRows, List.filter_filter]
  refine List.filter_congr fun r _ => ?_
  rw [List.all_cons, Condition.admits_ok, Bool.and_comm]

theorem selectRows_cons_ok (own : α → Bool) :
    selectRows (.ok own :: cs) rows = selectRows cs (rows.filter own) := by
  simp only [selectRows, admittedRows_cons_ok, List.findSome?_cons, Condition.fault?_ok]

/-- **When a selection succeeds, and what it answers.** -/
theorem selectRows_eq_ok_iff : selectRows cs rows = .ok selected ↔
    selected = admittedRows cs rows ∧
      ((∀ c ∈ cs, c.fault? = none) ∨ admittedRows cs rows = []) := by
  unfold selectRows
  cases hfault : cs.findSome? (·.fault?) with
  | none =>
      have hnone := List.findSome?_eq_none_iff.mp hfault
      rw [Except.ok.injEq, and_iff_left (.inl hnone), eq_comm]
  | some fault =>
      have hsome : ¬ ∀ c ∈ cs, c.fault? = none := fun hnone => by
        rw [List.findSome?_eq_none_iff.mpr hnone] at hfault
        cases hfault
      by_cases hnil : admittedRows cs rows = []
      · simp [hnil, eq_comm]
      · simp [hnil, hsome]

/-- Up to a text that the store refuses, a selection answers nothing or the fault of the text. -/
theorem selectRows_of_fault {fault : StoreFault} (h : cs.findSome? (·.fault?) = some fault)
    (rows : List α) : selectRows cs rows = .ok [] ∨ selectRows cs rows = .error fault := by
  unfold selectRows
  rw [h]
  by_cases hnil : admittedRows cs rows = []
  · exact .inl (by simp [hnil])
  · exact .inr (by simp [hnil])

/-- **Selections with the same faults fail or succeed together** if they admit rows in the same
case. -/
theorem selectRows_cases {cs' : List (Condition β)} {rows' : List β}
    (faults : cs.findSome? (·.fault?) = cs'.findSome? (·.fault?))
    (admitted : admittedRows cs rows = [] ↔ admittedRows cs' rows' = []) :
    (∃ e, selectRows cs rows = .error e ∧ selectRows cs' rows' = .error e) ∨
      selectRows cs rows = .ok (admittedRows cs rows) ∧
        selectRows cs' rows' = .ok (admittedRows cs' rows') := by
  unfold selectRows
  rw [← faults]
  cases cs.findSome? (·.fault?) with
  | none => exact .inr ⟨rfl, rfl⟩
  | some fault =>
      by_cases hnil : admittedRows cs rows = []
      · exact .inr ⟨by simp [hnil], by simp [admitted.mp hnil]⟩
      · exact .inl ⟨fault, by simp [hnil], by simp [mt admitted.mpr hnil]⟩

/-- The tests of conditions that fit them: what passes the tests gets past the conditions, and
without a fault nothing else does. -/
theorem selectRows_eq_ok_iff_of_tests (test : α → Bool)
    (admits : ∀ r, test r = true → ∀ c ∈ cs, c.admits r = true)
    (passes : (∀ c ∈ cs, c.fault? = none) → ∀ r, (∀ c ∈ cs, c.admits r = true) → test r = true) :
    selectRows cs rows = .ok selected ↔ selected = rows.filter test ∧
      ((∀ c ∈ cs, c.fault? = none) ∨ ∀ r ∈ rows, ¬ ∀ c ∈ cs, c.admits r = true) := by
  rw [selectRows_eq_ok_iff]
  have hnil : admittedRows cs rows = [] ↔ ∀ r ∈ rows, ¬ ∀ c ∈ cs, c.admits r = true := by
    simp only [List.eq_nil_iff_forall_not_mem, mem_admittedRows, not_and]
  rw [hnil]
  refine and_congr_left fun h => ?_
  have hrows : admittedRows cs rows = rows.filter test := by
    refine List.filter_congr fun r hr => ?_
    rw [Bool.eq_iff_iff, List.all_eq_true]
    refine ⟨fun hadmits => ?_, admits r⟩
    rcases h with hfaultless | hnone
    · exact passes hfaultless r hadmits
    · exact absurd hadmits (hnone r hr)
  rw [hrows]

/-! ## Selections by instants -/

variable {start stop : Instant} {above below : Timestamp → α → Bool}

/-- **A selection at an instant** succeeds if the store takes the instant or there is no row. -/
theorem selectRows_at_eq_ok_iff :
    selectRows [start.condition above] rows = .ok selected ↔
      selected = rows.filter (above start.toTimestamp) ∧ (start.Storable ∨ rows = []) := by
  rw [selectRows_eq_ok_iff_of_tests (above start.toTimestamp)]
  · simp only [List.forall_mem_singleton, Instant.fault?_condition, Instant.admits_condition]
    refine and_congr_right fun _ => ?_
    by_cases h : start.Storable <;> simp [h, List.eq_nil_iff_forall_not_mem]
  · intro r hr
    rw [List.forall_mem_singleton, Instant.admits_condition]
    exact fun _ => hr
  · intro hfaultless r hadmits
    rw [List.forall_mem_singleton, Instant.fault?_condition] at hfaultless
    rw [List.forall_mem_singleton, Instant.admits_condition] at hadmits
    exact hadmits hfaultless

/-- **A selection between two instants** succeeds if the store takes both or no row passes the
comparison with the one that it does take. -/
theorem selectRows_between_eq_ok_iff :
    selectRows [start.condition above, stop.condition below] rows = .ok selected ↔
      selected = rows.filter (fun r => above start.toTimestamp r && below stop.toTimestamp r) ∧
        (start.Storable ∧ stop.Storable ∨
          ∀ r ∈ rows, ¬ ((start.Storable → above start.toTimestamp r = true) ∧
            (stop.Storable → below stop.toTimestamp r = true))) := by
  rw [selectRows_eq_ok_iff_of_tests
    fun r => above start.toTimestamp r && below stop.toTimestamp r]
  · simp only [List.forall_mem_cons, List.not_mem_nil, false_imp_iff, implies_true, and_true,
      Instant.fault?_condition, Instant.admits_condition]
  · intro r hr
    rw [Bool.and_eq_true] at hr
    simp only [List.forall_mem_cons, List.not_mem_nil, false_imp_iff, implies_true, and_true,
      Instant.admits_condition]
    exact ⟨fun _ => hr.1, fun _ => hr.2⟩
  · intro hfaultless r hadmits
    simp only [List.forall_mem_cons, List.not_mem_nil, false_imp_iff, implies_true, and_true,
      Instant.fault?_condition, Instant.admits_condition] at hfaultless hadmits
    rw [Bool.and_eq_true]
    exact ⟨hadmits.1 hfaultless.1, hadmits.2 hfaultless.2⟩

end Selections

end Footfall
