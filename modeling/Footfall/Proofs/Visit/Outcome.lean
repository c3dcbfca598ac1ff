import Mathlib
import Footfall.Proofs.Text.Cut
import Footfall.Proofs.Visit.Sighting

/-!
# What a record call reports

A record call that succeeds reports the id of its fact and the dimensions that
stayed unresolved.  Under that id there is a fact with the names of the event,
and the reported dimensions are those of which the event says something and the
fact nothing.

## Main Definitions

* `Event.given` — what an event says of a dimension, with the blanks around it

## Main Statements

* `present_eq_none_iff` — a value is absent if nothing but blanks is left of it
* `Store.record_eq_ok` — what a record call that succeeds did
* `Store.exists_fact_of_record` — the fact that it left
* `Store.get_settled_eq_none_iff_of_record` — the dimensions that it reports
-/

namespace Footfall

/-! ## Blanks -/

theorem trimBlanks_eq_nil_iff {cs : List Char} :
    trimBlanks cs = [] ↔ ∀ c ∈ cs, isBlank c = true := by
  rw [trimBlanks, List.reverse_eq_nil_iff, dropBlanks, List.dropWhile_eq_nil_iff]
  simp only [List.mem_reverse]
  constructor
  · intro h c hc
    -- what stands before the first character that is not blank, and the rest
    rw [← List.takeWhile_append_dropWhile (p := isBlank) (l := cs)] at hc
    rcases List.mem_append.mp hc with hc | hc
    · exact List.mem_takeWhile_imp hc
    · exact h c hc
  · intro h c hc
    exact h c ((List.dropWhile_sublist isBlank).subset hc)

theorem isPrefix_trimBlanks (cs : List Char) : trimBlanks cs <+: dropBlanks cs :=
  isPrefix_reverse_dropBlanks _

/-- A text that does not start with a blank is more than blanks. -/
theorem trimBlanks_ne_nil {cs ds : List Char} (nonempty : cs ≠ []) (front : cs <+: dropBlanks ds) :
    trimBlanks cs ≠ [] := by
  obtain ⟨c, cs, rfl⟩ := List.exists_cons_of_ne_nil nonempty
  obtain ⟨rest, hrest⟩ := front
  have hfirst := List.head?_dropWhile_not isBlank ds
  rw [show ds.dropWhile isBlank = c :: cs ++ rest from hrest.symm] at hfirst
  rw [Ne, trimBlanks_eq_nil_iff]
  intro hblank
  have hc := hblank c List.mem_cons_self
  rw [show isBlank c = false from hfirst] at hc
  cases hc

theorem isPrefix_before (stop : Char → Bool) (cs : List Char) : before stop cs <+: cs :=
  List.takeWhile_prefix _

theorem isPrefix_dropQuery (cs : List Char) : dropQuery cs <+: cs :=
  (isPrefix_before _ _).trans (isPrefix_before _ _)

/-! ## Present values -/

/-- A value is absent if nothing but blanks is left of it. -/
theorem present_eq_none_iff {value : Option String} :
    present value = none ↔ ∀ text, value = some text → trim text = "" := by
  cases value with
  | none => simp [present]
  | some text => simp [present, Option.filter_eq_none_iff]

/-- What is left of a value is the value without the blanks around it. -/
theorem map_trim_of_present {value : Option String} {name : String}
    (h : present value = some name) : value.map trim = some name :=
  (Option.filter_eq_some_iff.mp h).1

/-- Something is left of a path that is not refused. -/
theorem present_withoutQuery {path : String} (h : (withoutQuery path).isEmpty = false) :
    present (some (withoutQuery path)) = some (trim (withoutQuery path)) := by
  have hne : dropQuery (trimBlanks path.toList) ≠ [] := by
    intro hnil
    rw [withoutQuery, hnil] at h
    cases h
  have htrim := trimBlanks_ne_nil hne
    ((isPrefix_dropQuery _).trans (isPrefix_trimBlanks path.toList))
  rw [present, Option.map_some, Option.filter_some, if_pos]
  simpa [trim, withoutQuery] using htrim

/-- What an event says of a dimension, with the blanks around it. -/
def Event.given (e : Event) (attrs : Attributes) : Dimension → Option String
  | .referrer => e.referrer.bind referrerHost
  | .path => some (withoutQuery e.path)
  | d => attrs.get d

theorem Event.get_values (e : Event) (attrs : Attributes) (d : Dimension) :
    (e.values attrs).get d = present (e.given attrs d) := by
  rw [values, PerDimension.get_ofFn]
  cases d <;> rfl

/-! ## Calls that succeed -/

namespace Store

variable {s s' : Store} {v : Visit} {now : Instant} {o : Outcome}

/-- **What a record call that succeeds did.**  It wrote the fact of a visit that is
not refused, and reports it. -/
theorem record_eq_ok (c : s.Complete) (sound : s.Referential)
    (h : s.record v.event v.attributes v.policy now = (s', .ok o)) :
    ¬ v.Refused ∧ ∃ r, Recording.Settles s v.values Dimension.all r ∧
      s' = r.store.withFact (v.time now).toTimestamp v.event.site v.event.visitor r.ids ∧
      o = ⟨(r.store.factIds.getD 0 : ℕ) + 1, v.time now, v.event.site, v.event.visitor, r.ids,
        r.unresolved⟩ := by
  have hrun := Recording.run_settles c sound v.values_ne_empty
  by_cases refused : v.Refused
  · obtain ⟨_, _, heq, -⟩ := record_of_refused c sound refused now
    rw [heq] at h
    cases h
  by_cases storable : (v.time now).Storable
  · rw [record_of_storable c sound refused storable] at h
    generalize Recording.run s v.values = r at hrun h
    cases h
    exact ⟨refused, r, hrun, rfl, rfl⟩
  · rw [record_of_not_storable c sound refused storable] at h
    generalize Recording.run s v.values = r at h
    cases h

/-- **A record call that succeeds leaves a fact** under the id that it reports,
with the settled values behind its ids. -/
theorem exists_fact_of_record (c : s.Complete) (sound : s.Referential)
    (h : s.record v.event v.attributes v.policy now = (s', .ok o)) :
    ∃ f ∈ s'.factList, f.id = o.id ∧ s'.sight f =
      ⟨(v.time now).toTimestamp, v.event.site, v.event.visitor, settled v.values⟩ := by
  obtain ⟨-, r, hrun, rfl, rfl⟩ := record_eq_ok c sound h
  refine ⟨_, List.mem_append_right _ (List.mem_singleton_self _), rfl, ?_⟩
  rw [← hrun.names_eq]
  rfl

/-- Something is left of its path. -/
theorem present_path_of_record (c : s.Complete) (sound : s.Referential)
    (h : s.record v.event v.attributes v.policy now = (s', .ok o)) :
    v.values.get .path = some (trim (withoutQuery v.event.path)) := by
  obtain ⟨kept, -⟩ := record_eq_ok c sound h
  have hpath : (withoutQuery v.event.path).isEmpty = false := by
    rw [← Bool.not_eq_true]
    exact fun hempty => kept (.inr (.inl hempty))
  exact (v.event.get_values v.attributes .path).trans (present_withoutQuery hpath)

/-- The reported dimensions are those with a value that is not settled. -/
theorem mem_unresolved_of_record (c : s.Complete) (sound : s.Referential)
    (h : s.record v.event v.attributes v.policy now = (s', .ok o)) (d : Dimension) :
    d ∈ o.unresolved.map (·.dimension) ↔ (settled v.values).get d ≠ v.values.get d := by
  obtain ⟨-, r, hrun, -, rfl⟩ := record_eq_ok c sound h
  rw [hrun.unresolved, and_iff_right (Dimension.mem_all d)]

/-- A dimension without a name has no value, or it is reported. -/
theorem get_settled_eq_none_iff_of_record (c : s.Complete) (sound : s.Referential)
    (h : s.record v.event v.attributes v.policy now = (s', .ok o)) (d : Dimension) :
    (settled v.values).get d = none ↔
      v.values.get d = none ∨ d ∈ o.unresolved.map (·.dimension) := by
  rw [mem_unresolved_of_record c sound h]
  rcases get_settled_eq_or v.values d with hd | hd
  · rw [hd, Ne, eq_self, not_true, or_false]
  · rw [hd, eq_self, true_iff, eq_comm]
    exact em _

end Store

end Footfall
