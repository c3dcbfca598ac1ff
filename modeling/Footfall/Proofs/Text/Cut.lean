import Mathlib
import Footfall.Text.Blank
import Footfall.Text.Cut

/-!
# Marks in a text

A text that is put together of parts can be cut into them again, if no part holds the
mark that ends it.  Cutting at the first occurrence of a longer mark needs one fact more:
the mark must not begin within itself, or an occurrence could start in the part before it.

## Main Definitions

* `Unbordered` — a mark that does not begin within itself

## Main Statements

* `before_append_of_plain`, `afterLast_append`, `afterFirst?_append` — a text is cut where
  it was put together
* `afterFirst?_eq_none`, `afterFirst?_append_of_notMem` — it is not cut where no mark is
* `trimBlanks_append` — blanks around a text go, and those that end its last part
-/

namespace Footfall

/-! ## Single marks -/

section Marks

variable {stop : Char → Bool} {mark : Char} {front rest : List Char}

/-- A text without the mark stands before it. -/
theorem before_eq_self (plain : ∀ c ∈ rest, stop c = false) : before stop rest = rest :=
  List.takeWhile_eq_self_iff.mpr fun c hc => by rw [plain c hc, Bool.not_false]

/-- What holds no mark is passed over. -/
theorem before_append_of_plain (plain : ∀ c ∈ front, stop c = false) :
    before stop (front ++ rest) = front ++ before stop rest :=
  List.takeWhile_append_of_pos fun c hc => by rw [plain c hc, Bool.not_false]

theorem beq_mark_of_notMem (h : mark ∉ rest) : ∀ c ∈ rest.reverse, (c == mark) = false :=
  fun _ hc => beq_eq_false_iff_ne.mpr fun heq => h (heq ▸ List.mem_reverse.mp hc)

/-- A text without the mark stands after the last of them. -/
theorem afterLast_of_notMem (h : mark ∉ rest) : afterLast mark rest = rest := by
  rw [afterLast, before_eq_self (beq_mark_of_notMem h), List.reverse_reverse]

/-- Whatever stands in front of the last mark is cut off. -/
theorem afterLast_append (h : mark ∉ rest) : afterLast mark (front ++ mark :: rest) = rest := by
  have hcut : before (· == mark) (rest.reverse ++ mark :: front.reverse) = rest.reverse :=
    before_append (beq_mark_of_notMem h) (by simp)
  rw [afterLast, List.reverse_append, List.reverse_cons, List.append_assoc,
    List.singleton_append, hcut, List.reverse_reverse]

end Marks

/-! ## Longer marks -/

/-- A mark does not begin within itself: none of its ends is one of its beginnings. -/
def Unbordered (mark : List Char) : Prop :=
  ∀ n ∈ List.range mark.length, 0 < n → ¬ mark.drop n <+: mark

instance (mark : List Char) : Decidable (Unbordered mark) :=
  inferInstanceAs (Decidable (∀ n ∈ _, _))

/-- An occurrence of an unbordered mark does not start right before another one. -/
theorem Unbordered.not_isPrefix {mark front : List Char} (h : Unbordered mark)
    (nonempty : front ≠ []) (absent : ¬ mark <:+: front) (rest : List Char) :
    ¬ mark <+: front ++ (mark ++ rest) := by
  intro hmark
  rcases Nat.lt_or_ge front.length mark.length with hlt | hge
  · -- the mark starts with all of `front`, and its end starts the next occurrence
    obtain ⟨stop, rfl⟩ := List.prefix_of_prefix_length_le (List.prefix_append front _) hmark hlt.le
    have hstop : stop <+: (front ++ stop) ++ rest := (List.prefix_append_right_inj front).mp hmark
    have hborder : stop <+: front ++ stop :=
      List.prefix_of_prefix_length_le hstop (List.prefix_append _ rest) (by simp)
    refine h front.length (List.mem_range.mpr hlt) (List.length_pos_iff.mpr nonempty) ?_
    rwa [List.drop_left]
  · exact absent (List.prefix_of_prefix_length_le hmark (List.prefix_append front _) hge).isInfix

/-- **A text is cut after the first occurrence of an unbordered mark.** -/
theorem afterFirst?_append {mark front : List Char} (h : Unbordered mark)
    (absent : ¬ mark <:+: front) (rest : List Char) :
    afterFirst? mark (front ++ (mark ++ rest)) = some rest := by
  induction front with
  | nil =>
      cases mark with
      | nil => exact absurd (List.nil_infix) absent
      | cons c mark =>
          have hfound : List.isPrefixOf (c :: mark) (c :: (mark ++ rest)) = true :=
            List.isPrefixOf_iff_prefix.mpr (List.prefix_append (c :: mark) rest)
          rw [List.nil_append, List.cons_append, afterFirst?, if_pos hfound, ← List.cons_append,
            List.drop_left]
  | cons c front ih =>
      have hnot : ¬ List.isPrefixOf mark (c :: (front ++ (mark ++ rest))) = true := by
        rw [List.isPrefixOf_iff_prefix]
        exact h.not_isPrefix (List.cons_ne_nil c front) absent rest
      rw [List.cons_append, afterFirst?, if_neg hnot]
      exact ih fun inside => absent (inside.trans (List.suffix_cons c front).isInfix)

/-- A mark that is nowhere in a text is not found. -/
theorem afterFirst?_eq_none {mark cs : List Char} (absent : ¬ mark <:+: cs) :
    afterFirst? mark cs = none := by
  induction cs with
  | nil =>
      have hne : ¬ mark.isEmpty = true := fun hempty =>
        absent (List.isEmpty_iff.mp hempty ▸ List.nil_infix)
      rw [afterFirst?, if_neg hne]
  | cons c cs ih =>
      have hnot : ¬ List.isPrefixOf mark (c :: cs) = true := fun hmark =>
        absent (List.isPrefixOf_iff_prefix.mp hmark).isInfix
      rw [afterFirst?, if_neg hnot]
      exact ih fun inside => absent (inside.trans (List.suffix_cons c cs).isInfix)

/-- A mark does not begin where its first character is missing. -/
theorem afterFirst?_append_of_notMem {first : Char} {front : List Char} (h : first ∉ front)
    (mark rest : List Char) :
    afterFirst? (first :: mark) (front ++ rest) = afterFirst? (first :: mark) rest := by
  induction front with
  | nil => rw [List.nil_append]
  | cons c front ih =>
      have hnot : ¬ List.isPrefixOf (first :: mark) (c :: (front ++ rest)) = true := by
        rw [List.isPrefixOf_iff_prefix, List.cons_prefix_cons]
        exact fun hmark => h (hmark.1 ▸ List.mem_cons_self)
      rw [List.cons_append, afterFirst?, if_neg hnot]
      exact ih fun hmem => h (List.mem_cons_of_mem c hmem)

/-! ## Blanks -/

/-- A digit is one of ten characters. -/
theorem toNat_of_isDigit {c : Char} (h : c.isDigit = true) : 48 ≤ c.toNat ∧ c.toNat ≤ 57 := by
  simpa [Char.isDigit, UInt32.le_iff_toNat_le] using h

theorem isBlank_of_isDigit {c : Char} (h : c.isDigit = true) : isBlank c = false := by
  have hbounds := toNat_of_isDigit h
  delta isBlank
  simp only [Bool.or_eq_false_iff, Bool.and_eq_false_iff, decide_eq_false_iff_not,
    beq_eq_false_iff_ne]
  omega

section Blanks

variable {front rest : List Char}

theorem dropBlanks_append_of_blank (blank : ∀ c ∈ front, isBlank c = true) :
    dropBlanks (front ++ rest) = dropBlanks rest :=
  List.dropWhile_append_of_pos blank

theorem dropBlanks_of_head (h : ∀ c ∈ rest.head?, isBlank c = false) : dropBlanks rest = rest := by
  cases rest with
  | nil => rfl
  | cons c rest =>
      have hc : ¬ isBlank c = true := by simp [h c (by simp)]
      rw [dropBlanks, List.dropWhile_cons_of_neg hc]

/-- What is left without the blanks at the end is the front of a text. -/
theorem isPrefix_reverse_dropBlanks (cs : List Char) : (dropBlanks cs.reverse).reverse <+: cs := by
  rw [← List.reverse_suffix, List.reverse_reverse]
  exact List.dropWhile_suffix _

/-- **Blanks around a text go.**  Of a text whose first part neither starts nor ends with
one, the first part stays, and the last loses the blanks at its end. -/
theorem trimBlanks_append (rest : List Char) {left right : List Char}
    (hleft : ∀ c ∈ left, isBlank c = true) (hright : ∀ c ∈ right, isBlank c = true)
    (nonempty : front ≠ []) (head : ∀ c ∈ front.head?, isBlank c = false)
    (last : ∀ c ∈ front.getLast?, isBlank c = false) :
    trimBlanks (left ++ (front ++ rest) ++ right) =
      front ++ (dropBlanks rest.reverse).reverse := by
  have hfront : dropBlanks (left ++ (front ++ rest) ++ right) = front ++ rest ++ right := by
    rw [List.append_assoc, dropBlanks_append_of_blank hleft, dropBlanks_of_head]
    obtain ⟨c, cs, rfl⟩ := List.exists_cons_of_ne_nil nonempty
    exact head
  have hback : ∀ c ∈ right.reverse, isBlank c = true := fun c hc =>
    hright c (List.mem_reverse.mp hc)
  rw [trimBlanks, hfront, List.reverse_append, dropBlanks_append_of_blank hback,
    List.reverse_append, dropBlanks, List.dropWhile_append]
  have hlast : List.dropWhile isBlank front.reverse = front.reverse :=
    dropBlanks_of_head (by rwa [List.head?_reverse])
  split
  · next hempty =>
    rw [hlast, dropBlanks, List.isEmpty_iff.mp hempty, List.reverse_reverse, List.reverse_nil,
      List.append_nil]
  · rw [List.reverse_append, List.reverse_reverse, dropBlanks]

/-- So it is without blanks around it. -/
theorem trimBlanks_append_of_bare (rest : List Char) (nonempty : front ≠ [])
    (head : ∀ c ∈ front.head?, isBlank c = false)
    (last : ∀ c ∈ front.getLast?, isBlank c = false) :
    trimBlanks (front ++ rest) = front ++ (dropBlanks rest.reverse).reverse := by
  have hnone : ∀ c ∈ ([] : List Char), isBlank c = true := fun c hc =>
    (List.not_mem_nil hc).elim
  have htrim := trimBlanks_append rest hnone hnone nonempty head last
  rwa [List.nil_append, List.append_nil] at htrim

end Blanks

end Footfall
