/-!
# Cutting text

The parts of a text before, between and after marks.

## Main Definitions

* `before` — what stands before the first of a set of characters
* `afterLast` — what stands after the last of one character
* `afterFirst?` — what stands after the first place where another text occurs
* `occursIn` — whether a text occurs in another
-/

namespace Footfall

/-- What stands before the first character that `stop` marks. -/
def before (stop : Char → Bool) (cs : List Char) : List Char :=
  cs.takeWhile fun c => !stop c

/-- What stands after the last `mark`, which is all of a text without one. -/
def afterLast (mark : Char) (cs : List Char) : List Char :=
  (before (· == mark) cs.reverse).reverse

/-- What stands after the first place where `pattern` occurs. -/
def afterFirst? (pattern : List Char) : List Char → Option (List Char)
  | [] => if pattern.isEmpty then some [] else none
  | c :: cs =>
    if pattern.isPrefixOf (c :: cs) then some ((c :: cs).drop pattern.length)
    else afterFirst? pattern cs

/-- Whether `pattern` occurs in a text. -/
def occursIn (pattern cs : List Char) : Bool :=
  (afterFirst? pattern cs).isSome

/-- Whether a text contains another. -/
def contains (text pattern : String) : Bool :=
  occursIn pattern.toList text.toList

theorem not_stop_of_mem_before {stop : Char → Bool} {cs : List Char} {c : Char}
    (h : c ∈ before stop cs) : stop c = false := by
  induction cs with
  | nil => cases h
  | cons d cs ih =>
    unfold before at h
    rw [List.takeWhile_cons] at h
    split at h
    · next hd =>
      rcases List.mem_cons.1 h with rfl | h
      · simpa using hd
      · exact ih h
    · cases h

/-- A text without marks stands before the first of them. -/
theorem before_append {stop : Char → Bool} {cs rest : List Char}
    (h : ∀ c ∈ cs, stop c = false) (hr : ∀ c ∈ rest.head?, stop c = true) :
    before stop (cs ++ rest) = cs := by
  induction cs with
  | nil =>
    cases rest with
    | nil => rfl
    | cons c rest => simp [before, hr c (by simp)]
  | cons c cs ih =>
    have hc := h c List.mem_cons_self
    simp only [before, List.cons_append, List.takeWhile_cons, hc, Bool.not_false, ↓reduceIte,
      List.cons.injEq, true_and]
    exact ih fun d hd => h d (List.mem_cons_of_mem c hd)

end Footfall
