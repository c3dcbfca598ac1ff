import Mathlib
import Footfall.Proofs.Visit.ReferrerHost

/-!
# The host of an address without a scheme

An address without a scheme starts with its host, and a path, a query or a fragment may
follow.  A scheme's mark is looked for in all of the text, before it is known where the
host ends.  So the host is its own as long as no address is written in its tail.  If one
is, what stands in front of the mark is taken for a scheme, and the host is that of the
other address.

## Main Definitions

* `BareAddress` — an address without a scheme, in its parts

## Main Statements

* `referrerHost_bareAddress` — the host of such an address is its own, unless another
  address is written in its tail
* `not_referrerHost_eq_host` — a visit is attributed to the address in a query
-/

namespace Footfall

/-- **An address without a scheme, in its parts.** -/
structure BareAddress where
  /-- The host. -/
  host : List Char
  /-- Path, query and fragment, which may be missing. -/
  tail : List Char
  /-- There is a host. -/
  host_nonempty : host ≠ []
  /-- It has no blanks and no marks. -/
  host_plain : ∀ c ∈ host, isBlank c = false ∧ endsAuthority c = false ∧ c ≠ '@' ∧ c ≠ ':'
  /-- The tail starts where the host ends. -/
  tail_marked : ∀ c ∈ tail.head?, endsAuthority c = true

namespace BareAddress

variable (a : BareAddress)

/-- The address as it is sent. -/
def text : String :=
  String.ofList (a.host ++ a.tail)

/-- The host as it is kept. -/
def keptHost : String :=
  String.ofList (a.host.map Char.toLower)

variable {a}

theorem not_isBlank_host_head? (rest : List Char) :
    ∀ c ∈ (a.host ++ rest).head?, isBlank c = false := by
  obtain ⟨c, cs, hcs⟩ := List.exists_cons_of_ne_nil a.host_nonempty
  intro d hd
  rw [hcs, List.cons_append, List.head?_cons, Option.mem_some_iff] at hd
  subst d
  exact (a.host_plain c (hcs ▸ List.mem_cons_self)).1

/-- What is left of an address starts with the host. -/
theorem trimBlanks_text {front : List Char} (rest : List Char)
    (parts : a.tail = front ++ rest)
    (last : ∀ c ∈ (a.host ++ front).getLast?, isBlank c = false) :
    trimBlanks a.text.toList = a.host ++ front ++ (dropBlanks rest.reverse).reverse := by
  rw [text, String.toList_ofList, parts, ← List.append_assoc]
  exact trimBlanks_append_of_bare rest
    (List.append_ne_nil_of_left_ne_nil a.host_nonempty front) (not_isBlank_host_head? front) last

/-- The host of an authority that is nothing else is found. -/
theorem hostOfAuthority_host : hostOfAuthority a.host = a.host := by
  have hat : '@' ∉ a.host := fun hmem => (a.host_plain _ hmem).2.2.1 rfl
  have hcolon : ∀ c ∈ a.host, (c == ':') = false := fun c hc =>
    beq_eq_false_iff_ne.mpr (a.host_plain c hc).2.2.2
  rw [hostOfAuthority, afterLast_of_notMem hat, before_eq_self hcolon]

/-- No mark of a scheme starts in the host. -/
theorem afterFirst?_host_append (rest : List Char) :
    afterFirst? schemeMark (a.host ++ rest) = afterFirst? schemeMark rest :=
  afterFirst?_append_of_notMem (fun hmem => (a.host_plain _ hmem).2.2.2 rfl) _ rest

/-- **Without an address in its tail** an address is attributed to its own host. -/
theorem referrerHost_of_plainTail (plain : ¬ schemeMark <:+: a.tail) :
    referrerHost a.text = some a.keptHost := by
  obtain ⟨tail, hprefix, htrim⟩ : ∃ tail, tail <+: a.tail ∧
      trimBlanks a.text.toList = a.host ++ tail := by
    refine ⟨_, isPrefix_reverse_dropBlanks a.tail, ?_⟩
    rw [trimBlanks_text a.tail (List.nil_append _).symm, List.append_nil]
    rw [List.append_nil]
    exact fun c hc => (a.host_plain c (List.mem_of_getLast? hc)).1
  have hnone : afterFirst? schemeMark (a.host ++ tail) = none := by
    rw [afterFirst?_host_append]
    exact afterFirst?_eq_none fun inside => plain (inside.trans hprefix.isInfix)
  have hauthority : before endsAuthority (a.host ++ tail) = a.host := by
    refine before_append (fun c hc => (a.host_plain c hc).2.1) fun c hc => ?_
    obtain ⟨rest, hrest⟩ := hprefix
    refine a.tail_marked c ?_
    rw [← hrest, List.head?_append, Option.mem_def.mp hc]
    rfl
  have hfull : ¬ a.host.isEmpty = true := by
    rw [List.isEmpty_iff]
    exact a.host_nonempty
  rw [schemeMark] at hnone
  rw [referrerHost, htrim]
  simp only [hnone, Option.getD_none, hauthority, hostOfAuthority_host, if_neg hfull, keptHost]

/-- The host depends on what follows the first mark of a scheme alone. -/
theorem referrerHost_congr {text other : String} (rest : List Char)
    (found : afterFirst? schemeMark (trimBlanks text.toList) = some rest)
    (alike : afterFirst? schemeMark (trimBlanks other.toList) = some rest) :
    referrerHost text = referrerHost other := by
  rw [schemeMark] at found alike
  rw [referrerHost, referrerHost]
  simp only [found, alike, Option.getD_some]

/-- **With an address in its tail** an address is attributed to the host of that one, as if
nothing stood in front of its mark. -/
theorem referrerHost_of_embedded {front rest : List Char}
    (parts : a.tail = front ++ (schemeMark ++ rest)) (first : ¬ schemeMark <:+: front) :
    referrerHost a.text = referrerHost (String.ofList (schemeMark ++ rest)) := by
  have hne : schemeMark ≠ [] := by simp [schemeMark]
  have hhead : ∀ c ∈ schemeMark.head?, isBlank c = false := by simp [schemeMark, isBlank]
  have hlast : ∀ c ∈ schemeMark.getLast?, isBlank c = false := by simp [schemeMark, isBlank]
  -- both texts lose the same blanks, which are behind the mark
  have hown : trimBlanks a.text.toList =
      a.host ++ (front ++ (schemeMark ++ (dropBlanks rest.reverse).reverse)) := by
    have hparts : a.tail = (front ++ schemeMark) ++ rest := by rw [parts, List.append_assoc]
    rw [trimBlanks_text rest hparts]
    · simp only [List.append_assoc]
    · rwa [← List.append_assoc, List.getLast?_append_of_ne_nil _ hne]
  have hother : trimBlanks (String.ofList (schemeMark ++ rest)).toList =
      [] ++ (schemeMark ++ (dropBlanks rest.reverse).reverse) := by
    rw [String.toList_ofList]
    exact trimBlanks_append_of_bare rest hne hhead hlast
  refine referrerHost_congr (dropBlanks rest.reverse).reverse ?_ ?_
  · rw [hown, afterFirst?_host_append]
    exact afterFirst?_append unbordered_schemeMark first _
  · rw [hother]
    exact afterFirst?_append unbordered_schemeMark
      (fun inside => hne (List.infix_nil.mp inside)) _

end BareAddress

/-- **The host of an address without a scheme is its own**, in lower case, unless another
address is written in its tail.  Then it is the host of the first one that is. -/
theorem referrerHost_bareAddress (a : BareAddress) :
    (¬ schemeMark <:+: a.tail → referrerHost a.text = some a.keptHost) ∧
      ∀ front rest, a.tail = front ++ (schemeMark ++ rest) → ¬ schemeMark <:+: front →
        referrerHost a.text = referrerHost (String.ofList (schemeMark ++ rest)) :=
  ⟨BareAddress.referrerHost_of_plainTail, fun _ _ => BareAddress.referrerHost_of_embedded⟩

/-- A short address that names where it leads. -/
def redirectAddress : BareAddress where
  host := "t.co".toList
  tail := "/?u=https://news.example/x".toList
  host_nonempty := by decide
  host_plain := by simp [isBlank, endsAuthority]
  tail_marked c hc := by
    obtain rfl : c = '/' := by simpa using hc.symm
    rfl

/-- A visit from it is attributed to where it leads. -/
theorem host_of_redirectAddress :
    redirectAddress.text = "t.co/?u=https://news.example/x" ∧
      referrerHost redirectAddress.text = referrerHost "://news.example/x" :=
  ⟨by decide +kernel, (referrerHost_bareAddress redirectAddress).2 "/?u=https".toList
    "news.example/x".toList (by decide +kernel) (by decide +kernel)⟩

/-- **Not every address is attributed to its own host.** -/
theorem not_referrerHost_eq_host :
    redirectAddress.text = "t.co/?u=https://news.example/x" ∧
      referrerHost redirectAddress.text = some "news.example" ∧
      ¬ ∀ a : BareAddress, referrerHost a.text = some a.keptHost := by
  have htext : redirectAddress.text = "t.co/?u=https://news.example/x" := by decide +kernel
  have hhost : referrerHost redirectAddress.text = some "news.example" := by decide +kernel
  refine ⟨htext, hhost, fun h => ?_⟩
  have hown := (h redirectAddress).symm.trans hhost
  exact absurd hown (by decide +kernel)

end Footfall
