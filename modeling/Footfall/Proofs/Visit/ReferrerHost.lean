import Mathlib
import Footfall.Proofs.Text.Cut
import Footfall.Visit.Referrer

/-!
# The host of an address

An address with a scheme has an authority, in which credentials may come before the host
and a port after it, and a tail.  The reader cuts it at five marks, some of them from the
left and some from the right.  Credentials may hold the mark of a port and their own mark,
and the tail may hold any of them, a scheme's mark included.  Still the host is what is
found, whatever the other parts are.

## Main Definitions

* `AbsoluteAddress` — an address with a scheme, in its parts

## Main Statements

* `referrerHost_text` — the host of such an address is found
-/

namespace Footfall

/-- What ends the scheme of an address. -/
def schemeMark : List Char :=
  "://".toList

theorem unbordered_schemeMark : Unbordered schemeMark := by
  decide +kernel

/-- **An address with a scheme, in its parts**, and the blanks around it. -/
structure AbsoluteAddress where
  /-- The blanks in front. -/
  left : List Char
  /-- The scheme, which may be empty. -/
  scheme : List Char
  /-- The credentials, if there are any. -/
  credentials : Option (List Char)
  /-- The host, which may be empty. -/
  host : List Char
  /-- The digits of the port, if there is one. -/
  port : Option (List Char)
  /-- Path, query and fragment, which may be missing. -/
  tail : List Char
  /-- The blanks at the end. -/
  right : List Char
  /-- In front there is nothing but blanks. -/
  left_blank : ∀ c ∈ left, isBlank c = true
  /-- The scheme has no blanks. -/
  scheme_plain : ∀ c ∈ scheme, isBlank c = false
  /-- It ends with the first mark. -/
  scheme_unmarked : ¬ schemeMark <:+: scheme
  /-- Credentials do not end the authority. -/
  credentials_plain : ∀ u ∈ credentials, ∀ c ∈ u, endsAuthority c = false
  /-- A host has no blanks and no marks. -/
  host_plain : ∀ c ∈ host, isBlank c = false ∧ endsAuthority c = false ∧ c ≠ '@' ∧ c ≠ ':'
  /-- A port has digits alone. -/
  port_digits : ∀ n ∈ port, ∀ c ∈ n, c.isDigit = true
  /-- The tail starts where the authority ends. -/
  tail_marked : ∀ c ∈ tail.head?, endsAuthority c = true
  /-- At the end there is nothing but blanks. -/
  right_blank : ∀ c ∈ right, isBlank c = true

namespace AbsoluteAddress

variable (a : AbsoluteAddress)

/-- The credentials with their mark. -/
def credentialsText : List Char :=
  a.credentials.elim [] (· ++ ['@'])

/-- The port with its mark. -/
def portText : List Char :=
  a.port.elim [] (':' :: ·)

/-- The authority. -/
def authority : List Char :=
  a.credentialsText ++ (a.host ++ a.portText)

/-- The address as it is sent. -/
def text : String :=
  String.ofList (a.left ++ (a.scheme ++ (schemeMark ++ a.authority) ++ a.tail) ++ a.right)

/-! ## The authority -/

variable {a}

/-- No digit is a blank or a mark. -/
theorem plain_of_isDigit {c : Char} (h : c.isDigit = true) :
    isBlank c = false ∧ endsAuthority c = false ∧ c ≠ '@' := by
  have hne : ∀ d : Char, ¬ (48 ≤ d.toNat ∧ d.toNat ≤ 57) → c ≠ d := fun d hd heq =>
    hd (heq ▸ toNat_of_isDigit h)
  refine ⟨isBlank_of_isDigit h, ?_, hne '@' (by decide)⟩
  simp only [endsAuthority, Bool.or_eq_false_iff, beq_eq_false_iff_ne]
  exact ⟨⟨hne '/' (by decide), hne '?' (by decide)⟩, hne '#' (by decide)⟩

/-- Behind the host there is no mark but that of the port. -/
theorem plain_of_mem_portText {c : Char} (h : c ∈ a.portText) :
    isBlank c = false ∧ endsAuthority c = false ∧ c ≠ '@' := by
  cases hport : a.port with
  | none =>
      rw [portText, hport] at h
      cases h
  | some n =>
      rw [portText, hport] at h
      rcases List.mem_cons.mp h with rfl | hc
      · decide
      · exact plain_of_isDigit (a.port_digits n hport c hc)

theorem not_endsAuthority_of_mem_authority {c : Char} (h : c ∈ a.authority) :
    endsAuthority c = false := by
  rcases List.mem_append.mp h with h | h
  · cases hcred : a.credentials with
    | none =>
        rw [credentialsText, hcred] at h
        cases h
    | some u =>
        rw [credentialsText, hcred] at h
        rcases List.mem_append.mp h with hc | hc
        · exact a.credentials_plain u hcred c hc
        · rw [List.mem_singleton.mp hc]
          decide
  · rcases List.mem_append.mp h with hc | hc
    · exact (a.host_plain c hc).2.1
    · exact (plain_of_mem_portText hc).2.1

/-- **The host of an authority is found** between its credentials and its port. -/
theorem hostOfAuthority_authority : hostOfAuthority a.authority = a.host := by
  have hat : '@' ∉ a.host ++ a.portText := by
    intro h
    rcases List.mem_append.mp h with hc | hc
    · exact (a.host_plain _ hc).2.2.1 rfl
    · exact (plain_of_mem_portText hc).2.2 rfl
  have hbehind : afterLast '@' a.authority = a.host ++ a.portText := by
    cases hcred : a.credentials with
    | none =>
        rw [authority, credentialsText, hcred]
        exact afterLast_of_notMem hat
    | some u =>
        rw [authority, credentialsText, hcred]
        simp only [Option.elim_some, List.append_assoc, List.singleton_append]
        exact afterLast_append hat
  rw [hostOfAuthority, hbehind]
  refine before_append (fun c hc => beq_eq_false_iff_ne.mpr (a.host_plain c hc).2.2.2) ?_
  intro c hc
  cases hport : a.port with
  | none =>
      rw [portText, hport] at hc
      cases hc
  | some n =>
      rw [portText, hport] at hc
      obtain rfl := Option.some.inj hc
      rfl

/-! ## The whole address -/

/-- A text ends like its second part, unless that is empty. -/
theorem not_isBlank_getLast?_append {front rest : List Char}
    (hfront : ∀ c ∈ front.getLast?, isBlank c = false)
    (hrest : ∀ c ∈ rest.getLast?, isBlank c = false) :
    ∀ c ∈ (front ++ rest).getLast?, isBlank c = false := by
  intro c hc
  rw [List.getLast?_append, Option.mem_def, Option.or_eq_some_iff] at hc
  exact hc.elim (hrest c) fun h => hfront c h.2

/-- The authority does not end with a blank, since its last part is not one that may. -/
theorem not_isBlank_getLast?_authority : ∀ c ∈ a.authority.getLast?, isBlank c = false := by
  refine not_isBlank_getLast?_append ?_ (not_isBlank_getLast?_append ?_ ?_)
  · cases hcred : a.credentials with
    | none => simp [credentialsText, hcred]
    | some u =>
        intro c hc
        rw [credentialsText, hcred, Option.elim_some, List.getLast?_concat] at hc
        obtain rfl := Option.some.inj hc
        decide
  · exact fun c hc => (a.host_plain c (List.mem_of_getLast? hc)).1
  · exact fun c hc => (plain_of_mem_portText (List.mem_of_getLast? hc)).1

/-- **Without the blanks around it**, an address is what it is up to its tail, and the tail
less the blanks that end it. -/
theorem exists_trimBlanks_text : ∃ tail, tail <+: a.tail ∧
    trimBlanks a.text.toList = a.scheme ++ (schemeMark ++ (a.authority ++ tail)) := by
  have hhead : ∀ c ∈ (a.scheme ++ (schemeMark ++ a.authority)).head?, isBlank c = false := by
    intro c hc
    rw [List.head?_append, Option.mem_def, Option.or_eq_some_iff] at hc
    rcases hc with hc | ⟨-, hc⟩
    · exact a.scheme_plain c (List.mem_of_head? hc)
    · obtain rfl := Option.some.inj hc
      decide
  have hlast : ∀ c ∈ (a.scheme ++ (schemeMark ++ a.authority)).getLast?, isBlank c = false := by
    refine not_isBlank_getLast?_append (fun c hc => a.scheme_plain c (List.mem_of_getLast? hc))
      (not_isBlank_getLast?_append (fun c hc => ?_) not_isBlank_getLast?_authority)
    obtain rfl := Option.some.inj hc
    decide
  refine ⟨_, isPrefix_reverse_dropBlanks a.tail, ?_⟩
  rw [text, String.toList_ofList, trimBlanks_append a.tail a.left_blank a.right_blank
    (by simp [schemeMark]) hhead hlast, List.append_assoc, List.append_assoc]

/-- What is left of a tail starts like the tail. -/
theorem endsAuthority_of_isPrefix_tail {tail : List Char} (h : tail <+: a.tail) :
    ∀ c ∈ tail.head?, endsAuthority c = true := by
  intro c hc
  obtain ⟨rest, hrest⟩ := h
  refine a.tail_marked c ?_
  rw [← hrest, List.head?_append, Option.mem_def.mp hc]
  rfl

end AbsoluteAddress

open AbsoluteAddress in
/-- **The host of an address with a scheme is found**, with its ASCII letters in lower case,
whatever its credentials, port and tail are.  Without a host there is none. -/
theorem referrerHost_text (a : AbsoluteAddress) :
    referrerHost a.text =
      if a.host = [] then none else some (String.ofList (a.host.map Char.toLower)) := by
  obtain ⟨tail, hprefix, htrim⟩ := a.exists_trimBlanks_text
  have hrest : afterFirst? schemeMark (trimBlanks a.text.toList) = some (a.authority ++ tail) := by
    rw [htrim]
    exact afterFirst?_append unbordered_schemeMark a.scheme_unmarked _
  have hauthority : before endsAuthority (a.authority ++ tail) = a.authority :=
    before_append (fun _ => not_endsAuthority_of_mem_authority)
      (endsAuthority_of_isPrefix_tail hprefix)
  rw [schemeMark] at hrest
  rw [referrerHost]
  simp only [hrest, Option.getD_some, hauthority, hostOfAuthority_authority, List.isEmpty_iff]

/-- An address whose marks all occur once more where they mark nothing. -/
def tangledAddress : AbsoluteAddress where
  left := [' ']
  scheme := "a:/".toList
  credentials := some "me:@you".toList
  host := "News.Example".toList
  port := some "80".toList
  tail := "/x@y:z?://#".toList
  right := ['\t']
  left_blank := by simp [isBlank]
  scheme_plain := by simp [isBlank]
  scheme_unmarked := by decide +kernel
  credentials_plain := by simp [endsAuthority]
  host_plain := by simp [isBlank, endsAuthority]
  port_digits := by simp [Char.isDigit]
  tail_marked := by simp [endsAuthority]
  right_blank := by simp [isBlank]

theorem host_of_tangledAddress :
    tangledAddress.text = " a:/://me:@you@News.Example:80/x@y:z?://#\t" ∧
      referrerHost tangledAddress.text = some "news.example" :=
  ⟨by decide +kernel, (referrerHost_text tangledAddress).trans (by decide +kernel)⟩

end Footfall
