import Mathlib
import Footfall.Proofs.Visit.Outcome
import Footfall.Proofs.Visit.PagePath
import Footfall.Visit.Language

/-!
# Canonical texts

Blanks are dropped before and after a text is cut at its marks, since a cut may lay bare
new blanks.  What is kept in the end has neither, so nothing more can be dropped from it.
The host of a referrer is not canonical by itself, for it may have blanks around it, but
it is once they are dropped.

## Main Definitions

* `Trimmed` — a text with no blanks around it, that is not empty
* `isHostChar`, `isLowerTagChar` — the characters of a host and of a language tag

## Main Statements

* `present_eq_some_iff` — a trimmed text, and no other, is kept as it is
* `withoutQuery_eq_self`, `referrerHost_eq_self` — pages and hosts that are kept as they are
* `primaryLanguage_canonical` — a language tag is kept as it is
-/

namespace Footfall

/-! ## Blanks -/

/-- **A text with no blanks around it**, that is not empty. -/
structure Trimmed (text : String) : Prop where
  /-- Something is left. -/
  nonempty : text ≠ ""
  /-- It does not start with a blank. -/
  head : ∀ c ∈ text.toList.head?, isBlank c = false
  /-- It does not end with a blank. -/
  last : ∀ c ∈ text.toList.getLast?, isBlank c = false

section Blanks

variable {cs : List Char} {c : Char} {text : String}

theorem not_isBlank_head?_dropBlanks (h : c ∈ (dropBlanks cs).head?) : isBlank c = false := by
  have hfirst := List.head?_dropWhile_not isBlank cs
  rw [show (cs.dropWhile isBlank).head? = some c from h] at hfirst
  exact hfirst

theorem not_isBlank_head?_trimBlanks (h : c ∈ (trimBlanks cs).head?) : isBlank c = false := by
  obtain ⟨rest, hrest⟩ := isPrefix_trimBlanks cs
  have hfirst : c ∈ (dropBlanks cs).head? := by
    rw [← hrest, List.head?_append, Option.mem_def.mp h]
    rfl
  exact not_isBlank_head?_dropBlanks hfirst

theorem not_isBlank_getLast?_trimBlanks (h : c ∈ (trimBlanks cs).getLast?) :
    isBlank c = false := by
  rw [trimBlanks, List.getLast?_reverse] at h
  exact not_isBlank_head?_dropBlanks h

theorem mem_of_mem_trimBlanks (h : c ∈ trimBlanks cs) : c ∈ cs :=
  (List.dropWhile_sublist _).subset ((isPrefix_trimBlanks cs).subset h)

/-- A text that starts and ends with no blank has none around it. -/
theorem trimBlanks_eq_self (head : ∀ c ∈ cs.head?, isBlank c = false)
    (last : ∀ c ∈ cs.getLast?, isBlank c = false) : trimBlanks cs = cs := by
  rw [trimBlanks, dropBlanks_of_head head, dropBlanks_of_head, List.reverse_reverse]
  rwa [List.head?_reverse]

theorem Trimmed.trimBlanks_eq (h : Trimmed text) : trimBlanks text.toList = text.toList :=
  trimBlanks_eq_self h.head h.last

theorem Trimmed.toList_ne_nil (h : Trimmed text) : text.toList ≠ [] := fun hnil =>
  h.nonempty (String.toList_eq_nil_iff.mp hnil)

/-- **A trimmed text is kept as it is**, and what is kept is trimmed. -/
theorem present_eq_some_iff {value : Option String} :
    present value = some text ↔ Trimmed text ∧ value.map trim = some text := by
  rw [present, Option.filter_eq_some_iff]
  constructor
  · rintro ⟨htrim, hne⟩
    refine ⟨⟨by simpa using hne, ?_, ?_⟩, htrim⟩
    all_goals
      obtain ⟨raw, -, rfl⟩ := Option.map_eq_some_iff.mp htrim
      intro c hc
      rw [trim, String.toList_ofList] at hc
    · exact not_isBlank_head?_trimBlanks hc
    · exact not_isBlank_getLast?_trimBlanks hc
  · rintro ⟨htrimmed, htrim⟩
    exact ⟨htrim, by simpa using htrimmed.nonempty⟩

theorem Trimmed.present_eq (h : Trimmed text) : present (some text) = some text := by
  rw [present_eq_some_iff]
  refine ⟨h, ?_⟩
  rw [Option.map_some, trim, h.trimBlanks_eq, String.ofList_toList]

/-- What is kept has no characters but those of the value. -/
theorem mem_of_present {raw : String} (h : present (some raw) = some text)
    (hc : c ∈ text.toList) : c ∈ raw.toList := by
  obtain rfl : trim raw = text := Option.some.inj (map_trim_of_present h)
  rw [trim, String.toList_ofList] at hc
  exact mem_of_mem_trimBlanks hc

end Blanks

/-! ## Pages -/

/-- A page has no query and no fragment. -/
theorem not_startsTail_of_mem_withoutQuery {path : String} {c : Char}
    (h : c ∈ (withoutQuery path).toList) : startsTail c = false := by
  rw [withoutQuery, String.toList_ofList, dropQuery] at h
  have hfragment := not_stop_of_mem_before h
  have hquery := not_stop_of_mem_before ((isPrefix_before _ _).subset h)
  rw [startsTail, hquery, hfragment]
  rfl

/-- **A page without either is kept as it is.** -/
theorem withoutQuery_eq_self {path : String} (trimmed : Trimmed path)
    (plain : ∀ c ∈ path.toList, startsTail c = false) : withoutQuery path = path := by
  have hmarks : ∀ c ∈ path.toList, (c == '?') = false ∧ (c == '#') = false := fun c hc =>
    Bool.or_eq_false_iff.mp (plain c hc)
  rw [withoutQuery, trimmed.trimBlanks_eq, dropQuery,
    before_eq_self fun c hc => (hmarks c hc).1, before_eq_self fun c hc => (hmarks c hc).2,
    String.ofList_toList]

/-! ## Hosts -/

/-- Characters of a host: no marks of an address, and no capitals. -/
def isHostChar (c : Char) : Bool :=
  !endsAuthority c && c != '@' && c != ':' && !c.isUpper

theorem isHostChar_eq_true_iff {c : Char} :
    isHostChar c = true ↔ endsAuthority c = false ∧ c ≠ '@' ∧ c ≠ ':' ∧ c.isUpper = false := by
  simp only [isHostChar, Bool.and_eq_true, Bool.not_eq_true', bne_iff_ne, and_assoc]

/-- What a letter is in lower case is a letter, so nothing else becomes a mark. -/
theorem toLower_eq_iff {c d : Char} (hd : d.isAlpha = false) : c.toLower = d ↔ c = d := by
  have hself : ∀ e : Char, e.isAlpha = false → e.toLower = e := by
    intro e he
    refine Char.toLower_eq_of_not_isUpper fun hupper => ?_
    rw [Char.isAlpha, hupper] at he
    cases he
  constructor
  · rintro rfl
    rw [Char.isAlpha_toLower_eq_isAlpha] at hd
    exact (hself c hd).symm
  · rintro rfl
    exact hself c hd

theorem endsAuthority_toLower (c : Char) : endsAuthority c.toLower = endsAuthority c := by
  rw [Bool.eq_iff_iff]
  simp only [endsAuthority, Bool.or_eq_true, beq_iff_eq, toLower_eq_iff (d := '/') rfl,
    toLower_eq_iff (d := '?') rfl, toLower_eq_iff (d := '#') rfl]

/-- The host of an authority has no marks. -/
theorem plain_of_mem_hostOfAuthority {rest : List Char} {c : Char}
    (h : c ∈ hostOfAuthority (before endsAuthority rest)) :
    endsAuthority c = false ∧ c ≠ '@' ∧ c ≠ ':' := by
  have hcolon := not_stop_of_mem_before h
  have hbehind := (isPrefix_before _ _).subset h
  rw [afterLast, List.mem_reverse] at hbehind
  have hat := not_stop_of_mem_before hbehind
  have hauthority := List.mem_reverse.mp ((isPrefix_before _ _).subset hbehind)
  exact ⟨not_stop_of_mem_before hauthority, beq_eq_false_iff_ne.mp hat,
    beq_eq_false_iff_ne.mp hcolon⟩

/-- The host of a referrer has the characters of a host. -/
theorem isHostChar_of_referrerHost {referrer host : String} {c : Char}
    (h : referrerHost referrer = some host) (hc : c ∈ host.toList) : isHostChar c = true := by
  simp only [referrerHost] at h
  split at h
  · cases h
  · obtain rfl := Option.some.inj h
    rw [String.toList_ofList, List.mem_map] at hc
    obtain ⟨d, hd, rfl⟩ := hc
    obtain ⟨hends, hat, hcolon⟩ := plain_of_mem_hostOfAuthority hd
    rw [isHostChar_eq_true_iff, endsAuthority_toLower]
    exact ⟨hends, fun h => hat ((toLower_eq_iff rfl).mp h),
      fun h => hcolon ((toLower_eq_iff rfl).mp h), Char.isUpper_toLower_eq_false d⟩

/-- A text without capitals is in lower case. -/
theorem map_toLower_eq_self {cs : List Char} (h : ∀ c ∈ cs, c.isUpper = false) :
    cs.map Char.toLower = cs := by
  conv_rhs => rw [← List.map_id cs]
  exact List.map_congr_left fun c hc =>
    Char.toLower_eq_of_not_isUpper (by rw [h c hc]; exact Bool.false_ne_true)

/-- **A host with no blanks around it is kept as it is.** -/
theorem referrerHost_eq_self {host : String} (trimmed : Trimmed host)
    (plain : ∀ c ∈ host.toList, isHostChar c = true) : referrerHost host = some host := by
  have hplain := fun c hc => isHostChar_eq_true_iff.mp (plain c hc)
  have hmark : afterFirst? "://".toList host.toList = none := by
    refine afterFirst?_eq_none fun inside => ?_
    exact (hplain ':' (inside.subset (by simp))).2.2.1 rfl
  have hauthority : before endsAuthority host.toList = host.toList :=
    before_eq_self fun c hc => (hplain c hc).1
  have hhost : hostOfAuthority host.toList = host.toList := by
    rw [hostOfAuthority, afterLast_of_notMem fun hat => (hplain '@' hat).2.1 rfl,
      before_eq_self fun c hc => beq_eq_false_iff_ne.mpr (hplain c hc).2.2.1]
  have hempty : ¬ host.toList.isEmpty = true := by
    rw [List.isEmpty_iff]
    exact trimmed.toList_ne_nil
  simp only [referrerHost, trimmed.trimBlanks_eq, hmark, Option.getD_none, hauthority, hhost,
    if_neg hempty, map_toLower_eq_self fun c hc => (hplain c hc).2.2.2, String.ofList_toList]

/-! ## Languages -/

/-- Characters of a language tag in lower case. -/
def isLowerTagChar (c : Char) : Bool :=
  c.isLower || c.isDigit || c == '-'

/-- A language tag is kept in lower case. -/
structure CanonicalTag (tag : String) : Prop where
  /-- It is not empty. -/
  nonempty : 1 ≤ tag.length
  /-- It is not too long. -/
  length_le : tag.length ≤ 35
  /-- It has letters in lower case, digits and hyphens alone. -/
  chars : ∀ c ∈ tag.toList, isLowerTagChar c = true
  /-- As a header, it tells itself. -/
  fixed : primaryLanguage tag = some tag

/-- In lower case, a character of a tag is one of these. -/
theorem isLowerTagChar_toLower {c : Char} (h : isTagChar c = true) :
    isLowerTagChar c.toLower = true := by
  rw [isTagChar, Char.isAlphanum] at h
  rw [isLowerTagChar, Char.isLower_toLower_eq_isAlpha]
  by_cases halpha : c.isAlpha = true
  · rw [halpha]
    rfl
  · have hself : c.toLower = c :=
      (toLower_eq_iff (Bool.not_eq_true _ ▸ halpha)).mpr rfl
    rwa [hself]

/-- Tags hold nothing at which a header is cut. -/
theorem plain_of_isLowerTagChar {c : Char} (h : isLowerTagChar c = true) :
    isTagChar c = true ∧ isBlank c = false ∧ c ≠ ',' ∧ c ≠ ';' ∧ c.isUpper = false := by
  have hbounds : 97 ≤ c.toNat ∧ c.toNat ≤ 122 ∨ 48 ≤ c.toNat ∧ c.toNat ≤ 57 ∨ c.toNat = 45 := by
    simp only [isLowerTagChar, Bool.or_eq_true, beq_iff_eq] at h
    rcases h with (h | h) | rfl
    · exact .inl (by simpa [Char.isLower, UInt32.le_iff_toNat_le] using h)
    · exact .inr (.inl (toNat_of_isDigit h))
    · exact .inr (.inr rfl)
  have hne : ∀ d : Char, ¬ (97 ≤ d.toNat ∧ d.toNat ≤ 122 ∨ 48 ≤ d.toNat ∧ d.toNat ≤ 57 ∨
      d.toNat = 45) → c ≠ d := fun d hd heq => hd (heq ▸ hbounds)
  have hlower : c.isUpper = false := by
    rw [← Bool.not_eq_true]
    intro hupper
    have hupper : 65 ≤ c.toNat ∧ c.toNat ≤ 90 := by
      simpa [Char.isUpper, UInt32.le_iff_toNat_le] using hupper
    omega
  refine ⟨?_, ?_, hne ',' (by decide), hne ';' (by decide), hlower⟩
  · rwa [isTagChar, Char.isAlphanum, Char.isAlpha, hlower, Bool.false_or]
  · simp only [isBlank, Bool.or_eq_false_iff, Bool.and_eq_false_iff, decide_eq_false_iff_not,
      beq_eq_false_iff_ne]
    omega

/-- A tag that is no longer than one may be, and has such characters, tells itself. -/
theorem primaryLanguage_eq_self {tag : String} (nonempty : tag.toList ≠ [])
    (length_le : tag.length ≤ maxTagLength)
    (chars : ∀ c ∈ tag.toList, isLowerTagChar c = true) : primaryLanguage tag = some tag := by
  have hplain := fun c hc => plain_of_isLowerTagChar (chars c hc)
  have htrim : trimBlanks tag.toList = tag.toList :=
    trimBlanks_eq_self (fun c hc => (hplain c (List.mem_of_head? hc)).2.1)
      fun c hc => (hplain c (List.mem_of_getLast? hc)).2.1
  have hall : tag.toList.all isTagChar = true := List.all_eq_true.mpr fun c hc => (hplain c hc).1
  rw [primaryLanguage, before_eq_self fun c hc => beq_eq_false_iff_ne.mpr (hplain c hc).2.2.1,
    before_eq_self fun c hc => beq_eq_false_iff_ne.mpr (hplain c hc).2.2.2.1, htrim]
  simp only [hall, Bool.not_true, Bool.or_false, Bool.or_eq_true, List.isEmpty_iff, nonempty,
    decide_eq_true_eq, String.length_toList, false_or, if_neg (Nat.not_lt.mpr length_le),
    map_toLower_eq_self fun c hc => (hplain c hc).2.2.2.2, String.ofList_toList]

/-- **A language tag is kept as it is.** -/
theorem primaryLanguage_canonical {header tag : String}
    (h : primaryLanguage header = some tag) : CanonicalTag tag := by
  simp only [primaryLanguage] at h
  generalize trimBlanks (before (· == ';') (before (· == ',') header.toList)) = raw at h
  split at h
  · cases h
  · next hfit =>
    obtain rfl := Option.some.inj h
    simp only [Bool.or_eq_true, List.isEmpty_iff, decide_eq_true_eq, Bool.not_eq_true',
      not_or, Nat.not_lt, Bool.not_eq_false] at hfit
    obtain ⟨⟨hne, hle⟩, hall⟩ := hfit
    have hlength : (String.ofList (raw.map Char.toLower)).length = raw.length := by
      rw [String.length_ofList, List.length_map]
    have hchars : ∀ c ∈ (String.ofList (raw.map Char.toLower)).toList,
        isLowerTagChar c = true := by
      intro c hc
      rw [String.toList_ofList, List.mem_map] at hc
      obtain ⟨d, hd, rfl⟩ := hc
      exact isLowerTagChar_toLower (List.all_eq_true.mp hall d hd)
    refine ⟨?_, ?_, hchars, primaryLanguage_eq_self ?_ ?_ hchars⟩
    · rw [hlength]
      exact List.length_pos_iff.mpr hne
    · rw [hlength]
      exact hle
    · rw [String.toList_ofList]
      simpa using hne
    · rw [hlength]
      exact hle

end Footfall
