import Mathlib
import Footfall.Proofs.Text.Cut
import Footfall.Visit.Page

/-!
# The path of a web address

A web address has a scheme, an authority, a path and a tail of query and fragment.  Of
these, the kept path is the third.  The reader goes to the first slash behind the scheme
before it drops the query and the fragment, so where an address has no path of its own, a
slash of its tail is taken for one.

## Main Definitions

* `WebAddress` — a web address in its parts
* `WebAddress.page` — its path, the root in place of an empty one

## Main Statements

* `pathOfUrl_text` — what is kept of a web address
* `not_pathOfUrl_eq_page` — this is not always its path
-/

namespace Footfall

/-- The character starts a query or a fragment. -/
def startsTail (c : Char) : Bool :=
  c == '?' || c == '#'

/-- **A web address in its parts.** -/
structure WebAddress where
  /-- Whether the scheme is the one for encrypted connections. -/
  secure : Bool
  /-- Host, port and credentials. -/
  authority : List Char
  /-- The path, which may be missing. -/
  path : List Char
  /-- Query and fragment with their marks, which may be missing. -/
  tail : List Char
  /-- The authority ends before the first slash or mark. -/
  authority_plain : ∀ c ∈ authority, c ≠ '/' ∧ c ≠ '?' ∧ c ≠ '#'
  /-- The path starts with a slash. -/
  path_rooted : ∀ c ∈ path.head?, c = '/'
  /-- It ends before the first mark. -/
  path_plain : ∀ c ∈ path, startsTail c = false
  /-- The tail starts with a mark. -/
  tail_marked : ∀ c ∈ tail.head?, startsTail c = true

namespace WebAddress

/-- The scheme with its mark. -/
def scheme (u : WebAddress) : String :=
  if u.secure then "https://" else "http://"

/-- The address as it is sent. -/
def text (u : WebAddress) : String :=
  String.ofList (u.scheme.toList ++ (u.authority ++ (u.path ++ u.tail)))

/-- The path, the root in place of an empty one. -/
def page (u : WebAddress) : List Char :=
  if u.path = [] then ['/'] else u.path

end WebAddress

/-! ## Query and fragment -/

/-- A path is what stands before a tail. -/
theorem dropQuery_append {path tail : List Char} (plain : ∀ c ∈ path, startsTail c = false)
    (marked : ∀ c ∈ tail.head?, startsTail c = true) : dropQuery (path ++ tail) = path := by
  simp only [startsTail, Bool.or_eq_false_iff] at plain
  rw [dropQuery, before_append_of_plain fun c hc => (plain c hc).1]
  refine before_append (fun c hc => (plain c hc).2) fun c hc => ?_
  -- a tail that starts with a query is dropped whole, so a fragment comes first
  cases tail with
  | nil => cases hc
  | cons d tail =>
      have hd := marked d rfl
      rw [startsTail, Bool.or_eq_true] at hd
      by_cases hquery : (d == '?') = true
      · rw [before, List.takeWhile_cons_of_neg (by simpa using hquery)] at hc
        cases hc
      · rw [before, List.takeWhile_cons_of_pos (by simpa using hquery)] at hc
        obtain rfl := Option.some.inj hc
        exact hd.resolve_left hquery

/-! ## Whole addresses -/

theorem afterScheme?_append (u : WebAddress) (rest : List Char) :
    afterScheme? (u.scheme.toList ++ rest) = some rest := by
  cases hsecure : u.secure <;> simp [WebAddress.scheme, hsecure, afterScheme?]

/-- From the first slash on, an address is its path and tail, or a part of the tail. -/
theorem WebAddress.dropWhile_ne_slash (u : WebAddress) :
    (u.authority ++ (u.path ++ u.tail)).dropWhile (· != '/') =
      if u.path = [] then u.tail.dropWhile (· != '/') else u.path ++ u.tail := by
  have hplain : ∀ c ∈ u.authority, (c != '/') = true := fun c hc =>
    bne_iff_ne.mpr (u.authority_plain c hc).1
  rw [List.dropWhile_append_of_pos hplain]
  split
  · next hempty => rw [hempty, List.nil_append]
  · next hpath =>
    obtain ⟨c, cs, hcs⟩ := List.exists_cons_of_ne_nil hpath
    obtain rfl : c = '/' := u.path_rooted c (by rw [hcs]; rfl)
    rw [hcs, List.cons_append, List.dropWhile_cons_of_neg (by decide)]

/-- What follows a slash is found from the slash on. -/
theorem exists_dropWhile_ne_slash {cs : List Char} (h : '/' ∈ cs) :
    ∃ rest, cs.dropWhile (· != '/') = '/' :: rest := by
  have hne : cs.dropWhile (· != '/') ≠ [] := by
    rw [Ne, List.dropWhile_eq_nil_iff]
    exact fun hall => absurd (hall '/' h) (by decide)
  obtain ⟨c, rest, hc⟩ := List.exists_cons_of_ne_nil hne
  have hfirst := List.head?_dropWhile_not (· != '/') cs
  rw [hc] at hfirst
  exact ⟨rest, by rw [hc, show c = '/' by simpa using hfirst]⟩

/-- **What is kept of a web address** is its path, unless it has none and there is a slash
in its tail.  Then it is what the tail says from this slash to its next mark. -/
theorem pathOfUrl_text (u : WebAddress) :
    pathOfUrl u.text = String.ofList (withoutControls maxAddressLength <|
      if u.path = [] ∧ '/' ∈ u.tail then dropQuery (u.tail.dropWhile (· != '/')) else u.page) := by
  have hread : pathOfUrl u.text = String.ofList (withoutControls maxAddressLength <|
      let rest := (u.authority ++ (u.path ++ u.tail)).dropWhile (· != '/')
      let path := dropQuery (if rest.isEmpty then ['/'] else rest)
      if path.isEmpty then ['/'] else path) := by
    rw [pathOfUrl, WebAddress.text, String.toList_ofList, afterScheme?_append]
  rw [hread, u.dropWhile_ne_slash, WebAddress.page]
  congr 2
  by_cases hpath : u.path = []
  · by_cases hslash : '/' ∈ u.tail
    · -- the slash itself is no mark, so it is kept
      obtain ⟨rest, hrest⟩ := exists_dropWhile_ne_slash hslash
      have hkept : (dropQuery ('/' :: rest)).isEmpty = false := by
        simp [dropQuery, before]
      simp only [hpath, hslash, hrest, and_self, if_true, List.isEmpty_cons, Bool.false_eq_true,
        if_false, hkept]
    · have hnone : u.tail.dropWhile (· != '/') = [] :=
        List.dropWhile_eq_nil_iff.mpr fun c hc =>
          bne_iff_ne.mpr fun heq => hslash (heq ▸ hc)
      simp only [hpath, hslash, hnone, and_false, if_true, if_false, List.isEmpty_nil]
      rfl
  · have hne : (u.path ++ u.tail).isEmpty = false := by simp [hpath]
    simp only [hpath, false_and, if_false, hne, Bool.false_eq_true,
      dropQuery_append u.path_plain u.tail_marked, List.isEmpty_iff]

/-- An address without a path that names another page in its query. -/
def redirecting : WebAddress where
  secure := true
  authority := "example.com".toList
  path := []
  tail := "?next=/admin".toList
  authority_plain := by simp
  path_rooted := by simp
  path_plain := by simp
  tail_marked := by simp [startsTail]

/-- **The kept path is not always that of the address**: here it is taken from the query. -/
theorem not_pathOfUrl_eq_page :
    redirecting.text = "https://example.com?next=/admin" ∧
      pathOfUrl redirecting.text = "/admin" ∧
      ¬ ∀ u : WebAddress,
        pathOfUrl u.text = String.ofList (withoutControls maxAddressLength u.page) := by
  have hkept : pathOfUrl redirecting.text = "/admin" := by decide +kernel
  refine ⟨by decide +kernel, hkept, fun h => ?_⟩
  have hpage := (hkept.symm.trans (h redirecting))
  exact absurd hpage (by decide +kernel)

end Footfall
