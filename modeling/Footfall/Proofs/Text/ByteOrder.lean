import Mathlib

/-!
# The order of texts, byte by byte

Texts are kept as bytes and compared byte by byte.  Which bytes a character has is the
business of UTF-8, but UTF-8 is made so that the order of bytes is the order of characters:
a longer encoding starts with a greater byte, and among those of one length the number of
the character is written in digits of six bits, the highest first.

## Main Definitions

* `utf8` — the bytes of a text
* `Precedes` — some bytes come before others, whatever follows either
* `sixBits`, `leadOf` — a number in digits of six bits, and how its first byte tells how many

## Main Statements

* `precedes_utf8EncodeChar` — lesser characters come before greater ones
* `lt_iff_utf8_lt` — texts are ordered like their bytes
-/

namespace Footfall

/-- The bytes of a text in UTF-8. -/
def utf8 (s : String) : List UInt8 :=
  s.toByteArray.data.toList

theorem utf8_eq_flatMap (s : String) : utf8 s = s.toList.flatMap String.utf8EncodeChar := by
  conv_lhs => rw [utf8, ← String.ofList_toList (s := s), String.toByteArray_ofList]
  rw [List.utf8Encode, List.data_toByteArray, List.toList_toArray]

/-! ## Bytes in front -/

/-- **Some bytes come before others**, whatever follows either. -/
def Precedes (as bs : List UInt8) : Prop :=
  ∀ xs ys : List UInt8, as ++ xs < bs ++ ys

namespace Precedes

variable {as bs : List UInt8}

theorem of_head {m n : ℕ} (hlt : m < n) (hn : n < 256) (as bs : List UInt8) :
    Precedes (UInt8.ofNat m :: as) (UInt8.ofNat n :: bs) := by
  intro xs ys
  rw [List.cons_append, List.cons_append, List.cons_lt_cons_iff]
  refine .inl ?_
  rw [UInt8.lt_iff_toNat_lt, UInt8.toNat_ofNat_of_lt' (hlt.trans hn),
    UInt8.toNat_ofNat_of_lt' hn]
  exact hlt

theorem append (h : Precedes as bs) (cs ds : List UInt8) : Precedes (as ++ cs) (bs ++ ds) := by
  intro xs ys
  rw [List.append_assoc, List.append_assoc]
  exact h _ _

theorem append_left (h : Precedes as bs) (cs : List UInt8) : Precedes (cs ++ as) (cs ++ bs) := by
  intro xs ys
  rw [List.append_assoc, List.append_assoc]
  exact List.append_left_lt (h xs ys)

end Precedes

/-! ## Digits of six bits -/

/-- A number in digits of six bits.  The first byte holds what the other `n` do not. -/
def sixBits (lead : ℕ) : ℕ → ℕ → List UInt8
  | 0, v => [UInt8.ofNat (lead + v)]
  | n + 1, v => sixBits lead n (v / 64) ++ [UInt8.ofNat (0x80 + v % 64)]

theorem sixBits_eq_cons (lead n v : ℕ) :
    ∃ digits, sixBits lead n v = UInt8.ofNat (lead + v / 64 ^ n) :: digits := by
  induction n generalizing v with
  | zero => exact ⟨[], by rw [sixBits, pow_zero, Nat.div_one]⟩
  | succ n ih =>
      obtain ⟨digits, h⟩ := ih (v / 64)
      exact ⟨digits ++ [UInt8.ofNat (0x80 + v % 64)], by
        rw [sixBits, h, Nat.div_div_eq_div_mul, ← pow_succ', List.cons_append]⟩

/-- A lesser number comes before a greater one of as many digits. -/
theorem precedes_sixBits {lead n v w : ℕ} (hlt : v < w) (fits : lead + w / 64 ^ n < 256) :
    Precedes (sixBits lead n v) (sixBits lead n w) := by
  induction n generalizing v w with
  | zero =>
      rw [pow_zero, Nat.div_one] at fits
      exact Precedes.of_head (by omega) fits [] []
  | succ n ih =>
      rw [pow_succ', ← Nat.div_div_eq_div_mul] at fits
      rcases (Nat.div_le_div_right hlt.le : v / 64 ≤ w / 64).lt_or_eq with hhigh | hhigh
      · exact (ih hhigh fits).append _ _
      · -- the last digit decides
        rw [sixBits, sixBits, hhigh]
        exact (Precedes.of_head (by omega) (by omega) [] []).append_left _

/-! ## Characters -/

theorem toNat_lt_of_char (c : Char) : c.toNat < 0x110000 := by
  have hvalid : c.toNat < 0xD800 ∨ 0xDFFF < c.toNat ∧ c.toNat < 0x110000 := c.valid
  omega

/-- What is added to the first digit of a number, and how many digits follow it. -/
def leadOf (v : ℕ) : ℕ × ℕ :=
  if v ≤ 0x7F then (0, 0)
  else if v ≤ 0x7FF then (0xC0, 1)
  else if v ≤ 0xFFFF then (0xE0, 2)
  else (0xF0, 3)

/-- The first byte of a number. -/
def firstByte (v : ℕ) : ℕ :=
  (leadOf v).1 + v / 64 ^ (leadOf v).2

theorem firstByte_lt {v : ℕ} (h : v < 0x110000) : firstByte v < 256 := by
  unfold firstByte leadOf
  split_ifs <;> dsimp only <;> omega

/-- Numbers with different leads differ in their first bytes. -/
theorem leadOf_eq_or {v w : ℕ} (h : v < w) : leadOf v = leadOf w ∨ firstByte v < firstByte w := by
  unfold firstByte leadOf
  split_ifs <;> simp only [true_or, Prod.mk.injEq] <;> omega

/-- A character is encoded as its number. -/
theorem utf8EncodeChar_eq_sixBits (c : Char) :
    String.utf8EncodeChar c = sixBits (leadOf c.toNat).1 (leadOf c.toNat).2 c.toNat := by
  have hmax := toNat_lt_of_char c
  have hval : c.val.toNat = c.toNat := rfl
  rw [String.utf8EncodeChar, hval, leadOf]
  -- the encoder cuts the first byte to the bits that a lead leaves it
  split_ifs
  all_goals
    simp only [sixBits, Nat.div_div_eq_div_mul, List.cons_append, List.nil_append,
      Nat.reduceMul, Nat.zero_add, Nat.add_comm (_ % _)]
  · rw [Nat.mod_eq_of_lt (by omega : c.toNat / 64 < 32)]
  · rw [Nat.mod_eq_of_lt (by omega : c.toNat / 4096 < 16)]
  · rw [Nat.mod_eq_of_lt (by omega : c.toNat / 262144 < 8)]

/-- **Lesser characters come before greater ones.** -/
theorem precedes_utf8EncodeChar {c d : Char} (h : c < d) :
    Precedes (String.utf8EncodeChar c) (String.utf8EncodeChar d) := by
  have hfits := firstByte_lt (toNat_lt_of_char d)
  have hlt : c.toNat < d.toNat := h
  rw [utf8EncodeChar_eq_sixBits, utf8EncodeChar_eq_sixBits]
  rcases leadOf_eq_or hlt with hlead | hfirst
  · rw [hlead]
    exact precedes_sixBits hlt hfits
  · obtain ⟨xs, hxs⟩ := sixBits_eq_cons (leadOf c.toNat).1 (leadOf c.toNat).2 c.toNat
    obtain ⟨ys, hys⟩ := sixBits_eq_cons (leadOf d.toNat).1 (leadOf d.toNat).2 d.toNat
    rw [hxs, hys]
    exact Precedes.of_head hfirst hfits xs ys

/-! ## Texts -/

theorem flatMap_utf8EncodeChar_lt {cs ds : List Char} (h : cs < ds) :
    cs.flatMap String.utf8EncodeChar < ds.flatMap String.utf8EncodeChar := by
  induction cs generalizing ds with
  | nil =>
      cases ds with
      | nil => exact absurd h (List.lt_irrefl [])
      | cons d ds =>
          obtain ⟨b, bs, hbs⟩ := List.exists_cons_of_ne_nil (String.utf8EncodeChar_ne_nil (c := d))
          rw [List.flatMap_cons, hbs]
          exact List.nil_lt_cons b _
  | cons c cs ih =>
      cases ds with
      | nil => exact absurd h (List.not_lt_nil _)
      | cons d ds =>
          rw [List.flatMap_cons, List.flatMap_cons]
          rcases List.cons_lt_cons_iff.mp h with hcd | ⟨rfl, hrest⟩
          · exact precedes_utf8EncodeChar hcd _ _
          · exact List.append_left_lt (ih hrest)

/-- **Texts are ordered like their bytes.** -/
theorem lt_iff_utf8_lt {s t : String} : s < t ↔ utf8 s < utf8 t := by
  have hmono : ∀ {s t : String}, s < t → utf8 s < utf8 t := by
    intro s t h
    rw [utf8_eq_flatMap, utf8_eq_flatMap]
    exact flatMap_utf8EncodeChar_lt (String.lt_iff_toList_lt.mp h)
  refine ⟨hmono, fun h => ?_⟩
  rcases lt_trichotomy s t with hlt | rfl | hgt
  · exact hlt
  · exact absurd h (List.lt_irrefl _)
  · exact absurd h (List.lt_asymm (hmono hgt))

end Footfall
