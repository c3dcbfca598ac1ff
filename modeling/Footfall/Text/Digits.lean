/-!
# Digits

Numbers written with a fixed number of digits, and the reading of a run of digits off the front of
a text.

## Main Definitions

* `fixedDigits` — the last `width` digits of a number, zeros in front
* `digitsValue` — the number that a run of digits writes
* `readUpTo`, `readExactly` — a number off the front of a text, with what follows it
* `naturalBelow?` — the number that a whole text writes, if it is in range
* `hexDigit?` — the value of a hexadecimal digit
-/

namespace Footfall

/-- The character of a decimal digit. -/
def digitChar (d : Nat) : Char :=
  Char.ofNat (48 + d % 10)

/-- The last `width` decimal digits of `n`. -/
def fixedDigits : (width : Nat) → (n : Nat) → List Char
  | 0, _ => []
  | width + 1, n => fixedDigits width (n / 10) ++ [digitChar n]

/-- Decimal digits of `n`, at least `width` of them. -/
def paddedDigits (width n : Nat) : List Char :=
  if n < Nat.pow 10 width then fixedDigits width n else Nat.toDigits 10 n

/-- The number that a run of digits writes; other characters count by their code. -/
def digitsValue (digits : List Char) : Nat :=
  digits.foldl (fun n c => 10 * n + (c.toNat - 48)) 0

/-- Reads one to `most` digits. -/
def readUpTo (most : Nat) (cs : List Char) : Option (Nat × List Char) :=
  let digits := (cs.take most).takeWhile Char.isDigit
  if digits.isEmpty then none else some (digitsValue digits, cs.drop digits.length)

/-- Reads a run of digits to its end. -/
def readAll (cs : List Char) : Option (Nat × List Char) :=
  readUpTo cs.length cs

/-- Reads exactly `width` digits; more may follow. -/
def readExactly (width : Nat) (cs : List Char) : Option (Nat × List Char) :=
  let digits := (cs.take width).takeWhile Char.isDigit
  if digits.length = width then some (digitsValue digits, cs.drop width) else none

/-- The number that a text of digits writes, if it is below `bound`. A plus sign may stand before
it. -/
def naturalBelow? (bound : Nat) (s : String) : Option Nat :=
  let digits := match s.toList with
    | '+' :: cs => cs
    | cs => cs
  let n := digitsValue digits
  if !digits.isEmpty && digits.all Char.isDigit && n < bound then some n else none

/-- The value of a hexadecimal digit of either case. -/
def hexDigit? (c : Char) : Option Nat :=
  if c.isDigit then some (c.toNat - 48)
  else if 'a' ≤ c ∧ c ≤ 'f' then some (c.toNat - 87)
  else if 'A' ≤ c ∧ c ≤ 'F' then some (c.toNat - 55)
  else none

/-- Reads one given character. -/
def readChar (c : Char) : List Char → Option (List Char)
  | d :: cs => if d = c then some cs else none
  | [] => none

@[simp] theorem fixedDigits_length (width n : Nat) : (fixedDigits width n).length = width := by
  induction width generalizing n with
  | zero => rfl
  | succ width ih => simp [fixedDigits, ih]

theorem readChar_cons_self (c : Char) (cs : List Char) : readChar c (c :: cs) = some cs := by
  simp [readChar]

end Footfall
