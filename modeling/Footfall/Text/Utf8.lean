/-!
# Lenient UTF-8

Bytes as text where the bytes need not be well formed.

## Main Definitions

* `Utf8.decode` — the text of a run of bytes

## Design Notes

A run of bytes that starts a character and breaks off becomes one replacement character, and so
does every byte that starts none. The machine reads one byte at a time and knows the bytes that
the open character still needs.
-/

namespace Footfall.Utf8

/-- The character in the place of ill-formed bytes. -/
def replacement : Char := '\uFFFD'

/-- A character of which the first bytes have been read. -/
structure Pending where
  /-- The bits read so far. -/
  value : Nat
  /-- The range of the next byte, from first to last. -/
  next : Nat × Nat
  /-- How many bytes follow that one. -/
  more : Nat
  deriving Repr

/-- The range of a byte inside a character. -/
def tail : Nat × Nat := (0x80, 0xBF)

/-- Reads a byte between characters. -/
def first (b : Nat) : List Char × Option Pending :=
  if b < 0x80 then ([Char.ofNat b], none)
  else if 0xC2 ≤ b ∧ b ≤ 0xDF then ([], some ⟨b % 32, tail, 0⟩)
  else if b = 0xE0 then ([], some ⟨b % 16, (0xA0, 0xBF), 1⟩)
  else if b = 0xED then ([], some ⟨b % 16, (0x80, 0x9F), 1⟩)
  else if 0xE1 ≤ b ∧ b ≤ 0xEF then ([], some ⟨b % 16, tail, 1⟩)
  else if b = 0xF0 then ([], some ⟨b % 8, (0x90, 0xBF), 2⟩)
  else if b = 0xF4 then ([], some ⟨b % 8, (0x80, 0x8F), 2⟩)
  else if 0xF1 ≤ b ∧ b ≤ 0xF3 then ([], some ⟨b % 8, tail, 2⟩)
  else ([replacement], none)

/-- Reads a byte. -/
def step (p : Option Pending) (b : Nat) : List Char × Option Pending :=
  match p with
  | none => first b
  | some p =>
    if p.next.1 ≤ b ∧ b ≤ p.next.2 then
      let value := p.value * 64 + b % 64
      match p.more with
      | 0 => ([Char.ofNat value], none)
      | more + 1 => ([], some ⟨value, tail, more⟩)
    else
      let (cs, q) := first b
      (replacement :: cs, q)

/-- The characters of a run of bytes. -/
def characters : Option Pending → List UInt8 → List Char
  | none, [] => []
  | some _, [] => [replacement]
  | p, b :: bs =>
    let (cs, q) := step p b.toNat
    cs ++ characters q bs

/-- The text of a run of bytes. -/
def decode (bytes : List UInt8) : String :=
  String.ofList (characters none bytes)

end Footfall.Utf8
