import Footfall.Text.Digits

/-!
# Network addresses

Addresses of version 4 and version 6, as texts and as bits.

## Main Definitions

* `Address` — an address of either version
* `Address.parse?` — an address out of its text
* `Address.bits` — its bits, the most significant first

## Design Notes

A number of a version 4 address has no zero before it. Of a version 6 address one run of zero
groups may be left out, and the last two groups may be written as an address of version 4.
-/

namespace Footfall

/-- A network address. -/
inductive Address where
  | v4 (value : BitVec 32)
  | v6 (value : BitVec 128)
  deriving DecidableEq, Repr

namespace Address

/-! ## Version 4 -/

/-- Reads a number from 0 to 255 without a zero before it. -/
def readOctet (cs : List Char) : Option (Nat × List Char) :=
  let digits := (cs.take 4).takeWhile Char.isDigit
  let n := digitsValue digits
  if digits.isEmpty || digits.length > 3 || n > 255 then none
  else if digits.head? == some '0' && digits.length > 1 then none
  else some (n, cs.drop digits.length)

/-- Reads further numbers, each after a point. -/
def readOctets : (count : Nat) → List Char → Option (List Nat × List Char)
  | 0, cs => some ([], cs)
  | count + 1, cs => do
    let (n, cs) ← readOctet (← readChar '.' cs)
    let (ns, cs) ← readOctets count cs
    some (n :: ns, cs)

/-- Reads an address of version 4, as one number. -/
def readV4 (cs : List Char) : Option (Nat × List Char) := do
  let (n, cs) ← readOctet cs
  let (ns, cs) ← readOctets 3 cs
  some (ns.foldl (fun value n => 256 * value + n) n, cs)

/-! ## Version 6 -/

/-- Reads one to four hexadecimal digits; a fifth must not follow. -/
def readGroup (cs : List Char) : Option (Nat × List Char) :=
  let digits := ((cs.take 5).map hexDigit?).takeWhile (·.isSome)
  if digits.isEmpty || digits.length > 4 then none
  else some (digits.foldl (fun n d => 16 * n + d.getD 0) 0, cs.drop digits.length)

/-- Drops the colon before a group, which the first group goes without. -/
def dropColon (first : Bool) (cs : List Char) : Option (List Char) :=
  if first then some cs else readChar ':' cs

/-- A run of groups. -/
structure Groups where
  /-- The groups. -/
  values : List Nat
  /-- Whether the last two are written as an address of version 4. -/
  endsInV4 : Bool

/-- Reads groups with colons between them, at most `most` of them. -/
def readGroups : (most : Nat) → (first : Bool) → List Char → Groups × List Char
  | 0, _, cs => (⟨[], false⟩, cs)
  | most + 1, first, cs =>
    match if most = 0 then none else (dropColon first cs).bind readV4 with
    | some (n, rest) => (⟨[n / 65536, n % 65536], true⟩, rest)
    | none =>
      match (dropColon first cs).bind readGroup with
      | none => (⟨[], false⟩, cs)
      | some (n, rest) =>
        let (more, rest) := readGroups most false rest
        ({ more with values := n :: more.values }, rest)

/-- Reads an address of version 6, as eight groups. -/
def readV6 (cs : List Char) : Option (List Nat × List Char) := do
  let (front, cs) := readGroups 8 true cs
  if front.values.length = 8 then some (front.values, cs)
  else if front.endsInV4 then none
  else do
    let cs ← readChar ':' (← readChar ':' cs)
    let (back, cs) := readGroups (7 - front.values.length) true cs
    let gap := 8 - front.values.length - back.values.length
    some (front.values ++ List.replicate gap 0 ++ back.values, cs)

/-- The number that groups of 16 bits write. -/
def groupsValue (groups : List Nat) : Nat :=
  groups.foldl (fun value n => 65536 * value + n) 0

/-! ## Texts and bits -/

/-- The address that a text writes. -/
def parse? (s : String) : Option Address :=
  match readV4 s.toList with
  | some (n, rest) => if rest.isEmpty then some (.v4 (BitVec.ofNat 32 n)) else none
  | none =>
    match readV6 s.toList with
    | some (groups, []) => some (.v6 (BitVec.ofNat 128 (groupsValue groups)))
    | _ => none

/-- The bits of a word, the most significant first. -/
def wordBits (value : BitVec w) : List Bool :=
  (List.range w).map value.getMsbD

/-- The bits of an address, the most significant first. -/
def bits : Address → List Bool
  | v4 value => wordBits value
  | v6 value => wordBits value

end Address

end Footfall
