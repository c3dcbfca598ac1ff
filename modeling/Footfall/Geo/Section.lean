/-!
# Sections of values

A run of bytes in which typed values lie one behind the other, each after a control byte with its
kind and size.

## Main Definitions

* `Section` — the bytes and where the section starts among them
* `Section.natural?` — a number of several bytes, the most significant first
* `Kind` — the kinds of values
* `Section.value?` — the value at a position, behind all pointers
* `Section.skip?` — the position after a value

## Design Notes

Positions count from the start of the section. A pointer stands for the value at another position,
so values may be shared, and a value is skipped without a look at what it points to. Nothing past
the last byte can be read.
-/

namespace Footfall.Geo

/-- A run of bytes of which a section takes the part from `start` on. -/
structure Section where
  /-- The bytes. -/
  bytes : ByteArray
  /-- Where the section starts. -/
  start : Nat

/-- Kinds of values. -/
inductive Kind where
  | text | double | bytes | uint16 | uint32 | map | int32 | uint64 | uint128 | array | bool | float
  deriving DecidableEq, Repr

/-- The kind of a number in a control byte. -/
def Kind.ofCode? : Nat → Option Kind
  | 2 => some .text
  | 3 => some .double
  | 4 => some .bytes
  | 5 => some .uint16
  | 6 => some .uint32
  | 7 => some .map
  | 8 => some .int32
  | 9 => some .uint64
  | 10 => some .uint128
  | 11 => some .array
  | 14 => some .bool
  | 15 => some .float
  | _ => none

/-- A value: its kind, its size and where its content lies. The size counts bytes, members of a
map or items of an array; that of a boolean is its value. -/
structure Value where
  kind : Kind
  size : Nat
  content : Nat
  deriving Repr

/-- What a control byte announces. -/
inductive Head where
  | pointer (target next : Nat)
  | value (v : Value)

/-- Values lie at most this deep in one another. -/
def maxDepth : Nat := 512

namespace Section

/-- The byte at a position. -/
def byte? (s : Section) (position : Nat) : Option Nat :=
  s.bytes[s.start + position]?.map (·.toNat)

/-- The number in `width` bytes, the most significant first. -/
def natural? (s : Section) (position : Nat) : (width : Nat) → Option Nat
  | 0 => some 0
  | width + 1 => do
    some ((← s.natural? position width) * 256 + (← s.byte? (position + width)))

/-- The text in `size` bytes, which have to be UTF-8. -/
def text? (s : Section) (position size : Nat) : Option String :=
  let first := s.start + position
  if first + size ≤ s.bytes.size then String.fromUTF8? (s.bytes.extract first (first + size))
  else none

/-! ## Control bytes -/

/-- Reads a pointer of which the control byte gave five bits. They hold the number of bytes that
follow and, unless there are four, the most significant bits. -/
def pointer? (s : Section) (bits position : Nat) : Option Head := do
  let width := bits / 8 % 4 + 1
  let low ← s.natural? position width
  let high := bits % 8 * Nat.pow 256 width
  let target := match width with
    | 1 => high + low
    | 2 => high + low + 2048
    | 3 => high + low + 526336
    | _ => low
  some (.pointer target (position + width))

/-- Reads the size of a value of which the control byte gave five bits. -/
def size? (s : Section) (bits position : Nat) : Option (Nat × Nat) :=
  match bits with
  | 29 => do some (29 + (← s.natural? position 1), position + 1)
  | 30 => do some (285 + (← s.natural? position 2), position + 2)
  | 31 => do some (65821 + (← s.natural? position 3), position + 3)
  | n => some (n, position)

/-- Reads a control byte and what belongs to it. A kind of zero is followed by a byte that tells
the kinds from seven on. -/
def head? (s : Section) (position : Nat) : Option Head := do
  let control ← s.byte? position
  let bits := control % 32
  match control / 32 with
  | 1 => s.pointer? bits (position + 1)
  | 0 => do
    let kind ← Kind.ofCode? ((← s.byte? (position + 1)) + 7)
    let (size, content) ← s.size? bits (position + 2)
    some (.value ⟨kind, size, content⟩)
  | code => do
    let kind ← Kind.ofCode? code
    let (size, content) ← s.size? bits (position + 1)
    some (.value ⟨kind, size, content⟩)

/-! ## Values -/

/-- The value at a position, behind at most `depth` pointers. -/
def valueWithin? (s : Section) : (depth : Nat) → (position : Nat) → Option Value
  | 0, _ => none
  | depth + 1, position => do
    match ← s.head? position with
    | .value v => some v
    | .pointer target _ => s.valueWithin? depth target

/-- The value at a position. -/
def value? (s : Section) (position : Nat) : Option Value :=
  s.valueWithin? maxDepth position

/-- Skips `count` values. -/
def skipMany (skip : Nat → Option Nat) : (count : Nat) → (position : Nat) → Option Nat
  | 0, position => some position
  | count + 1, position => do skipMany skip count (← skip position)

/-- The position after the value at a position, if values lie at most `depth` deep in it. -/
def skipWithin? (s : Section) : (depth : Nat) → (position : Nat) → Option Nat
  | 0, _ => none
  | depth + 1, position => do
    match ← s.head? position with
    | .pointer _ next => some next
    | .value ⟨.map, size, content⟩ => skipMany (s.skipWithin? depth) (2 * size) content
    | .value ⟨.array, size, content⟩ => skipMany (s.skipWithin? depth) size content
    | .value ⟨.bool, _, content⟩ => some content
    | .value ⟨_, size, content⟩ => some (content + size)

/-- The position after the value at a position. -/
def skip? (s : Section) (position : Nat) : Option Nat :=
  s.skipWithin? maxDepth position

/-- The positions of `count` values. -/
def positions? (s : Section) : (count : Nat) → (position : Nat) → Option (List Nat)
  | 0, _ => some []
  | count + 1, position => do
    some (position :: (← s.positions? count (← s.skip? position)))

/-- The text that is the value at a position. Bytes that are UTF-8 count as text. -/
def textAt? (s : Section) (position : Nat) : Option String := do
  let v ← s.value? position
  if v.kind = .text ∨ v.kind = .bytes then s.text? v.content v.size else none

/-- The names and the positions of `count` members. -/
def members? (s : Section) : (count : Nat) → (position : Nat) → Option (List (String × Nat))
  | 0, _ => some []
  | count + 1, position => do
    let name ← s.textAt? position
    let member ← s.skip? position
    some ((name, member) :: (← s.members? count (← s.skip? member)))

/-- The number that a value of an integral kind holds. -/
def integer? (s : Section) (v : Value) : Option Int := do
  let n ← s.natural? v.content v.size
  match v.kind with
  | .uint16 => if v.size ≤ 2 then some n else none
  | .uint32 => if v.size ≤ 4 then some n else none
  | .uint64 => if v.size ≤ 8 then some n else none
  | .int32 =>
    if v.size > 4 then none
    else if n < 2147483648 then some n
    else some (n - 4294967296)
  | _ => none

/-- Whether a value is a number that a fraction may stand for. -/
def isReal (s : Section) (v : Value) : Bool :=
  match v.kind with
  | .double => v.size == 8 && (s.natural? v.content 8).isSome
  | .float => v.size == 4 && (s.natural? v.content 4).isSome
  | _ => (s.integer? v).isSome

end Section

end Footfall.Geo
