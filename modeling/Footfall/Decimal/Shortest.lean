/-!
# Shortest decimals

The fewest decimal digits that still name one floating-point number, and their layout.

## Main Definitions

* `Interval` — the reals that round to a floating-point number
* `Interval.shortest` — the fewest digits in an interval, nearest to its middle
* `floatText` — the text of a floating-point number

## Design Notes

Digits are chosen in exact arithmetic. A floating-point number is m · 2^q, and the reals that
round to it reach half way to its neighbours, both ends included if m is even. For a growing
number of digits the two neighbours of the value on that decimal grid are tested.
-/

namespace Footfall

/-- The reals that round to a floating-point number, over one denominator. -/
structure Interval where
  /-- Numerator of the lower end. -/
  low : Nat
  /-- Numerator of the number itself. -/
  value : Nat
  /-- Numerator of the upper end. -/
  high : Nat
  /-- The denominator. -/
  denominator : Nat
  /-- Whether the ends belong to the interval. -/
  closed : Bool
  deriving Repr

/-- A number of decimal digits: `digits` times ten to the power of `exponent`. -/
structure Decimal where
  /-- The digits as one number. -/
  digits : Nat
  /-- The power of ten. -/
  exponent : Int
  deriving DecidableEq, Repr

namespace Interval

/-- Two to the power of 52: the lowest 52 bits are the fraction of the significand. -/
def fractionEnd : Nat := 4503599627370496

/-- The eleven bits of the exponent. -/
def exponentBits (bits : Nat) : Nat :=
  bits / fractionEnd % 2048

/-- The interval of the number with these bits, which is finite, positive or negative; the sign
does not count. -/
def ofBits (bits : Nat) : Interval :=
  let fraction : Nat := bits % fractionEnd
  let biased : Nat := exponentBits bits
  let m : Nat := if biased = 0 then fraction else fraction + fractionEnd
  let q : Int := if biased = 0 then -1074 else (biased : Int) - 1075
  let below : Nat := if fraction = 0 ∧ 1 < biased then 1 else 2
  let up := Nat.pow 2 (q - 2).toNat
  { low := (4 * m - below) * up
    value := 4 * m * up
    high := (4 * m + 2) * up
    denominator := Nat.pow 2 (2 - q).toNat
    closed := m % 2 == 0 }

/-- How many digits stand before the point; zero or less counts the zeros after the point. -/
def magnitude (i : Interval) : Int :=
  if i.denominator ≤ i.value then (Nat.toDigits 10 (i.value / i.denominator)).length
  else
    let inverse := (i.denominator + i.value - 1) / i.value
    1 - ((Nat.toDigits 10 (inverse - 1)).length : Int)

/-- Whether `digits` times ten to the power of `e` lies in the interval. -/
def holds (i : Interval) (digits : Nat) (e : Int) : Bool :=
  let n := digits * Nat.pow 10 e.toNat * i.denominator
  let s := Nat.pow 10 (-e).toNat
  if i.closed then i.low * s ≤ n && n ≤ i.high * s else i.low * s < n && n < i.high * s

/-- The neighbours of the value among the multiples of ten to the power of `e`, the nearer first;
of two that are equally near, the even one first. -/
def neighbours (i : Interval) (e : Int) : List Nat :=
  let n := i.value * Nat.pow 10 (-e).toNat
  let d := i.denominator * Nat.pow 10 e.toNat
  let below := n / d
  let rest := n % d
  if 2 * rest < d ∨ (2 * rest = d ∧ below % 2 = 0) then [below, below + 1]
  else [below + 1, below]

/-- The first decimal in the interval among those of `digits`, `digits + 1`, … digits. -/
def search (i : Interval) : (attempts digits : Nat) → Option Decimal
  | 0, _ => none
  | attempts + 1, digits =>
    let e := i.magnitude - digits
    match (i.neighbours e).find? fun n => i.holds n e with
    | some n => some ⟨n, e⟩
    | none => search i attempts (digits + 1)

/-- The fewest digits in an interval; seventeen always suffice. -/
def shortest (i : Interval) : Decimal :=
  (i.search 17 1).getD ⟨0, 0⟩

end Interval

namespace Decimal

/-- Layout: a point within or just outside the digits, with at least one digit on each side of
it, and otherwise an exponent. -/
def chars (d : Decimal) : List Char :=
  let digits := Nat.toDigits 10 d.digits
  let length := digits.length
  let point := length + d.exponent
  if 0 ≤ d.exponent ∧ point ≤ 16 then
    digits ++ List.replicate d.exponent.toNat '0' ++ ['.', '0']
  else if 0 < point ∧ point ≤ 16 then
    digits.take point.toNat ++ '.' :: digits.drop point.toNat
  else if -5 < point ∧ point ≤ 0 then
    '0' :: '.' :: List.replicate (-point).toNat '0' ++ digits
  else
    let exponent := 'e' :: (toString (point - 1)).toList
    match digits with
    | [c] => c :: exponent
    | c :: cs => c :: '.' :: cs ++ exponent
    | [] => exponent

/-- Without the zeros at its end. -/
def trimmed : (attempts : Nat) → Decimal → Decimal
  | 0, d => d
  | attempts + 1, d =>
    if d.digits ≠ 0 ∧ d.digits % 10 = 0 then trimmed attempts ⟨d.digits / 10, d.exponent + 1⟩
    else d

end Decimal

/-- Two to the power of 63: the bit of the sign. -/
def signBit : Nat := 9223372036854775808

/-- The text of a finite floating-point number. -/
def floatText (x : Float) : String :=
  let bits := x.toBits.toNat
  let sign := if bits / signBit = 1 then ['-'] else []
  if bits % signBit = 0 then String.ofList (sign ++ ['0', '.', '0'])
  else
    let d := (Interval.ofBits bits).shortest
    String.ofList (sign ++ (d.trimmed 17).chars)

/-- Whether a floating-point number is neither infinite nor undefined. -/
def isFiniteFloat (x : Float) : Bool :=
  Interval.exponentBits x.toBits.toNat != 2047

end Footfall
