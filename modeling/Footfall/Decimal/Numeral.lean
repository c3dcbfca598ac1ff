import Footfall.Text.Digits

/-!
# Decimal numerals

Decimal numbers as they are written, with a fraction and an exponent.

## Main Definitions

* `Numeral` — the parts of a number without its sign
* `Numeral.isFinite` — whether a floating-point number comes near it
-/

namespace Footfall

/-- A decimal number as it is written, without its sign. -/
structure Numeral where
  /-- Digits before the point. -/
  whole : List Char
  /-- Digits after the point. -/
  fraction : List Char
  /-- Whether the exponent has a minus. -/
  isSmall : Bool
  /-- Digits of the exponent. -/
  exponent : List Char

/-- Half a step above the largest floating-point number. -/
def floatEnd : Nat :=
  Nat.pow 2 1024 - Nat.pow 2 970

namespace Numeral

/-- The digits on both sides of the point as one number. -/
def digits (n : Numeral) : Nat :=
  digitsValue (n.whole ++ n.fraction)

/-- Whether the nearest floating-point number is finite. Powers of ten that decide nothing are
left out, so that none of them is large. -/
def isFinite (n : Numeral) : Bool :=
  let exponent := digitsValue n.exponent
  let places := n.fraction.length
  if n.digits = 0 then true
  else if n.isSmall then
    n.digits < floatEnd * Nat.pow 10 (min (exponent + places) (n.whole.length + places))
  else if 400 + places < exponent then false
  else n.digits * Nat.pow 10 exponent < floatEnd * Nat.pow 10 places

end Numeral

end Footfall
