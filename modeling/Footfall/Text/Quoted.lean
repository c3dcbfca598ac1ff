import Footfall.Text.Unshown

/-!
# Quoted text

A text between double quotes with everything in it visible.

## Main Definitions

* `quotedChar` — how one character is shown
* `quoted` — the quoted form of a text

## Design Notes

Quote and backslash take a backslash; tab, line feed, carriage return and NUL have letters of
their own; every other character that does not stand for itself is its code in hexadecimal.
-/

namespace Footfall

/-- The lower-case hexadecimal digits of a number. -/
def hexDigits (n : Nat) : List Char :=
  Nat.toDigits 16 n

/-- How a character is shown between quotes. -/
def quotedChar (c : Char) : List Char :=
  if c = '"' ∨ c = '\\' then ['\\', c]
  else if c = '\t' then ['\\', 't']
  else if c = '\n' then ['\\', 'n']
  else if c = '\r' then ['\\', 'r']
  else if c.toNat = 0 then ['\\', '0']
  else if isUnshown c then ['\\', 'u', '\x7b'] ++ hexDigits c.toNat ++ ['\x7d']
  else [c]

/-- A text between quotes. -/
def quoted (s : String) : String :=
  String.ofList ('"' :: s.toList.flatMap quotedChar ++ ['"'])

end Footfall
