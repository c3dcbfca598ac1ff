import Footfall.Calendar.Instant
import Footfall.Text.Digits
import Footfall.Text.Blank

/-!
# Written days and instants

The texts in which days and instants are read and answered.

## Main Definitions

* `Day.text` — year, month and day with hyphens
* `Instant.text` — RFC 3339 in UTC, with the fewest of 0, 3, 6 or 9 places that lose nothing
* `Instant.plainText` — date and time with a blank between and the name of the zone
* `Day.parse?` — a date as people type it
* `Instant.parseRfc3339?` — RFC 3339 with any offset

## Design Notes

Years 0 to 9999 have four digits. Every other year has its sign and at least four digits. A leap
second is second 60 of its minute.
-/

namespace Footfall

/-- The digits of a year, with a sign outside 0 to 9999. -/
def yearDigits (year : Int) : List Char :=
  if 0 ≤ year ∧ year ≤ 9999 then fixedDigits 4 year.toNat
  else (if year < 0 then '-' else '+') :: paddedDigits 4 year.natAbs

/-- Year, month and day with hyphens. -/
def Civil.chars (c : Civil) : List Char :=
  yearDigits c.year ++ '-' :: fixedDigits 2 c.month ++ '-' :: fixedDigits 2 c.day

/-- Year, month and day with hyphens. -/
def Day.text (d : Day) : String :=
  String.ofList d.civil.chars

namespace Instant

/-- Hours, minutes and seconds with colons; a leap second is second 60. -/
def clockChars (t : Instant) : List Char :=
  let s := t.secondOfDay
  let second := if t.isLeap then 60 else s % 60
  fixedDigits 2 (s / 3600) ++ ':' :: fixedDigits 2 (s / 60 % 60) ++ ':' :: fixedDigits 2 second

/-- The fraction of a second with 3, 6 or 9 places, or nothing if it is zero. -/
def fractionChars (t : Instant) : List Char :=
  let nanos := t.nanos % 1000000000
  if nanos = 0 then []
  else if nanos % 1000000 = 0 then '.' :: fixedDigits 3 (nanos / 1000000)
  else if nanos % 1000 = 0 then '.' :: fixedDigits 6 (nanos / 1000)
  else '.' :: fixedDigits 9 nanos

/-- RFC 3339 in UTC. -/
def text (t : Instant) : String :=
  String.ofList (t.day.civil.chars ++ 'T' :: t.clockChars ++ t.fractionChars ++ ['Z'])

/-- Date and time with a blank between, and the name of the zone. -/
def plainText (t : Instant) : String :=
  String.ofList (t.day.civil.chars ++ ' ' :: t.clockChars ++ t.fractionChars) ++ " UTC"

end Instant

/-! ## Reading dates -/

/-- Reads a year: a sign and any number of digits, or at most four digits. -/
def readYear : List Char → Option (Int × List Char)
  | '-' :: cs => (readAll cs).map fun (n, rest) => (-(n : Int), rest)
  | '+' :: cs => (readAll cs).map fun (n, rest) => ((n : Int), rest)
  | cs => (readUpTo 4 cs).map fun (n, rest) => ((n : Int), rest)

/-- Reads a day as people type it: blanks may stand before each number, and month and day may have
one digit. Nothing may follow. -/
def Day.parse? (s : String) : Option Day := do
  let (year, cs) ← readYear (dropBlanks s.toList)
  let cs ← readChar '-' cs
  let (month, cs) ← readUpTo 2 (dropBlanks cs)
  let cs ← readChar '-' cs
  let (day, cs) ← readUpTo 2 (dropBlanks cs)
  if cs.isEmpty then ofCivil? ⟨year, month, day⟩ else none

/-! ## Reading RFC 3339 -/

/-- Reads a fraction of a second: a point and digits, of which those after the ninth are dropped.
Without a point the fraction is zero. -/
def readFraction : List Char → Option (Nat × List Char)
  | '.' :: cs => do
    let digits := cs.takeWhile Char.isDigit
    if digits.isEmpty then none
    else
      let kept := digits.take 9
      some (digitsValue kept * Nat.pow 10 (9 - kept.length), cs.drop digits.length)
  | cs => some (0, cs)

/-- Reads an offset from UTC in seconds: `Z`, or a sign, hours, a colon and minutes. The sign may
be U+2212. -/
def readOffset : List Char → Option (Int × List Char)
  | 'Z' :: cs | 'z' :: cs => some (0, cs)
  | sign :: cs => do
    let direction : Int ←
      if sign = '+' then some 1 else if sign = '-' ∨ sign = '\u2212' then some (-1) else none
    let (hours, cs) ← readExactly 2 cs
    let cs ← readChar ':' cs
    let (minutes, cs) ← readExactly 2 cs
    if hours ≤ 23 ∧ minutes ≤ 59 then
      some (direction * ((hours * 3600 + minutes * 60 : Nat) : Int), cs)
    else none
  | [] => none

/-- The instant of a date and a time of day at an offset from UTC. -/
def Instant.ofClock? (date : Civil) (hour minute second nanos : Nat) (offset : Int) :
    Option Instant :=
  if date.Valid ∧ hour ≤ 23 ∧ minute ≤ 59 ∧ second ≤ 60 then
    let leap := second = 60
    let inMinute := if leap then 59 else second
    let seconds := date.dayNumber * 86400 + ((hour * 60 + minute) * 60 + inMinute : Nat) - offset
    Instant.ofParts? seconds (if leap then nanos + 1000000000 else nanos)
  else none

/-- Reads an instant of RFC 3339. Date and time may also be parted by a blank. -/
def Instant.parseRfc3339? (s : String) : Option Instant := do
  let (year, cs) ← readExactly 4 s.toList
  let cs ← readChar '-' cs
  let (month, cs) ← readExactly 2 cs
  let cs ← readChar '-' cs
  let (day, cs) ← readExactly 2 cs
  let cs ← match cs with
    | 'T' :: cs | 't' :: cs | ' ' :: cs => some cs
    | _ => none
  let (hour, cs) ← readExactly 2 cs
  let cs ← readChar ':' cs
  let (minute, cs) ← readExactly 2 cs
  let cs ← readChar ':' cs
  let (second, cs) ← readExactly 2 cs
  let (nanos, cs) ← readFraction cs
  let (offset, cs) ← readOffset cs
  if cs.isEmpty then ofClock? ⟨year, month, day⟩ hour minute second nanos offset else none

end Footfall
