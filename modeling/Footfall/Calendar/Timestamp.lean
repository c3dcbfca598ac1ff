import Footfall.Calendar.Granularity
import Footfall.Calendar.Text

/-!
# Stored timestamps

The store keeps moments as whole microseconds since 1970-01-01T00:00:00 UTC and exchanges them
as text.

## Main Definitions

* `Timestamp` — a stored moment
* `Instant.storedText` — the text in which an instant is handed to the store
* `Timestamp.ofText?` — the moment that the store makes of a text
* `Timestamp.text`, `Timestamp.bucketText` — the texts in which the store answers a moment
* `Instant.ofStoredText?` — the instant that such an answer names
* `Timestamp.truncate` — the start of the bucket that holds a moment

## Design Notes

An instant is cut, not rounded, to microseconds. The store refuses a seconds field of 60 and a
year with a plus sign, so leap seconds and years after 9999 have no stored form.
-/

namespace Footfall

/-- A stored moment: whole microseconds since 1970-01-01T00:00:00 UTC. -/
structure Timestamp where
  /-- Microseconds, negative before 1970. -/
  micros : Int
  deriving DecidableEq, Repr

namespace Timestamp

instance : LE Timestamp := ⟨fun a b => a.micros ≤ b.micros⟩
instance : LT Timestamp := ⟨fun a b => a.micros < b.micros⟩
instance (a b : Timestamp) : Decidable (a ≤ b) := inferInstanceAs (Decidable (a.micros ≤ b.micros))
instance (a b : Timestamp) : Decidable (a < b) := inferInstanceAs (Decidable (a.micros < b.micros))

theorem le_iff {a b : Timestamp} : a ≤ b ↔ a.micros ≤ b.micros := Iff.rfl
theorem lt_iff {a b : Timestamp} : a < b ↔ a.micros < b.micros := Iff.rfl

/-- Microseconds of an hour. -/
abbrev hourMicros : Int := 3600000000

/-- Microseconds of a day. -/
abbrev dayMicros : Int := 86400000000

/-- The number of the day that holds a moment. -/
def dayNumber (t : Timestamp) : Int :=
  t.micros / dayMicros

/-- The first moment of a day. -/
def midnight (d : Day) : Timestamp :=
  ⟨d.number * dayMicros⟩

/-- The start of the bucket that holds a moment. -/
def truncate (g : Granularity) (t : Timestamp) : Timestamp :=
  match g with
  | .hour => ⟨t.micros / hourMicros * hourMicros⟩
  | .day => ⟨t.dayNumber * dayMicros⟩
  | .month => ⟨(t.dayNumber - ((Civil.ofDayNumber t.dayNumber).day - 1 : Nat)) * dayMicros⟩

end Timestamp

/-! ## From an instant to the store -/

/-- The text in which an instant is handed to the store, cut to six places. -/
def Instant.storedText (t : Instant) : String :=
  String.ofList (t.day.civil.chars ++ ' ' :: t.clockChars ++
    '.' :: fixedDigits 6 (t.nanos % 1000000000 / 1000))

/-- Reads a date with a given reading of the year. -/
def readDate (year : List Char → Option (Int × List Char)) (cs : List Char) :
    Option (Civil × List Char) := do
  let (year, cs) ← year cs
  let cs ← readChar '-' cs
  let (month, cs) ← readUpTo 2 cs
  let cs ← readChar '-' cs
  let (day, cs) ← readUpTo 2 cs
  some (⟨year, month, day⟩, cs)

/-- Reads hours, minutes and seconds of two digits each, as seconds since midnight. -/
def readClock (cs : List Char) : Option (Nat × List Char) := do
  let (hour, cs) ← readExactly 2 cs
  let cs ← readChar ':' cs
  let (minute, cs) ← readExactly 2 cs
  let cs ← readChar ':' cs
  let (second, cs) ← readExactly 2 cs
  if hour ≤ 23 ∧ minute ≤ 59 ∧ second ≤ 59 then
    some ((hour * 60 + minute) * 60 + second, cs)
  else none

/-- Reads a year of the store: a minus sign or none, and any number of digits. -/
def readStoreYear : List Char → Option (Int × List Char)
  | '-' :: cs => (readAll cs).map fun (n, rest) => (-(n : Int), rest)
  | cs => (readAll cs).map fun (n, rest) => ((n : Int), rest)

/-- The moment that the store makes of a text. -/
def Timestamp.ofText? (s : String) : Option Timestamp := do
  let (date, cs) ← readDate readStoreYear s.toList
  let cs ← readChar ' ' cs
  let (seconds, cs) ← readClock cs
  let (nanos, cs) ← readFraction cs
  if cs.isEmpty ∧ date.Valid then
    some ⟨(date.dayNumber * 86400 + seconds) * 1000000 + (nanos / 1000 : Nat)⟩
  else none

/-- The stored form of an instant, which a leap second and a year after 9999 do not have. -/
def Instant.stored? (t : Instant) : Option Timestamp :=
  Timestamp.ofText? t.storedText

/-! ## From the store to an instant -/

namespace Timestamp

/-- The digits of a year of the store: four from 0 to 9999, else as many as it takes, after a
minus sign if it is negative. -/
def yearChars (year : Int) : List Char :=
  if 0 ≤ year ∧ year ≤ 9999 then fixedDigits 4 year.toNat
  else if year < 0 then '-' :: Nat.toDigits 10 year.natAbs
  else Nat.toDigits 10 year.natAbs

/-- Date and time to the second. -/
def secondChars (t : Timestamp) : List Char :=
  let c := Civil.ofDayNumber t.dayNumber
  let s := (t.micros / 1000000 % 86400).toNat
  yearChars c.year ++ '-' :: fixedDigits 2 c.month ++ '-' :: fixedDigits 2 c.day ++
    ' ' :: fixedDigits 2 (s / 3600) ++ ':' :: fixedDigits 2 (s / 60 % 60) ++
    ':' :: fixedDigits 2 (s % 60)

/-- The text of a moment to the second, in which buckets are answered. -/
def bucketText (t : Timestamp) : String :=
  String.ofList t.secondChars

/-- The text of a moment with its six places. -/
def text (t : Timestamp) : String :=
  String.ofList (t.secondChars ++ '.' :: fixedDigits 6 (t.micros % 1000000).toNat)

end Timestamp

/-- The instant that a text of the store names, with or without places. -/
def Instant.ofStoredText? (s : String) : Option Instant := do
  let (date, cs) ← readDate readYear s.toList
  let cs ← readChar ' ' cs
  let (seconds, cs) ← readClock cs
  let (nanos, cs) ← readFraction cs
  if cs.isEmpty ∧ date.Valid then
    Instant.ofParts? (date.dayNumber * 86400 + seconds) nanos
  else none

end Footfall
