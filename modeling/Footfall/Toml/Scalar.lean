import Footfall.Calendar.Civil
import Footfall.Decimal.Numeral
import Footfall.Toml.Node

/-!
# TOML scalars

Strings, numbers, dates and times, each read off the front of a text.

## Main Definitions

* `Toml.readString` — a string of any of the four kinds
* `Toml.readNumber` — an integer or a floating-point number
* `Toml.readMoment` — a date, a time or both
* `Toml.readBool` — a truth value

## Design Notes

Integers have 64 bits with sign. A floating-point number must not be too large, but its value is
of no use to anyone and is dropped, like the values of dates and times.
-/

namespace Footfall.Toml

/-- A reader: a value off the front of a text, with what follows it. -/
abbrev Reader (α : Type) := List Char → Option (α × List Char)

/-- Blanks within a line. -/
def isSpace (c : Char) : Bool :=
  c == ' ' || c == '\t'

/-- Drops the blanks at the front. -/
def dropSpace (cs : List Char) : List Char :=
  cs.dropWhile isSpace

/-- Reads a line break. -/
def readBreak : List Char → Option (List Char)
  | '\n' :: cs => some cs
  | '\r' :: '\n' :: cs => some cs
  | _ => none

/-- Characters of comments and strings; quotes and backslashes need more care. -/
def isPrintable (c : Char) : Bool :=
  c == '\t' || (0x20 ≤ c.toNat && c.toNat ≠ 0x7F)

/-- Drops blanks and line breaks; a carriage return alone stays. -/
def dropBreaks : (most : Nat) → List Char → List Char
  | 0, cs => cs
  | most + 1, cs =>
    match readBreak (dropSpace cs) with
    | some rest => dropBreaks most rest
    | none => dropSpace cs

/-! ## Strings -/

/-- Reads the character of `width` hexadecimal digits. -/
def readCode (width : Nat) (cs : List Char) : Option (Char × List Char) := do
  let digits ← (cs.take width).mapM hexDigit?
  let n := digits.foldl (fun n d => 16 * n + d) 0
  if digits.length = width ∧ n.isValidChar then some (Char.ofNat n, cs.drop width) else none

/-- Reads an escape behind its backslash. -/
def readEscape : Reader Char
  | 'b' :: cs => some ('\x08', cs)
  | 't' :: cs => some ('\t', cs)
  | 'n' :: cs => some ('\n', cs)
  | 'f' :: cs => some ('\x0c', cs)
  | 'r' :: cs => some ('\r', cs)
  | '"' :: cs => some ('"', cs)
  | '\\' :: cs => some ('\\', cs)
  | 'u' :: cs => readCode 4 cs
  | 'U' :: cs => readCode 8 cs
  | _ => none

/-- Puts a character before what a reader reads. -/
def consResult (c : Char) (r : Option (List Char × List Char)) :
    Option (List Char × List Char) :=
  r.map fun (cs, rest) => (c :: cs, rest)

/-- Reads a string of one line between double quotes, behind the first of them. -/
def readBasic : (most : Nat) → Reader (List Char)
  | 0, _ => none
  | _, [] => none
  | _ + 1, '"' :: cs => some ([], cs)
  | most + 1, '\\' :: cs => do
    let (c, cs) ← readEscape cs
    consResult c (readBasic most cs)
  | most + 1, c :: cs => if isPrintable c then consResult c (readBasic most cs) else none

/-- Reads a string of one line between single quotes, behind the first of them. -/
def readLiteral : Reader (List Char)
  | [] => none
  | c :: cs =>
    if c = '\'' then some ([], cs)
    else if isPrintable c then consResult c (readLiteral cs) else none

/-- The end of a string of many lines: a run of quotes, of which the last three end the string and
at most two more belong to it. -/
def readClosing (quote : Char) (cs : List Char) : Option (Option (List Char × List Char)) :=
  let run := (cs.takeWhile (· == quote)).length
  if run < 3 then some none
  else if run ≤ 5 then some (some (List.replicate (run - 3) quote, cs.drop run))
  else none

/-- Passes over the blanks and line breaks behind a backslash at the end of a line. -/
def continueLine? (cs : List Char) : Option (List Char) :=
  (readBreak (dropSpace cs)).map fun rest => dropBreaks rest.length rest

/-- Reads a string of many lines behind its opening quotes. Double quotes allow escapes. -/
def readLines (quote : Char) : (most : Nat) → Reader (List Char)
  | 0, _ => none
  | most + 1, cs =>
    match readClosing quote cs with
    | none => none
    | some (some closing) => some closing
    | some none =>
      match readBreak cs with
      | some rest => consResult '\n' (readLines quote most rest)
      | none =>
        match cs with
        | [] => none
        | c :: rest =>
          if c = '\\' ∧ quote = '"' then
            match continueLine? rest with
            | some rest => readLines quote most rest
            | none => do
              let (c, rest) ← readEscape rest
              consResult c (readLines quote most rest)
          else if isPrintable c then consResult c (readLines quote most rest)
          else none

/-- Drops the line break right behind the opening quotes. -/
def dropFirstBreak (cs : List Char) : List Char :=
  (readBreak cs).getD cs

/-- Reads a string of one line. -/
def readShortString : Reader String
  | '"' :: cs => (readBasic (cs.length + 1) cs).map fun (s, rest) => (String.ofList s, rest)
  | '\'' :: cs => (readLiteral cs).map fun (s, rest) => (String.ofList s, rest)
  | _ => none

/-- Reads a string. -/
def readString : Reader String
  | '"' :: '"' :: '"' :: cs =>
    (readLines '"' (cs.length + 1) (dropFirstBreak cs)).map fun (s, rest) =>
      (String.ofList s, rest)
  | '\'' :: '\'' :: '\'' :: cs =>
    (readLines '\'' (cs.length + 1) (dropFirstBreak cs)).map fun (s, rest) =>
      (String.ofList s, rest)
  | cs => readShortString cs

/-! ## Numbers -/

/-- Reads digits, between any two of which may stand an underscore. -/
def readDigits (isDigit : Char → Bool) : Reader (List Char)
  | [] => none
  | c :: cs =>
    if isDigit c then
      match cs with
      | '_' :: rest => (readDigits isDigit rest).map fun (ds, rest) => (c :: ds, rest)
      | cs => some ((readDigits isDigit cs).elim ([c], cs) fun (ds, rest) => (c :: ds, rest))
    else none

/-- Reads digits that do not start with a zero, or a zero. -/
def readWhole (cs : List Char) : Option (List Char × List Char) :=
  match cs with
  | '0' :: rest => some (['0'], rest)
  | cs => readDigits Char.isDigit cs

/-- Reads a sign, if there is one: whether it is a minus. -/
def readSign : List Char → Bool × List Char
  | '-' :: cs => (true, cs)
  | '+' :: cs => (false, cs)
  | cs => (false, cs)

/-- The number that digits write in a base. -/
def baseValue (base : Nat) (digits : List Char) : Nat :=
  digits.foldl (fun n c => base * n + (hexDigit? c).getD 0) 0

/-- An integer of 64 bits with sign. -/
def integer? (n : Int) : Option Node :=
  if -9223372036854775808 ≤ n ∧ n ≤ 9223372036854775807 then some (.integer n) else none

/-- Reads the digits of an integer in another base. -/
def readBased (base : Nat) (isDigit : Char → Bool) : Reader Node := fun cs => do
  let (digits, rest) ← readDigits isDigit cs
  some (← integer? (baseValue base digits), rest)

/-- Reads a fraction, if there is one: its digits. -/
def readPlaces : List Char → Option (Option (List Char) × List Char)
  | '.' :: cs => (readDigits Char.isDigit cs).map fun (ds, rest) => (some ds, rest)
  | cs => some (none, cs)

/-- Reads an exponent, if there is one: whether it is negative, and its digits. -/
def readExponent (cs : List Char) : Option (Option (Bool × List Char) × List Char) :=
  match cs with
  | 'e' :: cs | 'E' :: cs =>
    let (isMinus, cs) := readSign cs
    (readDigits Char.isDigit cs).map fun (ds, rest) => (some (isMinus, ds), rest)
  | cs => some (none, cs)

/-- Reads a decimal number: an integer, or with a fraction or an exponent a floating-point
number. -/
def readDecimal : Reader Node := fun cs => do
  let (isNegative, cs) := readSign cs
  let (whole, cs) ← readWhole cs
  let (places, cs) ← readPlaces cs
  let (exponent, cs) ← readExponent cs
  match places, exponent with
  | none, none =>
    let n : Int := digitsValue whole
    some (← integer? (if isNegative then -n else n), cs)
  | places, exponent =>
    let (isSmall, digits) := exponent.getD (false, [])
    let n : Numeral := ⟨whole, places.getD [], isSmall, digits⟩
    if isNegative || n.isFinite then some (.float, cs) else none

/-- Reads a number. -/
def readNumber : Reader Node := fun cs =>
  match cs with
  | '0' :: 'x' :: cs => readBased 16 (fun c => (hexDigit? c).isSome) cs
  | '0' :: 'o' :: cs => readBased 8 (fun c => '0' ≤ c && c ≤ '7') cs
  | '0' :: 'b' :: cs => readBased 2 (fun c => c == '0' || c == '1') cs
  | cs =>
    match (readSign cs).2 with
    | 'i' :: 'n' :: 'f' :: rest => some (.float, rest)
    | 'n' :: 'a' :: 'n' :: rest => some (.float, rest)
    | _ => readDecimal cs

/-! ## Dates and times -/

/-- Reads a date. -/
def readDate : List Char → Option (List Char) := fun cs => do
  let (year, cs) ← readExactly 4 cs
  let cs ← readChar '-' cs
  let (month, cs) ← readExactly 2 cs
  let cs ← readChar '-' cs
  let (day, cs) ← readExactly 2 cs
  if (⟨year, month, day⟩ : Civil).Valid then some cs else none

/-- Reads a time of day. -/
def readTime : List Char → Option (List Char) := fun cs => do
  let (hour, cs) ← readExactly 2 cs
  let cs ← readChar ':' cs
  let (minute, cs) ← readExactly 2 cs
  let cs ← readChar ':' cs
  let (second, cs) ← readExactly 2 cs
  if 23 < hour ∨ 59 < minute ∨ 60 < second then none
  else
    match cs with
    | '.' :: cs => (readAll cs).map (·.2)
    | cs => some cs

/-- Reads an offset from UTC. -/
def readZone : List Char → Option (List Char)
  | 'Z' :: cs | 'z' :: cs => some cs
  | '+' :: cs | '-' :: cs => do
    let (hour, cs) ← readExactly 2 cs
    let cs ← readChar ':' cs
    let (minute, cs) ← readExactly 2 cs
    if 23 < hour ∨ 59 < minute then none else some cs
  | _ => none

/-- Reads the time and the offset behind a date, if there are any. -/
def readTimeAfter (cs : List Char) : List Char :=
  match cs with
  | 'T' :: rest | 't' :: rest | ' ' :: rest =>
    match readTime rest with
    | some rest => (readZone rest).getD rest
    | none => cs
  | cs => cs

/-- Reads a date, a time or both. -/
def readMoment : Reader Node := fun cs =>
  match readDate cs with
  | some rest => some (.moment, readTimeAfter rest)
  | none => (readTime cs).map fun rest => (.moment, rest)

/-- Reads a truth value. -/
def readBool : Reader Node
  | 't' :: 'r' :: 'u' :: 'e' :: cs => some (.bool true, cs)
  | 'f' :: 'a' :: 'l' :: 's' :: 'e' :: cs => some (.bool false, cs)
  | _ => none

/-- Reads a scalar. -/
def readScalar : Reader Node := fun cs =>
  match cs with
  | '"' :: _ | '\'' :: _ => (readString cs).map fun (s, rest) => (.text s, rest)
  | 't' :: _ | 'f' :: _ => readBool cs
  | cs => (readMoment cs).orElse fun _ => readNumber cs

end Footfall.Toml
