import Footfall.Decimal.Numeral

/-!
# JSON tokens

The words of a JSON text, up to the first place where it is no JSON.

## Main Definitions

* `Token` — a word
* `Token.scan` — the words of a text

## Design Notes

A text that stops being JSON ends in the token `bad`. Escapes may name halves of a character that
do not belong together; such a string is a token without a value, because it does no harm where
nobody reads it. For the same reason a number tells whether it is finite.
-/

namespace Footfall

/-- A word of a JSON text. -/
inductive Token where
  | openBrace
  | closeBrace
  | openBracket
  | closeBracket
  | comma
  | colon
  | null
  | bool
  /-- A number, and whether it is in the range of floating-point numbers. -/
  | number (inRange : Bool)
  /-- A string with its value, if it has one. -/
  | text (value : Option String)
  /-- No word of JSON stands here. -/
  | bad
  deriving DecidableEq, Repr

namespace Token

/-- Characters between words. -/
def isGap (c : Char) : Bool :=
  c == ' ' || c == '\t' || c == '\n' || c == '\r'

/-! ## Strings -/

/-- A character or a code of four hexadecimal digits. -/
inductive Piece where
  | char (c : Char)
  | code (n : Nat)
  deriving DecidableEq, Repr

/-- The code of four hexadecimal digits. -/
def hexCode? (a b c d : Char) : Option Nat := do
  some (((← hexDigit? a) * 16 + (← hexDigit? b)) * 256 + (← hexDigit? c) * 16 + (← hexDigit? d))

/-- The character of an escape of one letter. -/
def letterEscape? : Char → Option Char
  | '"' => some '"'
  | '\\' => some '\\'
  | '/' => some '/'
  | 'b' => some '\x08'
  | 'f' => some '\x0c'
  | 'n' => some '\n'
  | 'r' => some '\r'
  | 't' => some '\t'
  | _ => none

/-- Reads a string behind its opening quote. -/
def scanString : List Char → Option (List Piece × List Char)
  | [] => none
  | '"' :: rest => some ([], rest)
  | '\\' :: 'u' :: a :: b :: c :: d :: rest => do
    let code ← hexCode? a b c d
    let (pieces, rest) ← scanString rest
    some (.code code :: pieces, rest)
  | '\\' :: c :: rest => do
    let c ← letterEscape? c
    let (pieces, rest) ← scanString rest
    some (.char c :: pieces, rest)
  | c :: rest => do
    if c.toNat < 0x20 ∨ c = '\\' then none
    else
      let (pieces, rest) ← scanString rest
      some (.char c :: pieces, rest)

/-- The characters of a string; none if half of a character stands alone. -/
def joinPieces : List Piece → Option (List Char)
  | [] => some []
  | .char c :: rest => (joinPieces rest).map (c :: ·)
  | .code high :: .code low :: rest =>
    if 0xD800 ≤ high ∧ high ≤ 0xDBFF then
      if 0xDC00 ≤ low ∧ low ≤ 0xDFFF then
        (joinPieces rest).map
          (Char.ofNat (0x10000 + (high - 0xD800) * 0x400 + (low - 0xDC00)) :: ·)
      else none
    else if 0xDC00 ≤ high ∧ high ≤ 0xDFFF then none
    else (joinPieces (.code low :: rest)).map (Char.ofNat high :: ·)
  | .code n :: rest =>
    if 0xD800 ≤ n ∧ n ≤ 0xDFFF then none else (joinPieces rest).map (Char.ofNat n :: ·)

/-! ## Numbers -/

/-- Reads digits, at least one. -/
def scanDigits (cs : List Char) : Option (List Char × List Char) :=
  let digits := cs.takeWhile Char.isDigit
  if digits.isEmpty then none else some (digits, cs.drop digits.length)

/-- Reads the digits before the point, of which a zero stands alone. -/
def scanWhole (cs : List Char) : Option (List Char × List Char) := do
  let (digits, rest) ← scanDigits cs
  if digits.head? = some '0' ∧ digits.length ≠ 1 then none else some (digits, rest)

/-- Reads a point and the digits after it, if there is a point. -/
def scanFraction : List Char → Option (List Char × List Char)
  | '.' :: cs => scanDigits cs
  | cs => some ([], cs)

/-- Reads an exponent, if there is one. -/
def scanExponent (cs : List Char) : Option (Bool × List Char × List Char) :=
  match cs with
  | 'e' :: cs | 'E' :: cs =>
    match cs with
    | '-' :: cs => (scanDigits cs).map fun (digits, rest) => (true, digits, rest)
    | '+' :: cs => (scanDigits cs).map fun (digits, rest) => (false, digits, rest)
    | cs => (scanDigits cs).map fun (digits, rest) => (false, digits, rest)
  | cs => some (false, [], cs)

/-- Reads a number behind its sign. -/
def scanNumeral (cs : List Char) : Option (Numeral × List Char) := do
  let (whole, cs) ← scanWhole cs
  let (fraction, cs) ← scanFraction cs
  let (isSmall, exponent, cs) ← scanExponent cs
  some (⟨whole, fraction, isSmall, exponent⟩, cs)

/-! ## Words -/

/-- The word at the front of a text, with what follows it. -/
def scanWord (cs : List Char) : Token × List Char :=
  match cs with
  | '\x7b' :: rest => (openBrace, rest)
  | '\x7d' :: rest => (closeBrace, rest)
  | '[' :: rest => (openBracket, rest)
  | ']' :: rest => (closeBracket, rest)
  | ',' :: rest => (comma, rest)
  | ':' :: rest => (colon, rest)
  | 'n' :: 'u' :: 'l' :: 'l' :: rest => (null, rest)
  | 't' :: 'r' :: 'u' :: 'e' :: rest => (bool, rest)
  | 'f' :: 'a' :: 'l' :: 's' :: 'e' :: rest => (bool, rest)
  | '"' :: rest =>
    match scanString rest with
    | some (pieces, rest) => (text ((joinPieces pieces).map String.ofList), rest)
    | none => (bad, [])
  | cs =>
    let unsigned := match cs with
      | '-' :: cs => cs
      | cs => cs
    match scanNumeral unsigned with
    | some (n, rest) => (number n.isFinite, rest)
    | none => (bad, [])

/-- At most `most` words of a text. -/
def scanUpTo : (most : Nat) → List Char → List Token
  | 0, _ => []
  | most + 1, cs =>
    match cs.dropWhile isGap with
    | [] => []
    | c :: cs =>
      let (word, rest) := scanWord (c :: cs)
      word :: scanUpTo most rest

/-- The words of a text. Each word has a character of its own, so there are no more words than
characters. -/
def scan (s : String) : List Token :=
  scanUpTo s.length s.toList

end Token

end Footfall
