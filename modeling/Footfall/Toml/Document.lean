import Footfall.Toml.Scalar

/-!
# TOML documents

A whole document, line by line.

## Main Definitions

* `Toml.readValue` — a scalar, an array or a table in braces
* `Toml.readKey` — a key with its dots
* `Toml.parse?` — the members of a document

## Design Notes

Arrays and tables in braces may lie in one another up to a depth, and a key may have as many
parts. A document with anything wrong in it has no members at all.
-/

namespace Footfall.Toml

/-- Values lie at most this deep in one another, and keys have at most this many parts. -/
def maxDepth : Nat := 79

/-! ## Keys -/

/-- Characters of a key without quotes. -/
def isKeyChar (c : Char) : Bool :=
  c.isAlphanum || c == '-' || c == '_'

/-- Reads a part of a key, with the blanks around it. -/
def readKeyPart : Reader String := fun cs =>
  let part : Option (String × List Char) := match dropSpace cs with
    | '"' :: rest => readShortString ('"' :: rest)
    | '\'' :: rest => readShortString ('\'' :: rest)
    | cs =>
      let name := cs.takeWhile isKeyChar
      if name.isEmpty then none else some (String.ofList name, cs.drop name.length)
  part.map fun (name, rest) => (name, dropSpace rest)

/-- Reads at most `most` parts of a key with the dots between them. -/
def readKeyParts : (most : Nat) → Reader (List String)
  | 0, _ => none
  | most + 1, cs => do
    let (part, cs) ← readKeyPart cs
    match cs with
    | '.' :: cs => do
      let (parts, cs) ← readKeyParts most cs
      some (part :: parts, cs)
    | cs => some ([part], cs)

/-- A key: the path to its table and its name there. -/
structure Key where
  /-- The path. -/
  path : List String
  /-- The name. -/
  name : String

/-- Reads a key. -/
def readKey : Reader Key := fun cs => do
  let (parts, cs) ← readKeyParts maxDepth cs
  some (⟨parts.dropLast, ← parts.getLast?⟩, cs)

/-! ## Values -/

/-- Reads a comment up to the end of its line. -/
def dropComment (cs : List Char) : List Char :=
  match cs with
  | '#' :: cs => cs.dropWhile isPrintable
  | cs => cs

/-- Drops blanks, line breaks and comments that end with a line. -/
def dropFiller : (most : Nat) → List Char → List Char
  | 0, cs => cs
  | most + 1, cs =>
    match readBreak (dropComment (dropSpace cs)) with
    | some rest => dropFiller most rest
    | none => dropSpace cs

/-- Drops blanks, line breaks and comments as far as they reach. -/
def dropAllFiller (cs : List Char) : List Char :=
  dropFiller cs.length cs

/-- Reads the items of an array with its closing bracket. Each item has a character of its own, so
there are no more than characters. -/
def readItems (item : Reader Node) : (most : Nat) → Reader (List Node)
  | 0, _ => none
  | most + 1, cs =>
    match dropAllFiller cs with
    | ']' :: rest => some ([], rest)
    | cs => do
      let (node, cs) ← item cs
      match dropAllFiller cs with
      | ',' :: cs => do
        let (nodes, cs) ← readItems item most cs
        some (node :: nodes, cs)
      | ']' :: cs => some ([node], cs)
      | _ => none

/-- Reads a key, an equals sign and a value. -/
def readAssignment (item : Reader Node) : Reader (Key × Node) := fun cs => do
  let (key, cs) ← readKey cs
  let cs ← readChar '=' cs
  let (node, cs) ← item (dropSpace cs)
  some ((key, node), dropSpace cs)

/-- Reads the members of a table in braces with its closing brace. -/
def readMembers (item : Reader Node) : (most : Nat) → Members → Reader Members
  | 0, _, _ => none
  | most + 1, ms, cs => do
    let ((key, node), cs) ← readAssignment item cs
    let ms ← assign? key.path key.name node .braces ms
    match cs with
    | ',' :: cs => readMembers item most ms cs
    | '\x7d' :: cs => some (ms, cs)
    | _ => none

/-- Reads the members of a table in braces, of which there may be none. -/
def readBraces (item : Reader Node) : Reader Members := fun cs =>
  match dropSpace cs with
  | '\x7d' :: rest => some ([], rest)
  | cs => readMembers item cs.length [] cs

/-- Reads a value with at most `depth` arrays and tables around its innermost values. -/
def readValue : (depth : Nat) → Reader Node
  | depth, '[' :: cs =>
    match depth with
    | 0 => none
    | depth + 1 =>
      (readItems (readValue depth) cs.length cs).map fun (nodes, rest) => (.array nodes, rest)
  | depth, '\x7b' :: cs =>
    match depth with
    | 0 => none
    | depth + 1 =>
      (readBraces (readValue depth) cs).map fun (ms, rest) => (.table .braces ms, rest)
  | _, cs => readScalar cs

/-! ## Lines -/

/-- Reads the rest of a line, which holds nothing but blanks and a comment. -/
def readLineEnd (cs : List Char) : Option (List Char) :=
  match dropComment (dropSpace cs) with
  | [] => some []
  | cs => readBreak cs

/-- The document read so far. -/
structure State where
  /-- The members of the document. -/
  root : Members
  /-- The header under which the next lines stand. -/
  header : List String

/-- Reads a header behind its brackets. -/
def readHeader (closing : List Char) : Reader Key := fun cs => do
  let (key, cs) ← readKey cs
  if closing.isPrefixOf cs then some (key, cs.drop closing.length) else none

/-- Reads a line that is not empty. -/
def readLine (s : State) : Reader State := fun cs =>
  match cs with
  | '[' :: '[' :: cs => do
    let (key, cs) ← readHeader [']', ']'] cs
    some (⟨← openElement? key.path key.name s.root, key.path ++ [key.name]⟩, cs)
  | '[' :: cs => do
    let (key, cs) ← readHeader [']'] cs
    some (⟨← openTable? key.path key.name s.root, key.path ++ [key.name]⟩, cs)
  | cs => do
    let ((key, node), cs) ← readAssignment (readValue maxDepth) cs
    some (⟨← assignUnder? s.header key.path key.name node s.root, s.header⟩, cs)

/-- Reads lines to the end. -/
def readLines? : (most : Nat) → State → List Char → Option Members
  | 0, _, _ => none
  | most + 1, s, cs =>
    match dropComment (dropSpace cs) with
    | [] => some s.root
    | cs =>
      match readBreak cs with
      | some rest => readLines? most s rest
      | none => do
        let (s, cs) ← readLine s cs
        readLines? most s (← readLineEnd cs)

/-- The members of a document. A mark of the byte order may stand before it. -/
def parse? (s : String) : Option Members :=
  let cs := match s.toList with
    | '\uFEFF' :: cs => cs
    | cs => cs
  readLines? (cs.length + 1) ⟨[], []⟩ cs

end Footfall.Toml
