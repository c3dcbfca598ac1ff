import Footfall.Text.Blank
import Footfall.Text.Cut

/-!
# Languages

The language that a client prefers.

## Main Definitions

* `primaryLanguage` — the first tag of an `Accept-Language` header
-/

namespace Footfall

/-- A language tag has at most this many characters. -/
def maxTagLength : Nat := 35

/-- Characters of a language tag. -/
def isTagChar (c : Char) : Bool :=
  c.isAlphanum || c == '-'

/-- The first tag of an `Accept-Language` header in lower case, without its weight. A wildcard and
a tag that is malformed or too long tell nothing. -/
def primaryLanguage (header : String) : Option String :=
  let tag := trimBlanks (before (· == ';') (before (· == ',') header.toList))
  if tag.isEmpty || maxTagLength < tag.length || !tag.all isTagChar then none
  else some (String.ofList (tag.map Char.toLower))

end Footfall
