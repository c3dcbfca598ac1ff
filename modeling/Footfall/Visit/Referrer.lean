import Footfall.Text.Blank
import Footfall.Text.Cut

/-!
# Referrers

The host that a visit came from.

## Main Definitions

* `referrerHost` — the host of a referrer, without port or credentials
-/

namespace Footfall

/-- Characters that end the authority of a URL. -/
def endsAuthority (c : Char) : Bool :=
  c == '/' || c == '?' || c == '#'

/-- The host of an authority: credentials end with its last `@`, the host with the next colon. -/
def hostOfAuthority (authority : List Char) : List Char :=
  before (· == ':') (afterLast '@' authority)

/-- The host of a referrer in lower case. A scheme, if there is one, ends with the first `://`. -/
def referrerHost (referrer : String) : Option String :=
  let cs := trimBlanks referrer.toList
  let rest := (afterFirst? "://".toList cs).getD cs
  let host := hostOfAuthority (before endsAuthority rest)
  if host.isEmpty then none else some (String.ofList (host.map Char.toLower))

end Footfall
