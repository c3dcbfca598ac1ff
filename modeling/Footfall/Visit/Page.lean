import Footfall.Text.Blank
import Footfall.Text.Cut

/-!
# Pages

The path of a page, first as the tracking script sends it and then as it is kept.

## Main Definitions

* `withoutControls` — a text without control characters, cut to a length
* `pathOfUrl` — the path of a URL
* `withoutQuery` — a path without its query and fragment
-/

namespace Footfall

/-- A page address or referrer has at most this many characters. -/
def maxAddressLength : Nat := 2048

/-- Drops control characters, then all but the first `most` characters. -/
def withoutControls (most : Nat) (cs : List Char) : List Char :=
  (cs.filter fun c => !isControl c).take most

/-- Drops query and fragment. -/
def dropQuery (cs : List Char) : List Char :=
  before (· == '#') (before (· == '?') cs)

/-- What follows the scheme of a web address. -/
def afterScheme? (cs : List Char) : Option (List Char) :=
  if "https://".toList.isPrefixOf cs then some (cs.drop 8)
  else if "http://".toList.isPrefixOf cs then some (cs.drop 7)
  else none

/-- The path of a URL. An address without a scheme counts as a path, and an empty path as the
root. -/
def pathOfUrl (url : String) : String :=
  let cs := url.toList
  let path := match afterScheme? cs with
    | none => cs
    | some rest =>
      let path := rest.dropWhile (· != '/')
      if path.isEmpty then ['/'] else path
  let path := dropQuery path
  let path := if path.isEmpty then ['/'] else path
  String.ofList (withoutControls maxAddressLength path)

/-- A path without blanks around it, query and fragment. -/
def withoutQuery (path : String) : String :=
  String.ofList (dropQuery (trimBlanks path.toList))

end Footfall
