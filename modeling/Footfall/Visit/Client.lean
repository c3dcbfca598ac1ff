import Footfall.Text.Cut

/-!
# Clients

Browser, operating system and device class, told from the marks that a user agent text contains.

## Main Definitions

* `Client` — what a user agent text tells
* `Client.ofUserAgent` — reads it

## Design Notes

Browsers name their ancestors, so the more specific mark is looked for first. A class is the first
rule whose marks match.
-/

namespace Footfall

/-- What a user agent text tells. -/
structure Client where
  /-- Name of the browser. -/
  browser : Option String
  /-- Name of the operating system. -/
  operatingSystem : Option String
  /-- `desktop`, `mobile` or `tablet`. -/
  deviceType : Option String
  deriving DecidableEq, Repr

namespace Client

/-- A rule: it matches a text that contains one of the marks and none of the exclusions. -/
structure Rule where
  /-- What the rule tells. -/
  name : String
  /-- Marks, one of which must occur. -/
  marks : List String
  /-- Marks that must not occur. -/
  exclusions : List String := []

/-- Whether a rule matches. -/
def Rule.matches (r : Rule) (ua : String) : Bool :=
  r.marks.any (contains ua) && !r.exclusions.any (contains ua)

/-- What the first matching rule tells. -/
def classify (rules : List Rule) (ua : String) : Option String :=
  (rules.find? (·.matches ua)).map (·.name)

/-- Rules for browsers. -/
def browsers : List Rule := [
  ⟨"Edge", ["Edg/", "Edge/"], []⟩,
  ⟨"Opera", ["OPR/", "Opera"], []⟩,
  ⟨"Samsung Internet", ["SamsungBrowser/"], []⟩,
  ⟨"Chrome", ["Chrome/"], ["Chromium/"]⟩,
  ⟨"Safari", ["Safari/"], ["Chrome/"]⟩,
  ⟨"Firefox", ["Firefox/"], []⟩]

/-- Rules for operating systems. Phones name the desktop system too, so theirs comes first. -/
def operatingSystems : List Rule := [
  ⟨"Windows", ["Windows"], []⟩,
  ⟨"iOS", ["iPhone", "iPad", "iOS"], []⟩,
  ⟨"macOS", ["Mac OS X", "macOS"], []⟩,
  ⟨"Android", ["Android"], []⟩,
  ⟨"Chrome OS", ["CrOS"], []⟩,
  ⟨"Linux", ["Linux"], []⟩]

/-- Rules for devices that are held in a hand. An Android tablet lacks the mark of phones. -/
def handhelds : List Rule := [
  ⟨"tablet", ["iPad", "Tablet"], []⟩,
  ⟨"tablet", ["Android"], ["Mobile"]⟩,
  ⟨"mobile", ["Mobi", "iPhone"], []⟩]

/-- What a user agent text tells. A known system that is not held in a hand is a desktop. -/
def ofUserAgent (ua : String) : Client :=
  let system := classify operatingSystems ua
  { browser := classify browsers ua
    operatingSystem := system
    deviceType := (classify handhelds ua).or (system.map fun _ => "desktop") }

end Client

end Footfall
