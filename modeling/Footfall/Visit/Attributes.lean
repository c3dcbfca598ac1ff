import Footfall.Dimension
import Footfall.Visit.Client
import Footfall.Visit.Language

/-!
# Attributes

What is known of a client beside its address: place, software and language.

## Main Definitions

* `Attributes` — seven texts, each of which may be unknown
* `Place` — country, region and city of an address
* `Attributes.ofClient` — the attributes of a place and a user agent
* `Enricher` — how an address and a user agent become attributes
-/

namespace Footfall

/-- What is known of a client. An empty text means the same as none. -/
structure Attributes where
  country : Option String := none
  region : Option String := none
  city : Option String := none
  browser : Option String := none
  operatingSystem : Option String := none
  deviceType : Option String := none
  language : Option String := none
  deriving DecidableEq, Repr

/-- Where an address is used. -/
structure Place where
  country : Option String := none
  region : Option String := none
  city : Option String := none
  deriving DecidableEq, Repr

namespace Attributes

/-- The attribute of a dimension; referrer and path are none of the client's. -/
def get (a : Attributes) : Dimension → Option String
  | .country => a.country
  | .region => a.region
  | .city => a.city
  | .browser => a.browser
  | .operatingSystem => a.operatingSystem
  | .deviceType => a.deviceType
  | .language => a.language
  | .referrer => none
  | .path => none

/-- The attributes of a place and a user agent. -/
def ofClient (place : Place) (client : Client) : Attributes where
  country := place.country
  region := place.region
  city := place.city
  browser := client.browser
  operatingSystem := client.operatingSystem
  deviceType := client.deviceType

/-- Replaces the language by that of an `Accept-Language` header. -/
def withLanguage (a : Attributes) (header : Option String) : Attributes :=
  { a with language := header.bind primaryLanguage }

end Attributes

/-- How the address and the user agent of a client become attributes. -/
abbrev Enricher := (address userAgent : String) → Attributes

/-- Tells the place by a given search and the software by the user agent. -/
def Enricher.ofPlaces (place : String → Place) : Enricher :=
  fun address userAgent => .ofClient (place address) (.ofUserAgent userAgent)

end Footfall
