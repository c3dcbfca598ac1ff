import Footfall.Geo.Database
import Footfall.Visit.Attributes

/-!
# Places of addresses

The place that a database of cities has for an address.

## Main Definitions

* `Geo.city` — what is expected in a database of cities
* `Geo.placeOf` — country, region and city in what is found
* `Geo.Database.place` — the place of the text of an address

## Design Notes

A place is named in English. A country without such a name goes by its code. Of several regions
the first counts, which is the largest. Where anything is wrong, the place is unknown.
-/

namespace Footfall.Geo

/-- The names of a place by language. -/
def names : Shape :=
  .record (["de", "en", "es", "fr", "ja", "pt-BR", "ru", "zh-CN"].map fun language =>
    (language, .text))

/-- The number of a place in a list of places. -/
def placeNumber : Shape :=
  .whole 4294967296

/-- The fields of a country. -/
def countryFields : List (String × Shape) :=
  [("geoname_id", placeNumber), ("is_in_european_union", .flag), ("iso_code", .text),
   ("names", names)]

/-- What a database of cities holds for a network. -/
def city : Shape :=
  .record [
    ("city", .record [("geoname_id", placeNumber), ("names", names)]),
    ("continent", .record [("code", .text), ("geoname_id", placeNumber), ("names", names)]),
    ("country", .record countryFields),
    ("location", .record [
      ("accuracy_radius", .whole 65536), ("latitude", .real), ("longitude", .real),
      ("metro_code", .whole 65536), ("time_zone", .text)]),
    ("postal", .record [("code", .text)]),
    ("registered_country", .record countryFields),
    ("represented_country", .record (countryFields ++ [("type", .text)])),
    ("subdivisions", .list (.record [
      ("geoname_id", placeNumber), ("iso_code", .text), ("names", names)])),
    ("traits", .record [("is_anycast", .flag)])]

/-- The English name of a place. -/
def englishName? (place : Datum) : Option String := do
  (← (← place.field? "names").field? "en").text?

/-- The code of a country. -/
def code? (place : Datum) : Option String := do
  (← place.field? "iso_code").text?

/-- Country, region and city in what a database holds for a network. -/
def placeOf (d : Datum) : Place where
  country := (d.field? "country").bind fun c => (englishName? c).or (code? c)
  region := ((d.field? "subdivisions").bind Datum.head?).bind englishName?
  city := (d.field? "city").bind englishName?

/-- The place of the text of an address. -/
def Database.place (db : Database) (address : String) : Place :=
  (((Address.parse? address).bind (db.find? city)).map placeOf).getD {}

/-- Places out of a database that may be missing. -/
def placeIn (db : Option Database) (address : String) : Place :=
  (db.map (·.place address)).getD {}

end Footfall.Geo
