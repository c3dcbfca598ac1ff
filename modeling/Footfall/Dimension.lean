/-!
# Dimensions

The nine categories of reference data that a pageview carries, and values given for each of them.

## Main Definitions

* `Dimension` — the nine categories, in the order of `Dimension.all`
* `Dimension.parent?` — the dimension whose row scopes the rows of another
* `PerDimension` — one value for each dimension

## Design Notes

Regions are keyed within a country and cities within a region. Every other dimension is flat: its
rows are keyed by their value alone.
-/

namespace Footfall

/-- A category of reference data. -/
inductive Dimension where
  | country
  | region
  | city
  | browser
  | operatingSystem
  | deviceType
  | language
  | referrer
  | path
  deriving DecidableEq, Repr

namespace Dimension

/-- All dimensions, in the order of the columns of a fact. -/
def all : List Dimension :=
  [country, region, city, browser, operatingSystem, deviceType, language, referrer, path]

/-- The short name of a dimension. -/
def name : Dimension → String
  | country => "country"
  | region => "region"
  | city => "city"
  | browser => "browser"
  | operatingSystem => "os"
  | deviceType => "device_type"
  | language => "language"
  | referrer => "referrer"
  | path => "path"

/-- The dimension of a short name. -/
def ofName? (s : String) : Option Dimension :=
  all.find? (·.name == s)

/-- The table that holds the rows of a dimension. -/
def table : Dimension → String
  | country => "countries"
  | region => "regions"
  | city => "cities"
  | browser => "browsers"
  | operatingSystem => "operating_systems"
  | deviceType => "device_types"
  | language => "languages"
  | referrer => "referrers"
  | path => "paths"

/-- The column that holds the value of a row. -/
def valueColumn : Dimension → String
  | language => "code"
  | referrer => "host"
  | path => "path"
  | _ => "name"

/-- The dimension whose row scopes the rows of this one. -/
def parent? : Dimension → Option Dimension
  | region => some country
  | city => some region
  | _ => none

/-- The column of facts and rollups that refers to a row of the dimension. -/
def factColumn (d : Dimension) : String :=
  d.name ++ "_id"

/-- The column that scopes a row, which refers to a row of the parent. -/
def parentColumn? (d : Dimension) : Option String :=
  d.parent?.map factColumn

theorem mem_all (d : Dimension) : d ∈ all := by
  cases d <;> decide

end Dimension

/-- One value for each dimension. -/
structure PerDimension (α : Type) where
  country : α
  region : α
  city : α
  browser : α
  operatingSystem : α
  deviceType : α
  language : α
  referrer : α
  path : α
  deriving DecidableEq, Repr

namespace PerDimension

variable {α β : Type}

/-- The value for a dimension. -/
def get (v : PerDimension α) : Dimension → α
  | .country => v.country
  | .region => v.region
  | .city => v.city
  | .browser => v.browser
  | .operatingSystem => v.operatingSystem
  | .deviceType => v.deviceType
  | .language => v.language
  | .referrer => v.referrer
  | .path => v.path

/-- Replaces the value for a dimension. -/
def set (v : PerDimension α) (d : Dimension) (a : α) : PerDimension α :=
  match d with
  | .country => { v with country := a }
  | .region => { v with region := a }
  | .city => { v with city := a }
  | .browser => { v with browser := a }
  | .operatingSystem => { v with operatingSystem := a }
  | .deviceType => { v with deviceType := a }
  | .language => { v with language := a }
  | .referrer => { v with referrer := a }
  | .path => { v with path := a }

/-- The values that a function gives. -/
def ofFn (f : Dimension → α) : PerDimension α :=
  ⟨f .country, f .region, f .city, f .browser, f .operatingSystem, f .deviceType, f .language,
    f .referrer, f .path⟩

/-- One value for every dimension. -/
def replicate (a : α) : PerDimension α :=
  ofFn fun _ => a

/-- Applies a function to every value. -/
def map (f : α → β) (v : PerDimension α) : PerDimension β :=
  ofFn fun d => f (v.get d)

/-- The values in the order of `Dimension.all`. -/
def toList (v : PerDimension α) : List α :=
  Dimension.all.map v.get

@[ext] theorem ext {v w : PerDimension α} (h : ∀ d, v.get d = w.get d) : v = w := by
  cases v; cases w
  simp only [mk.injEq]
  exact ⟨h .country, h .region, h .city, h .browser, h .operatingSystem, h .deviceType,
    h .language, h .referrer, h .path⟩

@[simp] theorem get_ofFn (f : Dimension → α) (d : Dimension) : (ofFn f).get d = f d := by
  cases d <;> rfl

@[simp] theorem get_replicate (a : α) (d : Dimension) : (replicate a).get d = a := by
  simp [replicate]

@[simp] theorem get_map (f : α → β) (v : PerDimension α) (d : Dimension) :
    (v.map f).get d = f (v.get d) := by
  simp [map]

theorem get_set (v : PerDimension α) (d e : Dimension) (a : α) :
    (v.set d a).get e = if d = e then a else v.get e := by
  cases d <;> cases e <;> rfl

theorem toList_injective {v w : PerDimension α} (h : v.toList = w.toList) : v = w := by
  ext d
  exact List.map_inj_left.1 h d (Dimension.mem_all d)

end PerDimension

end Footfall
