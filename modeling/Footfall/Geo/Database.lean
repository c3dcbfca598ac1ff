import Footfall.Geo.Address
import Footfall.Geo.Datum

/-!
# Databases of networks

A file with a binary tree over the bits of addresses, the data of each network, and at its end a
description of itself.

## Main Definitions

* `Database` — the file with what has to be known of it
* `Database.open?` — the database in a file
* `Database.walk?` — the node or the mark at which an address leaves the tree
* `Database.find?` — the datum of an address

## Design Notes

A record of a node below the number of nodes is another node, and that number itself says that
nothing is known. All greater ones lie in the data, with the sixteen empty bytes before them
counted. An address of version 4 stands in a tree for version 6 below 96 zero bits.
-/

namespace Footfall.Geo

/-- How many bits a record of a node has. -/
inductive RecordSize where
  | bits24 | bits28 | bits32
  deriving DecidableEq, Repr

namespace RecordSize

/-- The size of so many bits. -/
def ofBits? : Nat → Option RecordSize
  | 24 => some bits24
  | 28 => some bits28
  | 32 => some bits32
  | _ => none

/-- The number of bytes of a node, which has two records. -/
def nodeBytes : RecordSize → Nat
  | bits24 => 6
  | bits28 => 7
  | bits32 => 8

end RecordSize

/-- A file with what has to be known of it. -/
structure Database where
  /-- The file. -/
  bytes : ByteArray
  /-- The version of the addresses in the tree. -/
  version : Nat
  /-- The number of nodes of the tree. -/
  nodeCount : Nat
  /-- The size of their records. -/
  recordSize : RecordSize

namespace Database

/-! ## Opening -/

/-- What stands before the description: three bytes and a name. -/
def marker : List UInt8 :=
  [0xab, 0xcd, 0xef] ++ "MaxMind.com".toUTF8.toList

/-- Whether bytes occur at a position. -/
def occursAt (bytes : ByteArray) : List UInt8 → (position : Nat) → Bool
  | [], _ => true
  | b :: pattern, position =>
    bytes[position]? == some b && occursAt bytes pattern (position + 1)

/-- The last position below `bound` at which bytes occur. -/
def lastBelow? (bytes : ByteArray) (pattern : List UInt8) : (bound : Nat) → Option Nat
  | 0 => none
  | position + 1 =>
    if occursAt bytes pattern position then some position else lastBelow? bytes pattern position

/-- The description of a file. -/
def description : Shape :=
  .record [
    ("binary_format_major_version", .whole 65536),
    ("binary_format_minor_version", .whole 65536),
    ("build_epoch", .whole 18446744073709551616),
    ("database_type", .text),
    ("description", .table),
    ("ip_version", .whole 65536),
    ("languages", .list .text),
    ("node_count", .whole 4294967296),
    ("record_size", .whole 65536)]

/-- The names of the fields of a description, none of which may be missing. -/
def descriptionFields : List String :=
  ["binary_format_major_version", "binary_format_minor_version", "build_epoch", "database_type",
   "description", "ip_version", "languages", "node_count", "record_size"]

/-- The number of bytes of the tree. -/
def treeBytes (db : Database) : Nat :=
  db.nodeCount * db.recordSize.nodeBytes

/-- The number of empty bytes behind the tree. -/
def separatorBytes : Nat := 16

/-- The section of the data. -/
def data (db : Database) : Section :=
  ⟨db.bytes, db.treeBytes + separatorBytes⟩

/-- The database in a file, which has to hold all of the tree. -/
def open? (bytes : ByteArray) : Option Database := do
  let position ← lastBelow? bytes marker bytes.size
  let d ← Section.read? ⟨bytes, position + marker.length⟩ description 0
  if d.hasFields descriptionFields then
    let version ← (← d.field? "ip_version").whole?
    let nodeCount ← (← d.field? "node_count").whole?
    let recordSize ← RecordSize.ofBits? (← (← d.field? "record_size").whole?)
    let db : Database := ⟨bytes, version, nodeCount, recordSize⟩
    if db.treeBytes + separatorBytes ≤ bytes.size then some db else none
  else none

/-! ## The tree -/

/-- The record of a node on the side of a bit. Of a record of 28 bits the middle byte of the node
holds the four most significant ones. -/
def record? (db : Database) (node : Nat) (bit : Bool) : Option Nat :=
  let tree : Section := ⟨db.bytes, 0⟩
  let first := node * db.recordSize.nodeBytes
  let side := if bit then 1 else 0
  match db.recordSize with
  | .bits24 => tree.natural? (first + 3 * side) 3
  | .bits32 => tree.natural? (first + 4 * side) 4
  | .bits28 => do
    let middle ← tree.byte? (first + 3)
    let high := if bit then middle % 16 else middle / 16
    some (high * 16777216 + (← tree.natural? (first + 4 * side) 3))

/-- Follows bits from a node until they end or leave the tree. -/
def walk? (db : Database) : List Bool → (node : Nat) → Option Nat
  | [], node => some node
  | bit :: bits, node =>
    if node < db.nodeCount then do db.walk? bits (← db.record? node bit) else some node

/-- The bits of an address in the tree, if it can stand there. -/
def path? (db : Database) : Address → Option (List Bool)
  | .v4 value =>
    let bits := (Address.v4 value).bits
    some (if db.version = 6 then List.replicate 96 false ++ bits else bits)
  | .v6 value => if db.version = 4 then none else some (Address.v6 value).bits

/-- The datum of an address, if there is one of the shape. -/
def find? (db : Database) (shape : Shape) (address : Address) : Option Datum := do
  let mark ← db.walk? (← db.path? address) 0
  if mark < db.nodeCount + separatorBytes then none
  else db.data.read? shape (mark - db.nodeCount - separatorBytes)

end Database

end Footfall.Geo
