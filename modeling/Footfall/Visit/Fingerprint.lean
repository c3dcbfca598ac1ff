/-!
# Fingerprints

Visitors are told apart by a 32-bit hash of their address and user agent, neither of which is
kept.

## Main Definitions

* `XxHash32.hash` — the hash xxHash32 of a run of bytes
* `fingerprint` — the hash of address and user agent, parted by a bar
-/

namespace Footfall

namespace XxHash32

/-- First prime of the hash. -/
def prime1 : UInt32 := 2654435761
/-- Second prime of the hash. -/
def prime2 : UInt32 := 2246822519
/-- Third prime of the hash. -/
def prime3 : UInt32 := 3266489917
/-- Fourth prime of the hash. -/
def prime4 : UInt32 := 668265263
/-- Fifth prime of the hash. -/
def prime5 : UInt32 := 374761393

/-- Turns a word left by `n` bits, for `n` from 1 to 31. -/
def turn (w n : UInt32) : UInt32 :=
  (w <<< n) ||| (w >>> (32 - n))

/-- Little-endian words off the front of a run of bytes, and the three bytes or fewer after
them. -/
def words : List UInt8 → List UInt32 × List UInt8
  | a :: b :: c :: d :: rest =>
    let word := a.toUInt32 ||| (b.toUInt32 <<< 8) ||| (c.toUInt32 <<< 16) ||| (d.toUInt32 <<< 24)
    let (ws, tail) := words rest
    (word :: ws, tail)
  | tail => ([], tail)

/-- The four running sums of a long input. -/
structure Lanes where
  first : UInt32
  second : UInt32
  third : UInt32
  fourth : UInt32

/-- Takes a word into a running sum. -/
def absorb (lane word : UInt32) : UInt32 :=
  turn (lane + word * prime2) 13 * prime1

/-- Takes words in fours and returns those that are left. -/
def Lanes.run (v : Lanes) : List UInt32 → Lanes × List UInt32
  | a :: b :: c :: d :: rest =>
    Lanes.run ⟨absorb v.first a, absorb v.second b, absorb v.third c, absorb v.fourth d⟩ rest
  | rest => (v, rest)

/-- Joins the running sums. -/
def Lanes.join (v : Lanes) : UInt32 :=
  turn v.first 1 + turn v.second 7 + turn v.third 12 + turn v.fourth 18

/-- Spreads every bit of a word over all others. -/
def avalanche (h : UInt32) : UInt32 :=
  let h := (h ^^^ (h >>> 15)) * prime2
  let h := (h ^^^ (h >>> 13)) * prime3
  h ^^^ (h >>> 16)

/-- The hash of a run of bytes. -/
def hash (seed : UInt32) (bytes : List UInt8) : UInt32 :=
  let (ws, tail) := words bytes
  let (start, ws) :=
    if 16 ≤ bytes.length then
      let (v, ws) :=
        Lanes.run ⟨seed + prime1 + prime2, seed + prime2, seed, seed - prime1⟩ ws
      (v.join, ws)
    else (seed + prime5, ws)
  let h := start + bytes.length.toUInt32
  let h := ws.foldl (fun h w => turn (h + w * prime3) 17 * prime4) h
  let h := tail.foldl (fun h b => turn (h + b.toUInt32 * prime5) 11 * prime1) h
  avalanche h

end XxHash32

/-- The fingerprint of a visitor. -/
def fingerprint (address userAgent : String) : UInt32 :=
  XxHash32.hash 0 (address ++ "|" ++ userAgent).toUTF8.toList

end Footfall
