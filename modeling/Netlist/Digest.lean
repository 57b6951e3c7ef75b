import Netlist.Json

/-!
# Digests

A digest is a 128-bit fingerprint of some text, kept as two words. Its bytes are those of the low
word and then those of the high word, least significant first, and its text is their hexadecimal
digits.
-/

namespace Netlist

/-- A 128-bit fingerprint. -/
structure Digest where
  low : UInt64
  high : UInt64
deriving DecidableEq, Repr

namespace Digest

/-- The bytes of a word, least significant first. -/
def wordBytes (w : UInt64) : List UInt8 :=
  (List.range 8).map fun i => (w >>> (8 * i.toUInt64)).toUInt8

/-- The word with the given bytes, least significant first. -/
def wordOfBytes (bytes : List UInt8) : UInt64 :=
  -- from the last byte, which is the most significant
  bytes.foldr (fun b w => w <<< 8 ||| b.toUInt64) 0

/-- The sixteen bytes of a digest. -/
def bytes (d : Digest) : List UInt8 :=
  wordBytes d.low ++ wordBytes d.high

/-- The digest with the given bytes, if there are sixteen of them. -/
def ofBytes? (bs : List UInt8) : Option Digest :=
  if bs.length = 16 then some ⟨wordOfBytes (bs.take 8), wordOfBytes (bs.drop 8)⟩ else none

/-- Two hexadecimal digits for a byte. -/
def byteText (b : UInt8) : String :=
  String.ofList [Json.hexDigit (b.toNat / 16), Json.hexDigit (b.toNat % 16)]

/-- The hexadecimal digits of a digest. -/
def text (d : Digest) : String :=
  String.join (d.bytes.map byteText)

/-- The first eight digits, for log lines. -/
def short (d : Digest) : String :=
  -- of the low word, least significant byte first
  String.join ((d.bytes.take 4).map byteText)

/-- The stored form: the bytes as numbers. -/
def toJson (d : Digest) : Json :=
  .array (d.bytes.map fun b => .nat b.toNat)

/-- Reads a stored byte. -/
def byteOfJson? (x : Json) : Option UInt8 :=
  (x.asNatBelow? UInt8.size).map UInt8.ofNat

/-- Reads the stored form. -/
def ofJson? (x : Json) : Option Digest := do
  ofBytes? (← x.asListOf? byteOfJson?)

end Digest

end Netlist
