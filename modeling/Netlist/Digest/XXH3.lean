import Netlist.Digest

/-!
# XXH3

The 128-bit XXH3 hash without a seed, over its standard secret. Short inputs are mixed in one step
whose shape depends on the length; longer ones are mixed in pieces of 32 bytes; beyond 240 bytes
eight accumulators take in stripes of 64 bytes and are scrambled after every sixteen of them. All
arithmetic is on words of 64 bits and wraps.
-/

namespace Netlist.XXH3

/-- The secret bytes that inputs are mixed with. -/
def secret : ByteArray := ⟨#[
  0xb8, 0xfe, 0x6c, 0x39, 0x23, 0xa4, 0x4b, 0xbe, 0x7c, 0x01, 0x81, 0x2c,
  0xf7, 0x21, 0xad, 0x1c, 0xde, 0xd4, 0x6d, 0xe9, 0x83, 0x90, 0x97, 0xdb,
  0x72, 0x40, 0xa4, 0xa4, 0xb7, 0xb3, 0x67, 0x1f, 0xcb, 0x79, 0xe6, 0x4e,
  0xcc, 0xc0, 0xe5, 0x78, 0x82, 0x5a, 0xd0, 0x7d, 0xcc, 0xff, 0x72, 0x21,
  0xb8, 0x08, 0x46, 0x74, 0xf7, 0x43, 0x24, 0x8e, 0xe0, 0x35, 0x90, 0xe6,
  0x81, 0x3a, 0x26, 0x4c, 0x3c, 0x28, 0x52, 0xbb, 0x91, 0xc3, 0x00, 0xcb,
  0x88, 0xd0, 0x65, 0x8b, 0x1b, 0x53, 0x2e, 0xa3, 0x71, 0x64, 0x48, 0x97,
  0xa2, 0x0d, 0xf9, 0x4e, 0x38, 0x19, 0xef, 0x46, 0xa9, 0xde, 0xac, 0xd8,
  0xa8, 0xfa, 0x76, 0x3f, 0xe3, 0x9c, 0x34, 0x3f, 0xf9, 0xdc, 0xbb, 0xc7,
  0xc7, 0x0b, 0x4f, 0x1d, 0x8a, 0x51, 0xe0, 0x4b, 0xcd, 0xb4, 0x59, 0x31,
  0xc8, 0x9f, 0x7e, 0xc9, 0xd9, 0x78, 0x73, 0x64, 0xea, 0xc5, 0xac, 0x83,
  0x34, 0xd3, 0xeb, 0xc3, 0xc5, 0x81, 0xa0, 0xff, 0xfa, 0x13, 0x63, 0xeb,
  0x17, 0x0d, 0xdd, 0x51, 0xb7, 0xf0, 0xda, 0x49, 0xd3, 0x16, 0x55, 0x26,
  0x29, 0xd4, 0x68, 0x9e, 0x2b, 0x16, 0xbe, 0x58, 0x7d, 0x47, 0xa1, 0xfc,
  0x8f, 0xf8, 0xb8, 0xd1, 0x7a, 0xd0, 0x31, 0xce, 0x45, 0xcb, 0x3a, 0x8f,
  0x95, 0x16, 0x04, 0x28, 0xaf, 0xd7, 0xfb, 0xca, 0xbb, 0x4b, 0x40, 0x7e
]⟩

/-! ### Constants -/

/-- A 32-bit prime. -/
def prime32a : UInt64 := 0x9E3779B1

/-- A 32-bit prime. -/
def prime32b : UInt64 := 0x85EBCA77

/-- A 32-bit prime. -/
def prime32c : UInt64 := 0xC2B2AE3D

/-- A 64-bit prime. -/
def prime64a : UInt64 := 0x9E3779B185EBCA87

/-- A 64-bit prime. -/
def prime64b : UInt64 := 0xC2B2AE3D27D4EB4F

/-- A 64-bit prime. -/
def prime64c : UInt64 := 0x165667B19E3779F9

/-- A 64-bit prime. -/
def prime64d : UInt64 := 0x85EBCA77C2B2AE63

/-- A 64-bit prime. -/
def prime64e : UInt64 := 0x27D4EB2F165667C5

/-- A multiplier for final mixing. -/
def mixerA : UInt64 := 0x165667919E3779F9

/-- A multiplier for final mixing. -/
def mixerB : UInt64 := 0x9FB21C651E98DF25

/-! ### Reading words -/

/-- The byte at a position, zero past the end. -/
def byteAt (b : ByteArray) (i : Nat) : UInt64 :=
  (b.data.getD i 0).toUInt64

/-- The 32-bit word at a position, least significant byte first. -/
def word32 (b : ByteArray) (i : Nat) : UInt64 :=
  byteAt b i ||| byteAt b (i + 1) <<< 8 ||| byteAt b (i + 2) <<< 16 ||| byteAt b (i + 3) <<< 24

/-- The 64-bit word at a position, least significant byte first. -/
def word64 (b : ByteArray) (i : Nat) : UInt64 :=
  word32 b i ||| word32 b (i + 4) <<< 32

/-! ### Mixing words -/

/-- The low half of a word. -/
def lowHalf (x : UInt64) : UInt64 :=
  x &&& 0xFFFFFFFF

/-- A word xored with itself, shifted right. -/
def xorShift (x n : UInt64) : UInt64 :=
  x ^^^ x >>> n

/-- The four low bytes in reverse order. -/
def swap32 (x : UInt64) : UInt64 :=
  (x &&& 0xFF) <<< 24 ||| (x >>> 8 &&& 0xFF) <<< 16 ||| (x >>> 16 &&& 0xFF) <<< 8 |||
    (x >>> 24 &&& 0xFF)

/-- The eight bytes in reverse order. -/
def swap64 (x : UInt64) : UInt64 :=
  swap32 x <<< 32 ||| swap32 (x >>> 32)

/-- A 32-bit word rotated to the left. -/
def rotateLeft32 (x n : UInt64) : UInt64 :=
  lowHalf (x <<< n) ||| x >>> (32 - n)

/-- The full product of two words: its low and its high half. -/
def product (x y : UInt64) : UInt64 × UInt64 :=
  let p := x.toNat * y.toNat
  (p.toUInt64, (p >>> 64).toUInt64)

/-- The full product of two words, its halves xored. -/
def foldedProduct (x y : UInt64) : UInt64 :=
  (product x y).1 ^^^ (product x y).2

/-- Final mixing for inputs of at most three bytes. -/
def avalancheShort (x : UInt64) : UInt64 :=
  xorShift (xorShift (xorShift x 33 * prime64b) 29 * prime64c) 32

/-- Final mixing. -/
def avalanche (x : UInt64) : UInt64 :=
  xorShift (xorShift x 37 * mixerA) 32

/-- Sixteen bytes at a position, mixed with the secret at a position. -/
def mix16 (b : ByteArray) (i s : Nat) : UInt64 :=
  foldedProduct (word64 b i ^^^ word64 secret s) (word64 b (i + 8) ^^^ word64 secret (s + 8))

/-- Takes two pieces of sixteen bytes, at `i` and `j`, into a pair of words. -/
def mix32 (b : ByteArray) (acc : UInt64 × UInt64) (i j s : Nat) : UInt64 × UInt64 :=
  ((acc.1 + mix16 b i s) ^^^ (word64 b j + word64 b (j + 8)),
   (acc.2 + mix16 b j (s + 16)) ^^^ (word64 b i + word64 b (i + 8)))

/-! ### Short and mid-sized inputs -/

/-- The hash of no bytes. -/
def hashEmpty : Digest where
  low := avalancheShort (word64 secret 64 ^^^ word64 secret 72)
  high := avalancheShort (word64 secret 80 ^^^ word64 secret 88)

/-- The hash of one to three bytes. -/
def hash1to3 (b : ByteArray) : Digest :=
  let n := b.size
  let low := byteAt b 0 <<< 16 ||| byteAt b (n / 2) <<< 24 ||| byteAt b (n - 1) |||
    n.toUInt64 <<< 8
  let high := rotateLeft32 (swap32 low) 13
  { low := avalancheShort (low ^^^ word32 secret 0 ^^^ word32 secret 4)
    high := avalancheShort (high ^^^ word32 secret 8 ^^^ word32 secret 12) }

/-- The hash of four to eight bytes. -/
def hash4to8 (b : ByteArray) : Digest :=
  let n := b.size
  let input := word32 b 0 ||| word32 b (n - 4) <<< 32
  let keyed := input ^^^ word64 secret 16 ^^^ word64 secret 24
  let (low, high) := product keyed (prime64a + n.toUInt64 <<< 2)
  let high := high + low <<< 1
  let low := low ^^^ high >>> 3
  { low := xorShift (xorShift low 35 * mixerB) 28
    high := avalanche high }

/-- The hash of nine to sixteen bytes. -/
def hash9to16 (b : ByteArray) : Digest :=
  let n := b.size
  let first := word64 b 0
  let last := word64 b (n - 8)
  let (low, high) :=
    product (first ^^^ last ^^^ word64 secret 32 ^^^ word64 secret 40) prime64a
  let low := low + (n - 1).toUInt64 <<< 54
  let flipped := last ^^^ word64 secret 48 ^^^ word64 secret 56
  let high := high + flipped + lowHalf flipped * (prime32b - 1)
  let low := low ^^^ swap64 high
  let (outLow, outHigh) := product low prime64b
  { low := avalanche outLow
    high := avalanche (outHigh + high * prime64b) }

/-- Turns the pair of words of a mid-sized input into its hash. -/
def finish (n : Nat) (acc : UInt64 × UInt64) : Digest where
  low := avalanche (acc.1 + acc.2)
  high := 0 - avalanche (acc.1 * prime64a + acc.2 * prime64d + n.toUInt64 * prime64b)

/-- The hash of 17 to 128 bytes: pairs of pieces from both ends, the innermost pair first. -/
def hash17to128 (b : ByteArray) : Digest :=
  let n := b.size
  let pairs := (List.range ((n - 1) / 32 + 1)).reverse
  finish n (pairs.foldl (fun acc i => mix32 b acc (16 * i) (n - 16 * (i + 1)) (32 * i))
    (n.toUInt64 * prime64a, 0))

/-- The hash of 129 to 240 bytes: 128 bytes, an intermediate mixing, the other whole pieces of 32
bytes, and the last 32 bytes. -/
def hash129to240 (b : ByteArray) : Digest :=
  let n := b.size
  let acc := (List.range 4).foldl (fun acc i => mix32 b acc (32 * i) (32 * i + 16) (32 * i))
    (n.toUInt64 * prime64a, 0)
  -- the intermediate mixing
  let acc := (avalanche acc.1, avalanche acc.2)
  let acc := (List.range (n / 32 - 4)).foldl
    (fun acc i => mix32 b acc (128 + 32 * i) (144 + 32 * i) (3 + 32 * i)) acc
  finish n (mix32 b acc (n - 16) (n - 32) 103)

/-! ### Long inputs -/

/-- The accumulators before the first stripe. -/
def accumulators : List UInt64 :=
  [prime32c, prime64a, prime64b, prime64c, prime64d, prime32b, prime64e, prime32a]

/-- The partner of an accumulator: each even one and the next odd one are partners. -/
def partner (i : Nat) : Nat :=
  if i % 2 = 0 then i + 1 else i - 1

/-- Takes the 64 bytes at `i` into the accumulators, with the secret at `s`. -/
def accumulate (b : ByteArray) (acc : List UInt64) (i s : Nat) : List UInt64 :=
  acc.mapIdx fun k a =>
    let key := word64 b (i + 8 * k) ^^^ word64 secret (s + 8 * k)
    a + word64 b (i + 8 * partner k) + lowHalf key * key >>> 32

/-- Stripes that follow each other from `i`. -/
def accumulateStripes (b : ByteArray) (acc : List UInt64) (i count : Nat) : List UInt64 :=
  (List.range count).foldl (fun acc k => accumulate b acc (i + 64 * k) (8 * k)) acc

/-- Scrambles the accumulators between blocks. -/
def scramble (acc : List UInt64) : List UInt64 :=
  acc.mapIdx fun k a => (xorShift a 47 ^^^ word64 secret (128 + 8 * k)) * prime32a

/-- An accumulator, mixed with the secret that starts at `s`. -/
def keyedAccumulator (acc : List UInt64) (s k : Nat) : UInt64 :=
  acc.getD k 0 ^^^ word64 secret (s + 8 * k)

/-- One word of the result, from the accumulators taken in pairs. -/
def merge (acc : List UInt64) (s : Nat) (start : UInt64) : UInt64 :=
  avalanche ((List.range 4).foldl (fun h k => h + foldedProduct
    (keyedAccumulator acc s (2 * k)) (keyedAccumulator acc s (2 * k + 1))) start)

/-- The hash of more than 240 bytes, in blocks of sixteen stripes. -/
def hashLong (b : ByteArray) : Digest :=
  let n := b.size
  let blocks := (n - 1) / 1024
  let acc := (List.range blocks).foldl
    (fun acc k => scramble (accumulateStripes b acc (1024 * k) 16)) accumulators
  let acc := accumulateStripes b acc (1024 * blocks) ((n - 1 - 1024 * blocks) / 64)
  -- the last stripe ends where the input ends, and may overlap the one before
  let acc := accumulate b acc (n - 64) 121
  { low := merge acc 11 (n.toUInt64 * prime64a)
    high := merge acc 117 (0xFFFFFFFFFFFFFFFF ^^^ n.toUInt64 * prime64b) }

/-- **The hash of some bytes.** -/
def hash (b : ByteArray) : Digest :=
  if b.size = 0 then hashEmpty
  else if b.size ≤ 3 then hash1to3 b
  else if b.size ≤ 8 then hash4to8 b
  else if b.size ≤ 16 then hash9to16 b
  else if b.size ≤ 128 then hash17to128 b
  else if b.size ≤ 240 then hash129to240 b
  else hashLong b

end Netlist.XXH3

namespace Netlist

/-- The digest of a source text: the hash of its bytes. -/
def Digest.ofSource (source : String) : Digest :=
  XXH3.hash source.toUTF8

end Netlist
