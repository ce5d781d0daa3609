/-
# The 64-bit XXH3 digest

Keys are placed by their digest: the shard space and the buckets of a server are
both carved from it, so every process that computes this digest agrees on where a
key lives. The digest depends on the bytes alone and on a seed, never on the
machine: words are read in little-endian order whatever the host.

There are four shapes of input, by length: up to 16 bytes, up to 128, up to 240,
and longer. A long input is folded into eight running words, 64 bytes at a time; a
shorter one is mixed in 16-byte pieces taken from both ends.
-/

namespace Keyspace

namespace Digest

/-- The constant bytes that every mixing step draws its masks from. -/
def mask : ByteArray :=
  ⟨#[
    0xb8, 0xfe, 0x6c, 0x39, 0x23, 0xa4, 0x4b, 0xbe, 0x7c, 0x01, 0x81, 0x2c,
    0xf7, 0x21, 0xad, 0x1c, 0xde, 0xd4, 0x6d, 0xe9, 0x83, 0x90, 0x97, 0xdb,
    0x72, 0x40, 0xa4, 0xa4, 0xb7, 0xb3, 0x67, 0x1f, 0xcb, 0x79, 0xe6, 0x4e,
    0xcc, 0xc0, 0xe5, 0x78, 0x82, 0x5a, 0xd0, 0x7d, 0xcc, 0xff, 0x72, 0x21,
    0xb8, 0x08, 0x46, 0x74, 0xf7, 0x43, 0x24, 0x8e, 0xe0, 0x35, 0x90, 0xe6,
    0x81, 0x3a, 0x26, 0x4c, 0x3c, 0x28, 0x52, 0xbb, 0x91, 0xc3, 0x00, 0xcb,
    0x88, 0xd0, 0x65, 0x8b, 0x1b, 0x53, 0x2e, 0xa3, 0x71, 0x64, 0x48, 0x97,
    0xa2, 0x0d, 0xf9, 0x4e, 0x38, 0x19, 0xef, 0x46, 0xa9, 0xde, 0xac, 0xd8,
    0xa8, 0xfa, 0x76, 0x3f, 0xe3, 0x9c, 0x34, 0x3f, 0xf9, 0xdc, 0xbb, 0xc7,
    0xc7, 0x0b, 0x4f, 0x1d, 0x8a, 0x51, 0xe0, 0x4b, 0xcd, 0xb4, 0x59, 0x31,
    0xc8, 0x9f, 0x7e, 0xc9, 0xd9, 0x78, 0x73, 0x64, 0xea, 0xc5, 0xac, 0x83,
    0x34, 0xd3, 0xeb, 0xc3, 0xc5, 0x81, 0xa0, 0xff, 0xfa, 0x13, 0x63, 0xeb,
    0x17, 0x0d, 0xdd, 0x51, 0xb7, 0xf0, 0xda, 0x49, 0xd3, 0x16, 0x55, 0x26,
    0x29, 0xd4, 0x68, 0x9e, 0x2b, 0x16, 0xbe, 0x58, 0x7d, 0x47, 0xa1, 0xfc,
    0x8f, 0xf8, 0xb8, 0xd1, 0x7a, 0xd0, 0x31, 0xce, 0x45, 0xcb, 0x3a, 0x8f,
    0x95, 0x16, 0x04, 0x28, 0xaf, 0xd7, 0xfb, 0xca, 0xbb, 0x4b, 0x40, 0x7e]⟩

/-! The odd constants that words are multiplied with. -/

def prime32₁ : UInt64 := 0x9e3779b1
def prime32₂ : UInt64 := 0x85ebca77
def prime32₃ : UInt64 := 0xc2b2ae3d
def prime64₁ : UInt64 := 0x9e3779b185ebca87
def prime64₂ : UInt64 := 0xc2b2ae3d27d4eb4f
def prime64₃ : UInt64 := 0x165667b19e3779f9
def prime64₄ : UInt64 := 0x85ebca77c2b2ae63
def prime64₅ : UInt64 := 0x27d4eb2f165667c5

/-- The byte at `i`; past the end there are only zeros. -/
def byteAt (bytes : ByteArray) (i : Nat) : UInt64 :=
  if h : i < bytes.size then bytes[i].toUInt64 else 0

/-- Four bytes from `i` on, the lowest first. -/
def word32 (bytes : ByteArray) (i : Nat) : UInt64 :=
  byteAt bytes i ||| byteAt bytes (i + 1) <<< 8 ||| byteAt bytes (i + 2) <<< 16 |||
    byteAt bytes (i + 3) <<< 24

/-- Eight bytes from `i` on, the lowest first. -/
def word64 (bytes : ByteArray) (i : Nat) : UInt64 :=
  word32 bytes i ||| word32 bytes (i + 4) <<< 32

/-- The low `n` bits of a word. -/
def lowBits (n x : UInt64) : UInt64 :=
  x &&& (1 <<< n - 1)

/-- The four low bytes of a word in the opposite order. -/
def swapBytes32 (x : UInt64) : UInt64 :=
  lowBits 8 x <<< 24 ||| lowBits 8 (x >>> 8) <<< 16 ||| lowBits 8 (x >>> 16) <<< 8 |||
    lowBits 8 (x >>> 24)

/-- The eight bytes of a word in the opposite order. -/
def swapBytes64 (x : UInt64) : UInt64 :=
  swapBytes32 x <<< 32 ||| swapBytes32 (x >>> 32)

/-- A word with its bits moved up, those that leave at the top coming back at the bottom. -/
def rotateLeft (x n : UInt64) : UInt64 :=
  x <<< n ||| x >>> (64 - n)

/-- The 128-bit product of two words, its two halves combined by exclusive or. -/
def foldProduct (x y : UInt64) : UInt64 :=
  let product := x.toNat * y.toNat
  product.toUInt64 ^^^ (product / UInt64.size).toUInt64

/-- The closing step of inputs of more than eight bytes. -/
def avalanche (h : UInt64) : UInt64 :=
  let h := (h ^^^ h >>> 37) * 0x165667919e3779f9
  h ^^^ h >>> 32

/-- The closing step of inputs of at most three bytes. -/
def avalancheShort (h : UInt64) : UInt64 :=
  let h := (h ^^^ h >>> 33) * prime64₂
  let h := (h ^^^ h >>> 29) * prime64₃
  h ^^^ h >>> 32

/-- Mixes the 16 bytes at `i` with the 16 mask bytes at `m`. -/
def mixPiece (seed : UInt64) (bytes : ByteArray) (i m : Nat) : UInt64 :=
  foldProduct (word64 bytes i ^^^ (word64 mask m + seed))
    (word64 bytes (i + 8) ^^^ (word64 mask (m + 8) - seed))

/-- Inputs of at most 16 bytes. -/
def ofShort (seed : UInt64) (bytes : ByteArray) : UInt64 :=
  let size := bytes.size
  let length := size.toUInt64
  if size = 0 then
    avalancheShort (seed ^^^ (word64 mask 56 ^^^ word64 mask 64))
  else if size ≤ 3 then
    let combined := byteAt bytes 0 <<< 16 ||| byteAt bytes (size / 2) <<< 24 |||
      byteAt bytes (size - 1) ||| length <<< 8
    avalancheShort (combined ^^^ ((word32 mask 0 ^^^ word32 mask 4) + seed))
  else if size ≤ 8 then
    let seed := seed ^^^ swapBytes32 seed <<< 32
    let combined := word32 bytes (size - 4) + word32 bytes 0 <<< 32
    let h := combined ^^^ ((word64 mask 8 ^^^ word64 mask 16) - seed)
    let h := (h ^^^ rotateLeft h 49 ^^^ rotateLeft h 24) * 0x9fb21c651e98df25
    let h := (h ^^^ (h >>> 35 + length)) * 0x9fb21c651e98df25
    h ^^^ h >>> 28
  else
    let low := word64 bytes 0 ^^^ ((word64 mask 24 ^^^ word64 mask 32) + seed)
    let high := word64 bytes (size - 8) ^^^ ((word64 mask 40 ^^^ word64 mask 48) - seed)
    avalanche (length + swapBytes64 low + high + foldProduct low high)

/-- Inputs of 17 to 128 bytes: up to four pieces from either end, the outermost under the
first mask bytes. -/
def ofMedium (seed : UInt64) (bytes : ByteArray) : UInt64 :=
  let size := bytes.size
  let pairs := (size - 1) / 32 + 1
  avalanche <| (List.range pairs).foldl (fun sum i =>
      sum + mixPiece seed bytes (16 * i) (32 * i) +
        mixPiece seed bytes (size - 16 * (i + 1)) (32 * i + 16))
    (size.toUInt64 * prime64₁)

/-- Inputs of 129 to 240 bytes: eight pieces, a closing step, then the remaining whole pieces
and the last 16 bytes. -/
def ofLarge (seed : UInt64) (bytes : ByteArray) : UInt64 :=
  let size := bytes.size
  let first := (List.range 8).foldl
    (fun sum i => sum + mixPiece seed bytes (16 * i) (16 * i)) (size.toUInt64 * prime64₁)
  let rest := (List.range (size / 16 - 8)).foldl
    (fun sum i => sum + mixPiece seed bytes (16 * (i + 8)) (16 * i + 3)) (avalanche first)
  avalanche (rest + mixPiece seed bytes (size - 16) 119)

/-- The mask of a seeded long input: the seed is added to every even word of the constant mask
and taken from every odd one. -/
def seededMask (seed : UInt64) : ByteArray :=
  (List.range 24).foldl (fun out i =>
      let word := if i % 2 = 0 then word64 mask (8 * i) + seed else word64 mask (8 * i) - seed
      (List.range 8).foldl (fun out j => out.push (word >>> (8 * j).toUInt64).toUInt8) out)
    ByteArray.empty

/-- The eight running words of a long input. -/
abbrev Lanes := Vector UInt64 8

/-- The running words before anything was added. -/
def Lanes.start : Lanes :=
  #v[prime32₃, prime64₁, prime64₂, prime64₃, prime64₄, prime32₂, prime64₅, prime32₁]

/-- Adds the 64 bytes at `i`, under the mask bytes at `m`. Each word goes plain to its
neighbour's lane and masked, its halves multiplied, to its own. -/
def Lanes.addStripe (lanes : Lanes) (mask bytes : ByteArray) (i m : Nat) : Lanes :=
  lanes.mapFinIdx fun j lane _ =>
    let masked := word64 bytes (i + 8 * j) ^^^ word64 mask (m + 8 * j)
    let neighbour := if j % 2 = 0 then j + 1 else j - 1
    lane + word64 bytes (i + 8 * neighbour) + lowBits 32 masked * (masked >>> 32)

/-- Closes a block of 16 stripes, under the last mask bytes. -/
def Lanes.scramble (lanes : Lanes) (mask : ByteArray) : Lanes :=
  lanes.mapFinIdx fun j lane _ =>
    (lane ^^^ lane >>> 47 ^^^ word64 mask (128 + 8 * j)) * prime32₁

/-- Inputs of more than 240 bytes: blocks of 16 stripes of 64 bytes, then the stripes of the
last block, then the last 64 bytes once more. -/
def ofLong (seed : UInt64) (bytes : ByteArray) : UInt64 :=
  let mask := if seed = 0 then mask else seededMask seed
  let size := bytes.size
  let addStripes (lanes : Lanes) (start count : Nat) : Lanes :=
    (List.range count).foldl
      (fun lanes i => lanes.addStripe mask bytes (start + 64 * i) (8 * i)) lanes
  let blocks := (size - 1) / 1024
  let lanes := (List.range blocks).foldl
    (fun lanes b => (addStripes lanes (1024 * b) 16).scramble mask) Lanes.start
  let lanes := addStripes lanes (1024 * blocks) ((size - 1 - 1024 * blocks) / 64)
  let lanes := lanes.addStripe mask bytes (size - 64) 121
  let pair (j : Nat) (x y : UInt64) : UInt64 :=
    foldProduct (x ^^^ word64 mask (11 + 16 * j)) (y ^^^ word64 mask (19 + 16 * j))
  avalanche <| size.toUInt64 * prime64₁ + pair 0 lanes[0] lanes[1] + pair 1 lanes[2] lanes[3] +
    pair 2 lanes[4] lanes[5] + pair 3 lanes[6] lanes[7]

end Digest

/-- The 64-bit XXH3 digest of `bytes` under `seed`. -/
def digest (seed : UInt64) (bytes : ByteArray) : UInt64 :=
  if bytes.size ≤ 16 then Digest.ofShort seed bytes
  else if bytes.size ≤ 128 then Digest.ofMedium seed bytes
  else if bytes.size ≤ 240 then Digest.ofLarge seed bytes
  else Digest.ofLong seed bytes

end Keyspace
