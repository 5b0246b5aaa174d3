import PackageAtlas.Text.Quoted

namespace PackageAtlas.Digest

/-!
# XXH3

The 64-bit XXH3 digest of some bytes, without a seed.

* `wordAt`: words of bytes, lowest byte first; `foldProduct`: the two halves of a product, mixed;
* `shortDigest`, `middleDigest`, `wideDigest`, `longDigest`: the digest by the number of bytes;
* `digest`, `digestText`: the digest, and its sixteen hexadecimal digits.

All words wrap.
-/

/-- The bytes that a digest is mixed with. -/
def secret : ByteArray := ⟨#[
    0xb8, 0xfe, 0x6c, 0x39, 0x23, 0xa4, 0x4b, 0xbe, 0x7c, 0x01, 0x81, 0x2c, 0xf7, 0x21, 0xad, 0x1c,
    0xde, 0xd4, 0x6d, 0xe9, 0x83, 0x90, 0x97, 0xdb, 0x72, 0x40, 0xa4, 0xa4, 0xb7, 0xb3, 0x67, 0x1f,
    0xcb, 0x79, 0xe6, 0x4e, 0xcc, 0xc0, 0xe5, 0x78, 0x82, 0x5a, 0xd0, 0x7d, 0xcc, 0xff, 0x72, 0x21,
    0xb8, 0x08, 0x46, 0x74, 0xf7, 0x43, 0x24, 0x8e, 0xe0, 0x35, 0x90, 0xe6, 0x81, 0x3a, 0x26, 0x4c,
    0x3c, 0x28, 0x52, 0xbb, 0x91, 0xc3, 0x00, 0xcb, 0x88, 0xd0, 0x65, 0x8b, 0x1b, 0x53, 0x2e, 0xa3,
    0x71, 0x64, 0x48, 0x97, 0xa2, 0x0d, 0xf9, 0x4e, 0x38, 0x19, 0xef, 0x46, 0xa9, 0xde, 0xac, 0xd8,
    0xa8, 0xfa, 0x76, 0x3f, 0xe3, 0x9c, 0x34, 0x3f, 0xf9, 0xdc, 0xbb, 0xc7, 0xc7, 0x0b, 0x4f, 0x1d,
    0x8a, 0x51, 0xe0, 0x4b, 0xcd, 0xb4, 0x59, 0x31, 0xc8, 0x9f, 0x7e, 0xc9, 0xd9, 0x78, 0x73, 0x64,
    0xea, 0xc5, 0xac, 0x83, 0x34, 0xd3, 0xeb, 0xc3, 0xc5, 0x81, 0xa0, 0xff, 0xfa, 0x13, 0x63, 0xeb,
    0x17, 0x0d, 0xdd, 0x51, 0xb7, 0xf0, 0xda, 0x49, 0xd3, 0x16, 0x55, 0x26, 0x29, 0xd4, 0x68, 0x9e,
    0x2b, 0x16, 0xbe, 0x58, 0x7d, 0x47, 0xa1, 0xfc, 0x8f, 0xf8, 0xb8, 0xd1, 0x7a, 0xd0, 0x31, 0xce,
    0x45, 0xcb, 0x3a, 0x8f, 0x95, 0x16, 0x04, 0x28, 0xaf, 0xd7, 0xfb, 0xca, 0xbb, 0x4b, 0x40, 0x7e]⟩

/-! ### Words -/

/-- The byte at a place as a word, zero past the end. -/
def byteWord (bytes : ByteArray) (i : Nat) : UInt64 :=
  if h : i < bytes.size then bytes[i].toUInt64 else 0

/-- The word of four bytes. -/
def halfAt (bytes : ByteArray) (i : Nat) : UInt64 :=
  byteWord bytes i ||| (byteWord bytes (i + 1) <<< 8) ||| (byteWord bytes (i + 2) <<< 16) |||
    (byteWord bytes (i + 3) <<< 24)

/-- The word of eight bytes. -/
def wordAt (bytes : ByteArray) (i : Nat) : UInt64 :=
  halfAt bytes i ||| (halfAt bytes (i + 4) <<< 32)

/-- A word with its bytes in reverse order. -/
def swapBytes (w : UInt64) : UInt64 :=
  (List.range 8).foldl (fun acc i =>
    (acc <<< 8) ||| ((w >>> (8 * i).toUInt64) &&& 0xFF)) 0

/-- A word turned to the left by `n` bits. -/
def turnLeft (w n : UInt64) : UInt64 := (w <<< n) ||| (w >>> (64 - n))

/-- The two halves of the product of two words, mixed. -/
def foldProduct (a b : UInt64) : UInt64 :=
  let p := a.toNat * b.toNat
  p.toUInt64 ^^^ (p >>> 64).toUInt64

/-- Primes that words are multiplied by. -/
def prime32a : UInt64 := 0x9E3779B1
@[inherit_doc prime32a] def prime32b : UInt64 := 0x85EBCA77
@[inherit_doc prime32a] def prime32c : UInt64 := 0xC2B2AE3D
@[inherit_doc prime32a] def prime64a : UInt64 := 0x9E3779B185EBCA87
@[inherit_doc prime32a] def prime64b : UInt64 := 0xC2B2AE3D27D4EB4F
@[inherit_doc prime32a] def prime64c : UInt64 := 0x165667B19E3779F9
@[inherit_doc prime32a] def prime64d : UInt64 := 0x85EBCA77C2B2AE63
@[inherit_doc prime32a] def prime64e : UInt64 := 0x27D4EB2F165667C5
@[inherit_doc prime32a] def mixerA : UInt64 := 0x165667919E3779F9
@[inherit_doc prime32a] def mixerB : UInt64 := 0x9FB21C651E98DF25

/-- Spreads the bits of a word. -/
def avalanche (h : UInt64) : UInt64 :=
  let h := (h ^^^ (h >>> 37)) * mixerA
  h ^^^ (h >>> 32)

/-- Spreads the bits of a word that few bytes went into. -/
def strongAvalanche (h : UInt64) : UInt64 :=
  let h := (h ^^^ (h >>> 33)) * prime64b
  let h := (h ^^^ (h >>> 29)) * prime64c
  h ^^^ (h >>> 32)

/-! ### Up to sixteen bytes -/

/-- The digest of no bytes. -/
def emptyDigest : UInt64 := strongAvalanche (wordAt secret 56 ^^^ wordAt secret 64)

/-- The digest of one to three bytes. -/
def tinyDigest (bytes : ByteArray) : UInt64 :=
  let n := bytes.size
  let packed := (byteWord bytes 0 <<< 16) ||| (byteWord bytes (n / 2) <<< 24) |||
    byteWord bytes (n - 1) ||| (n.toUInt64 <<< 8)
  strongAvalanche (packed ^^^ (halfAt secret 0 ^^^ halfAt secret 4))

/-- The digest of four to eight bytes. -/
def shortDigest (bytes : ByteArray) : UInt64 :=
  let n := bytes.size
  let packed := halfAt bytes (n - 4) + (halfAt bytes 0 <<< 32)
  let h := packed ^^^ (wordAt secret 8 ^^^ wordAt secret 16)
  let h := (h ^^^ turnLeft h 49 ^^^ turnLeft h 24) * mixerB
  let h := (h ^^^ ((h >>> 35) + n.toUInt64)) * mixerB
  h ^^^ (h >>> 28)

/-- The digest of nine to sixteen bytes. -/
def mediumDigest (bytes : ByteArray) : UInt64 :=
  let n := bytes.size
  let lo := wordAt bytes 0 ^^^ (wordAt secret 24 ^^^ wordAt secret 32)
  let hi := wordAt bytes (n - 8) ^^^ (wordAt secret 40 ^^^ wordAt secret 48)
  avalanche (n.toUInt64 + swapBytes lo + hi + foldProduct lo hi)

/-! ### Up to 240 bytes -/

/-- Sixteen bytes mixed with sixteen bytes of the secret. -/
def mixPair (bytes : ByteArray) (i j : Nat) : UInt64 :=
  foldProduct (wordAt bytes i ^^^ wordAt secret j) (wordAt bytes (i + 8) ^^^ wordAt secret (j + 8))

/-- The digest of 17 to 128 bytes: pairs of sixteen bytes from both ends. -/
def middleDigest (bytes : ByteArray) : UInt64 :=
  let n := bytes.size
  let pairs := (n - 1) / 32 + 1
  avalanche ((List.range pairs).foldl (fun acc i =>
    acc + mixPair bytes (16 * i) (32 * i) + mixPair bytes (n - 16 * (i + 1)) (32 * i + 16))
    (n.toUInt64 * prime64a))

/-- The digest of 129 to 240 bytes: sixteen bytes after another, in two rounds. -/
def wideDigest (bytes : ByteArray) : UInt64 :=
  let n := bytes.size
  let first := (List.range 8).foldl (fun acc i => acc + mixPair bytes (16 * i) (16 * i))
    (n.toUInt64 * prime64a)
  let second := (List.range (n / 16 - 8)).foldl (fun acc i =>
    acc + mixPair bytes (16 * (i + 8)) (16 * i + 3)) (avalanche first)
  avalanche (second + mixPair bytes (n - 16) 119)

/-! ### More than 240 bytes -/

/-- The number of bytes of a stripe. -/
def stripeLength : Nat := 64

/-- The number of stripes after which the lanes are scrambled. -/
def blockStripes : Nat := 16

/-- The eight lanes before the first stripe. -/
def firstLanes : Array UInt64 :=
  #[prime32c, prime64a, prime64b, prime64c, prime64d, prime32b, prime64e, prime32a]

/-- The lane at a place. -/
def lane (lanes : Array UInt64) (i : Nat) : UInt64 := lanes.getD i 0

/-- The lanes after the stripe at `i`, mixed with the secret from `j` on. -/
def addStripe (bytes : ByteArray) (lanes : Array UInt64) (i j : Nat) : Array UInt64 :=
  (Array.range 8).map (fun l =>
    let neighbour := if l % 2 = 0 then l + 1 else l - 1
    let key : UInt64 := wordAt bytes (i + 8 * l) ^^^ wordAt secret (j + 8 * l)
    lane lanes l + wordAt bytes (i + 8 * neighbour) +
      (key &&& (0xFFFFFFFF : UInt64)) * (key >>> 32))

/-- The lanes after a block. -/
def scramble (lanes : Array UInt64) : Array UInt64 :=
  (Array.range 8).map (fun l =>
    let a := lane lanes l
    (a ^^^ (a >>> 47) ^^^ wordAt secret (128 + 8 * l)) * prime32a)

/-- The lanes after `count` stripes from `start` on. -/
def addStripes (bytes : ByteArray) (lanes : Array UInt64) (start count : Nat) : Array UInt64 :=
  (List.range count).foldl (fun acc i => addStripe bytes acc (start + stripeLength * i) (8 * i))
    lanes

/-- The digest of more than 240 bytes. -/
def longDigest (bytes : ByteArray) : UInt64 :=
  let n := bytes.size
  let blockLength := stripeLength * blockStripes
  let blocks := (n - 1) / blockLength
  let lanes := (List.range blocks).foldl (fun acc b =>
    scramble (addStripes bytes acc (blockLength * b) blockStripes)) firstLanes
  let left := (n - 1 - blockLength * blocks) / stripeLength
  let lanes := addStripes bytes lanes (blockLength * blocks) left
  let lanes := addStripe bytes lanes (n - stripeLength) 121
  avalanche ((List.range 4).foldl (fun acc i =>
    acc + foldProduct (lane lanes (2 * i) ^^^ wordAt secret (11 + 16 * i))
      (lane lanes (2 * i + 1) ^^^ wordAt secret (19 + 16 * i))) (n.toUInt64 * prime64a))

/-! ### Any number of bytes -/

/-- The digest of some bytes. -/
def digest (bytes : ByteArray) : UInt64 :=
  let n := bytes.size
  if n = 0 then emptyDigest
  else if n ≤ 3 then tinyDigest bytes
  else if n ≤ 8 then shortDigest bytes
  else if n ≤ 16 then mediumDigest bytes
  else if n ≤ 128 then middleDigest bytes
  else if n ≤ 240 then wideDigest bytes
  else longDigest bytes

/-- The sixteen hexadecimal digits of the digest of some bytes. -/
def digestText (bytes : ByteArray) : String :=
  String.ofList (Text.hexText 16 (digest bytes).toNat)

end PackageAtlas.Digest
