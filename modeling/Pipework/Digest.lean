import Pipework.Bytes

set_option autoImplicit false

/-!
Digests: MD5, SHA-1 and SHA-2, BLAKE2b, and checksums that are single numbers.
-/

namespace Pipework.Digest

/-!
Words of some size, and how data is cut into blocks of them. Many constants of digests are bits behind the point
of roots of primes.
-/

/-- The bytes of a number, lowest first. -/
def littleEndian : Nat → Nat → Bytes
  | 0, _ => []
  | count + 1, value => (value % 256).toUInt8 :: littleEndian count (value / 256)

/-- The number with these bytes, lowest first. -/
def ofLittleEndian (bytes : Bytes) : Nat :=
  bytes.foldr (fun byte value => byte.toNat + 256 * value) 0

def bigEndian (count value : Nat) : Bytes := (littleEndian count value).reverse

def ofBigEndian (bytes : Bytes) : Nat := ofLittleEndian bytes.reverse

/-- Pieces of a fixed length; a shorter rest is dropped. -/
def pieces (size : Nat) : Nat → Bytes → List Bytes
  | 0, _ => []
  | count + 1, data => data.take size :: pieces size count (data.drop size)

/-- Data with a one bit, zeros and its length in bits, in pieces of `size` bytes. -/
def paddedPieces (size : Nat) (lengthBytes data : Bytes) : List Bytes :=
  let zeros := (2 * size - 1 - lengthBytes.length - data.length % size) % size
  let whole := data ++ [0x80] ++ List.replicate zeros 0 ++ lengthBytes
  pieces size (whole.length / size) whole

/-- Bits moved to the left, with those that fall out coming in at the right. -/
def rotateLeft32 (value count : UInt32) : UInt32 := (value <<< count) ||| (value >>> (32 - count))

def rotateRight32 (value count : UInt32) : UInt32 := (value >>> count) ||| (value <<< (32 - count))

def rotateRight64 (value count : UInt64) : UInt64 := (value >>> count) ||| (value <<< (64 - count))

/-- The greatest number whose power is at most a bound, found bit by bit from a given bit down. -/
def rootBelow (exponent bound : Nat) : Nat → Nat → Nat
  | 0, found => found
  | bit + 1, found =>
    let candidate := found + 1 <<< bit
    if Nat.pow candidate exponent ≤ bound then rootBelow exponent bound bit candidate
    else rootBelow exponent bound bit found

/-- The first 64 bits behind the point of the root of a number below 512. -/
def rootBits (exponent value : Nat) : UInt64 :=
  (rootBelow exponent (value * 1 <<< (64 * exponent)) 70 0).toUInt64

def isPrime (value : Nat) : Bool :=
  1 < value && (List.range value).all fun divisor => divisor < 2 || value % divisor ≠ 0

/-- The first eighty primes. -/
def primes : List Nat := (List.range 410).filter isPrime

/-- The upper half of a word. -/
def upperHalf (value : UInt64) : UInt32 := (value >>> 32).toUInt32

def hexDigits (bytes : Bytes) : List Char :=
  bytes.flatMap fun byte =>
    [byte.toNat / 16, byte.toNat % 16].map fun digit =>
      Char.ofNat (if digit < 10 then 48 + digit else 87 + digit)

/-!
The digests SHA-1 and SHA-2. The larger digests of the second family work on words of 64 bits, the smaller ones
on words of 32 bits.
-/

/-- Data in blocks with its length in bits at the end, highest byte first. -/
def shaBlocks (size lengthSize : Nat) (data : Bytes) : List Bytes :=
  paddedPieces size (bigEndian lengthSize (8 * data.length)) data

/-- The words of a block. -/
def words32 (block : Bytes) : Array UInt32 :=
  ((pieces 4 16 block).map fun word => (ofBigEndian word).toUInt32).toArray

def words64 (block : Bytes) : Array UInt64 :=
  ((pieces 8 16 block).map fun word => (ofBigEndian word).toUInt64).toArray

namespace Sha1

def round (words : Array UInt32) (state : List UInt32) (index : Nat) : List UInt32 :=
  match state with
  | [a, b, c, d, e] =>
    let (mixed, constant) : UInt32 × UInt32 :=
      match index / 20 with
      | 0 => ((b &&& c) ||| (~~~b &&& d), 0x5a827999)
      | 1 => (b ^^^ c ^^^ d, 0x6ed9eba1)
      | 2 => ((b &&& c) ||| (b &&& d) ||| (c &&& d), 0x8f1bbcdc)
      | _ => (b ^^^ c ^^^ d, 0xca62c1d6)
    [rotateLeft32 a 5 + mixed + e + constant + words.getD index 0, a, rotateLeft32 b 30, c, d]
  | other => other

/-- The words of a block, and those made of the words before them. -/
def schedule (block : Bytes) : Array UInt32 :=
  (List.range 64).foldl (fun (words : Array UInt32) index =>
    let word (back : Nat) : UInt32 := words.getD (16 + index - back) 0
    words.push (rotateLeft32 (word 3 ^^^ word 8 ^^^ word 14 ^^^ word 16) 1)) (words32 block)

def block (state : List UInt32) (data : Bytes) : List UInt32 :=
  List.zipWith (· + ·) state ((List.range 80).foldl (round (schedule data)) state)

end Sha1

def sha1 (data : Bytes) : Bytes :=
  ((shaBlocks 64 8 data).foldl Sha1.block
    [0x67452301, 0xefcdab89, 0x98badcfe, 0x10325476, 0xc3d2e1f0]).flatMap
    fun word => bigEndian 4 word.toNat

namespace Sha2

/-- The constants of the rounds: bits of the cube roots of the first eighty primes. -/
def constants : Array UInt64 := (primes.map (rootBits 3)).toArray

def constants32 : Array UInt32 := constants.map upperHalf

/-- Bits of the square roots of eight primes. -/
def squareRoots (skipped : Nat) : List UInt64 := ((primes.drop skipped).take 8).map (rootBits 2)

def round32 (words : Array UInt32) (state : List UInt32) (index : Nat) : List UInt32 :=
  match state with
  | [a, b, c, d, e, f, g, h] =>
    let first := h + (rotateRight32 e 6 ^^^ rotateRight32 e 11 ^^^ rotateRight32 e 25) +
      ((e &&& f) ^^^ (~~~e &&& g)) + constants32.getD index 0 + words.getD index 0
    let second := (rotateRight32 a 2 ^^^ rotateRight32 a 13 ^^^ rotateRight32 a 22) +
      ((a &&& b) ^^^ (a &&& c) ^^^ (b &&& c))
    [first + second, a, b, c, d + first, e, f, g]
  | other => other

def schedule32 (block : Bytes) : Array UInt32 :=
  (List.range 48).foldl (fun (words : Array UInt32) index =>
    let word (back : Nat) : UInt32 := words.getD (16 + index - back) 0
    let early := word 15
    let late := word 2
    words.push (word 16 + (rotateRight32 early 7 ^^^ rotateRight32 early 18 ^^^ (early >>> 3)) + word 7 +
      (rotateRight32 late 17 ^^^ rotateRight32 late 19 ^^^ (late >>> 10)))) (words32 block)

def block32 (state : List UInt32) (data : Bytes) : List UInt32 :=
  List.zipWith (· + ·) state ((List.range 64).foldl (round32 (schedule32 data)) state)

def round64 (words : Array UInt64) (state : List UInt64) (index : Nat) : List UInt64 :=
  match state with
  | [a, b, c, d, e, f, g, h] =>
    let first := h + (rotateRight64 e 14 ^^^ rotateRight64 e 18 ^^^ rotateRight64 e 41) +
      ((e &&& f) ^^^ (~~~e &&& g)) + constants.getD index 0 + words.getD index 0
    let second := (rotateRight64 a 28 ^^^ rotateRight64 a 34 ^^^ rotateRight64 a 39) +
      ((a &&& b) ^^^ (a &&& c) ^^^ (b &&& c))
    [first + second, a, b, c, d + first, e, f, g]
  | other => other

def schedule64 (block : Bytes) : Array UInt64 :=
  (List.range 64).foldl (fun (words : Array UInt64) index =>
    let word (back : Nat) : UInt64 := words.getD (16 + index - back) 0
    let early := word 15
    let late := word 2
    words.push (word 16 + (rotateRight64 early 1 ^^^ rotateRight64 early 8 ^^^ (early >>> 7)) + word 7 +
      (rotateRight64 late 19 ^^^ rotateRight64 late 61 ^^^ (late >>> 6)))) (words64 block)

def block64 (state : List UInt64) (data : Bytes) : List UInt64 :=
  List.zipWith (· + ·) state ((List.range 80).foldl (round64 (schedule64 data)) state)

/-- A digest of words of 32 bits. -/
def digest32 (start : List UInt32) (data : Bytes) : Bytes :=
  ((shaBlocks 64 8 data).foldl block32 start).flatMap fun word => bigEndian 4 word.toNat

/-- A digest of words of 64 bits. -/
def digest64 (start : List UInt64) (data : Bytes) : Bytes :=
  ((shaBlocks 128 16 data).foldl block64 start).flatMap fun word => bigEndian 8 word.toNat

end Sha2

def sha256 (data : Bytes) : Bytes := Sha2.digest32 ((Sha2.squareRoots 0).map upperHalf) data

def sha224 (data : Bytes) : Bytes :=
  (Sha2.digest32 ((Sha2.squareRoots 8).map UInt64.toUInt32) data).take 28

def sha512 (data : Bytes) : Bytes := Sha2.digest64 (Sha2.squareRoots 0) data

def sha384 (data : Bytes) : Bytes := (Sha2.digest64 (Sha2.squareRoots 8) data).take 48

/-!
The digest BLAKE2b.
-/

namespace Blake

/-- In which order the words of a block are used in each round. -/
def orders : Array (List Nat) :=
  #[[0, 1, 2, 3, 4, 5, 6, 7, 8, 9, 10, 11, 12, 13, 14, 15],
    [14, 10, 4, 8, 9, 15, 13, 6, 1, 12, 0, 2, 11, 7, 5, 3],
    [11, 8, 12, 0, 5, 2, 15, 13, 10, 14, 3, 6, 7, 1, 9, 4],
    [7, 9, 3, 1, 13, 12, 11, 14, 2, 6, 5, 10, 4, 0, 15, 8],
    [9, 0, 5, 7, 2, 4, 10, 15, 14, 1, 11, 12, 6, 8, 3, 13],
    [2, 12, 6, 10, 0, 11, 8, 3, 4, 13, 7, 5, 15, 14, 1, 9],
    [12, 5, 1, 15, 14, 13, 4, 10, 0, 7, 6, 3, 9, 2, 8, 11],
    [13, 11, 7, 14, 12, 1, 3, 9, 5, 0, 15, 4, 8, 6, 2, 10],
    [6, 15, 14, 9, 11, 3, 0, 8, 12, 2, 13, 7, 1, 4, 10, 5],
    [10, 2, 8, 4, 7, 6, 1, 5, 15, 11, 9, 14, 3, 12, 13, 0]]

/-- Which words of the state are mixed with each other, step by step. -/
def mixes : List (Nat × Nat × Nat × Nat) :=
  [(0, 4, 8, 12), (1, 5, 9, 13), (2, 6, 10, 14), (3, 7, 11, 15),
    (0, 5, 10, 15), (1, 6, 11, 12), (2, 7, 8, 13), (3, 4, 9, 14)]

/-- Mixes four words of the state with two words of a block. -/
def mix (state : Array UInt64) (places : Nat × Nat × Nat × Nat) (x y : UInt64) : Array UInt64 :=
  let (i, j, k, l) := places
  let get (place : Nat) : UInt64 := state.getD place 0
  let a := get i + get j + x
  let d := rotateRight64 (get l ^^^ a) 32
  let c := get k + d
  let b := rotateRight64 (get j ^^^ c) 24
  let a := a + b + y
  let d := rotateRight64 (d ^^^ a) 16
  let c := c + d
  let b := rotateRight64 (b ^^^ c) 63
  (((state.setIfInBounds i a).setIfInBounds j b).setIfInBounds k c).setIfInBounds l d

def round (words : Array UInt64) (state : Array UInt64) (index : Nat) : Array UInt64 :=
  let order := (orders.getD (index % 10) []).toArray
  (mixes.zipIdx).foldl (fun state (places, step) =>
    let word (place : Nat) : UInt64 := words.getD (order.getD place 0) 0
    mix state places (word (2 * step)) (word (2 * step + 1))) state

/-- Where every digest starts. -/
def start : List UInt64 := Sha2.squareRoots 0

/-- Takes in a block, given how many bytes there are up to its end. -/
def block (state : List UInt64) (data : Bytes) (count : Nat) (isLast : Bool) : List UInt64 :=
  let words := ((pieces 8 16 data).map fun word => (ofLittleEndian word).toUInt64).toArray
  let lower := (start.zipIdx).map fun (word, place) =>
    if place = 4 then word ^^^ count.toUInt64
    else if place = 6 && isLast then ~~~word
    else word
  let mixed := ((List.range 12).foldl (round words) (state ++ lower).toArray).toList
  List.zipWith (· ^^^ ·) state (List.zipWith (· ^^^ ·) (mixed.take 8) (mixed.drop 8))

/-- Takes in data, block by block. -/
def absorb : Nat → List UInt64 → Nat → Bytes → List UInt64
  | 0, state, _, _ => state
  | fuel + 1, state, count, data =>
    if data.length ≤ 128 then
      block state (data ++ List.replicate (128 - data.length) 0) (count + data.length) true
    else absorb fuel (block state (data.take 128) (count + 128) false) (count + 128) (data.drop 128)

end Blake

/-- The digest of data, with so many bytes. -/
def blake2b (size : Nat) (data : Bytes) : Bytes :=
  let first :=
    match Blake.start with
    | word :: later => (word ^^^ 0x01010000 ^^^ size.toUInt64) :: later
    | [] => []
  ((Blake.absorb (data.length / 128 + 1) first 0 data).flatMap fun word =>
    littleEndian 8 word.toNat).take size

/-!
The digest MD5.
-/

namespace Md5

/-- The constants of the rounds: whole parts of 2^32 times the sines of 1 to 64. -/
def constants : Array UInt32 :=
  #[0xd76aa478, 0xe8c7b756, 0x242070db, 0xc1bdceee, 0xf57c0faf, 0x4787c62a, 0xa8304613, 0xfd469501,
    0x698098d8, 0x8b44f7af, 0xffff5bb1, 0x895cd7be, 0x6b901122, 0xfd987193, 0xa679438e, 0x49b40821,
    0xf61e2562, 0xc040b340, 0x265e5a51, 0xe9b6c7aa, 0xd62f105d, 0x02441453, 0xd8a1e681, 0xe7d3fbc8,
    0x21e1cde6, 0xc33707d6, 0xf4d50d87, 0x455a14ed, 0xa9e3e905, 0xfcefa3f8, 0x676f02d9, 0x8d2a4c8a,
    0xfffa3942, 0x8771f681, 0x6d9d6122, 0xfde5380c, 0xa4beea44, 0x4bdecfa9, 0xf6bb4b60, 0xbebfbc70,
    0x289b7ec6, 0xeaa127fa, 0xd4ef3085, 0x04881d05, 0xd9d4d039, 0xe6db99e5, 0x1fa27cf8, 0xc4ac5665,
    0xf4292244, 0x432aff97, 0xab9423a7, 0xfc93a039, 0x655b59c3, 0x8f0ccc92, 0xffeff47d, 0x85845dd1,
    0x6fa87e4f, 0xfe2ce6e0, 0xa3014314, 0x4e0811a1, 0xf7537e82, 0xbd3af235, 0x2ad7d2bb, 0xeb86d391]

def shifts : Array UInt32 := #[7, 12, 17, 22, 5, 9, 14, 20, 4, 11, 16, 23, 6, 10, 15, 21]

structure Four where
  a : UInt32
  b : UInt32
  c : UInt32
  d : UInt32

def Four.add (left right : Four) : Four :=
  ⟨left.a + right.a, left.b + right.b, left.c + right.c, left.d + right.d⟩

def start : Four := ⟨0x67452301, 0xefcdab89, 0x98badcfe, 0x10325476⟩

def round (words : Array UInt32) (state : Four) (index : Nat) : Four :=
  let ⟨a, b, c, d⟩ := state
  let (mixed, place) :=
    match index / 16 with
    | 0 => ((b &&& c) ||| (~~~b &&& d), index)
    | 1 => ((d &&& b) ||| (~~~d &&& c), (5 * index + 1) % 16)
    | 2 => (b ^^^ c ^^^ d, (3 * index + 5) % 16)
    | _ => (c ^^^ (b ||| ~~~d), (7 * index) % 16)
  let sum := a + mixed + constants.getD index 0 + words.getD place 0
  ⟨d, b + rotateLeft32 sum (shifts.getD (index / 16 * 4 + index % 4) 0), b, c⟩

def block (state : Four) (data : Bytes) : Four :=
  let words := ((pieces 4 16 data).map fun word => (ofLittleEndian word).toUInt32).toArray
  state.add ((List.range 64).foldl (round words) state)

end Md5

/-- The digest of data. -/
def md5 (data : Bytes) : Bytes :=
  let ⟨a, b, c, d⟩ :=
    (paddedPieces 64 (littleEndian 8 (8 * data.length)) data).foldl Md5.block Md5.start
  [a, b, c, d].flatMap fun word => littleEndian 4 word.toNat

/-!
Checksums that are single numbers.
-/

/-- Takes one byte into a cyclic redundancy check. -/
def crcByte (crc : UInt32) (byte : UInt8) : UInt32 :=
  (List.range 8).foldl (fun crc _ =>
    if crc &&& 0x80000000 ≠ 0 then (crc <<< 1) ^^^ 0x04c11db7 else crc <<< 1)
    (crc ^^^ (byte.toUInt32 <<< 24))

/-- The bytes of a length without leading zeros, lowest first. -/
def lengthBytes : Nat → Nat → Bytes
  | 0, _ => []
  | count + 1, value =>
    if value = 0 then [] else (value % 256).toUInt8 :: lengthBytes count (value / 256)

/-- The cyclic redundancy check of data and its length. -/
def crc (data : Bytes) : UInt32 := ~~~((data ++ lengthBytes 8 data.length).foldl crcByte 0)

/-- A sum of 16 bits that is rotated before each byte is added. -/
def rotatedSum (data : Bytes) : Nat :=
  data.foldl (fun sum byte => (sum / 2 + (sum % 2) * 32768 + byte.toNat) % 65536) 0

/-- A sum of all bytes, folded to 16 bits. -/
def foldedSum (data : Bytes) : Nat :=
  let sum := data.foldl (fun sum byte => (sum + byte.toNat) % 4294967296) 0
  let folded := sum % 65536 + sum / 65536
  folded % 65536 + folded / 65536

/-!
Digests by name.
-/

/-- The digests with their names, and the numbers of bits that these name. -/
def table : List (String × (Bytes → Bytes)) :=
  [("MD5", md5), ("SHA1", sha1), ("SHA224", sha224), ("SHA256", sha256), ("SHA384", sha384),
    ("SHA512", sha512), ("BLAKE2b", blake2b 64)]

end Pipework.Digest
