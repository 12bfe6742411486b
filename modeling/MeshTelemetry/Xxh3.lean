import MeshTelemetry.Bytes

/-!
# The XXH3 digest

XXH3 with 64 bits of output, seed 0 and the published secret. The digest keys the input with the
secret and mixes it in 64-bit words. Short inputs are mixed in one step each, inputs of up to 240
bytes sixteen bytes at a time, and longer ones in stripes of 64 bytes over eight lanes. Arithmetic
wraps.
-/

namespace MeshTelemetry.Xxh3

/-- The published secret of 192 bytes. -/
def secret : Bytes :=
  [
    0xb8, 0xfe, 0x6c, 0x39, 0x23, 0xa4, 0x4b, 0xbe, 0x7c, 0x01, 0x81, 0x2c, 0xf7, 0x21, 0xad, 0x1c,
    0xde, 0xd4, 0x6d, 0xe9, 0x83, 0x90, 0x97, 0xdb, 0x72, 0x40, 0xa4, 0xa4, 0xb7, 0xb3, 0x67, 0x1f,
    0xcb, 0x79, 0xe6, 0x4e, 0xcc, 0xc0, 0xe5, 0x78, 0x82, 0x5a, 0xd0, 0x7d, 0xcc, 0xff, 0x72, 0x21,
    0xb8, 0x08, 0x46, 0x74, 0xf7, 0x43, 0x24, 0x8e, 0xe0, 0x35, 0x90, 0xe6, 0x81, 0x3a, 0x26, 0x4c,
    0x3c, 0x28, 0x52, 0xbb, 0x91, 0xc3, 0x00, 0xcb, 0x88, 0xd0, 0x65, 0x8b, 0x1b, 0x53, 0x2e, 0xa3,
    0x71, 0x64, 0x48, 0x97, 0xa2, 0x0d, 0xf9, 0x4e, 0x38, 0x19, 0xef, 0x46, 0xa9, 0xde, 0xac, 0xd8,
    0xa8, 0xfa, 0x76, 0x3f, 0xe3, 0x9c, 0x34, 0x3f, 0xf9, 0xdc, 0xbb, 0xc7, 0xc7, 0x0b, 0x4f, 0x1d,
    0x8a, 0x51, 0xe0, 0x4b, 0xcd, 0xb4, 0x59, 0x31, 0xc8, 0x9f, 0x7e, 0xc9, 0xd9, 0x78, 0x73, 0x64,
    0xea, 0xc5, 0xac, 0x83, 0x34, 0xd3, 0xeb, 0xc3, 0xc5, 0x81, 0xa0, 0xff, 0xfa, 0x13, 0x63, 0xeb,
    0x17, 0x0d, 0xdd, 0x51, 0xb7, 0xf0, 0xda, 0x49, 0xd3, 0x16, 0x55, 0x26, 0x29, 0xd4, 0x68, 0x9e,
    0x2b, 0x16, 0xbe, 0x58, 0x7d, 0x47, 0xa1, 0xfc, 0x8f, 0xf8, 0xb8, 0xd1, 0x7a, 0xd0, 0x31, 0xce,
    0x45, 0xcb, 0x3a, 0x8f, 0x95, 0x16, 0x04, 0x28, 0xaf, 0xd7, 0xfb, 0xca, 0xbb, 0x4b, 0x40, 0x7e]

def prime32One : UInt64 := 0x9E3779B1
def prime32Two : UInt64 := 0x85EBCA77
def prime32Three : UInt64 := 0xC2B2AE3D
def prime64One : UInt64 := 0x9E3779B185EBCA87
def prime64Two : UInt64 := 0xC2B2AE3D27D4EB4F
def prime64Three : UInt64 := 0x165667B19E3779F9
def prime64Four : UInt64 := 0x85EBCA77C2B2AE63
def prime64Five : UInt64 := 0x27D4EB2F165667C5
def mixPrimeOne : UInt64 := 0x165667919E3779F9
def mixPrimeTwo : UInt64 := 0x9FB21C651E98DF25

/-- The little-endian word of `width` bytes at `start`. -/
def word (width : Nat) (bytes : Bytes) (start : Nat) : UInt64 :=
  UInt64.ofNat (natOfBytesLE ((bytes.drop start).take width))

/-- The first `count` little-endian 64-bit words. -/
def words : Nat → Bytes → List UInt64
  | 0, _ => []
  | count + 1, bytes => word 8 bytes 0 :: words count (bytes.drop 8)

def rotateLeft (value distance : UInt64) : UInt64 :=
  (value <<< distance) ||| (value >>> (64 - distance))

def xorShift (value distance : UInt64) : UInt64 := value ^^^ (value >>> distance)

/-- The two halves of the 128-bit product, folded into one word. -/
def foldedProduct (left right : UInt64) : UInt64 :=
  let product := left.toNat * right.toNat
  UInt64.ofNat product ^^^ UInt64.ofNat (product >>> 64)

def avalanche (value : UInt64) : UInt64 :=
  xorShift (xorShift value 37 * mixPrimeOne) 32

def fullAvalanche (value : UInt64) : UInt64 :=
  xorShift (xorShift (xorShift value 33 * prime64Two) 29 * prime64Three) 32

def reversedBytes (value : UInt64) : UInt64 :=
  UInt64.ofNat (natOfBytesLE (bytesBE 8 value.toNat))

/-- Sixteen bytes of input at `start`, keyed by the secret at `key`. -/
def mixSixteen (input : Bytes) (start key : Nat) : UInt64 :=
  foldedProduct (word 8 input start ^^^ word 8 secret key)
    (word 8 input (start + 8) ^^^ word 8 secret (key + 8))

def digestEmpty : UInt64 :=
  fullAvalanche (word 8 secret 56 ^^^ word 8 secret 64)

/-- One to three bytes: the first, the middle and the last byte, and the length. -/
def digestUpToThree (input : Bytes) (length : Nat) : UInt64 :=
  let combined := (word 1 input 0 <<< 16) ||| (word 1 input (length / 2) <<< 24) |||
    word 1 input (length - 1) ||| (UInt64.ofNat length <<< 8)
  fullAvalanche (combined ^^^ (word 4 secret 0 ^^^ word 4 secret 4))

def digestUpToEight (input : Bytes) (length : Nat) : UInt64 :=
  let both := word 4 input (length - 4) + (word 4 input 0 <<< 32)
  let keyed := both ^^^ (word 8 secret 8 ^^^ word 8 secret 16)
  let mixed := (keyed ^^^ rotateLeft keyed 49 ^^^ rotateLeft keyed 24) * mixPrimeTwo
  xorShift ((mixed ^^^ ((mixed >>> 35) + UInt64.ofNat length)) * mixPrimeTwo) 28

def digestUpToSixteen (input : Bytes) (length : Nat) : UInt64 :=
  let low := word 8 input 0 ^^^ (word 8 secret 24 ^^^ word 8 secret 32)
  let high := word 8 input (length - 8) ^^^ (word 8 secret 40 ^^^ word 8 secret 48)
  avalanche (UInt64.ofNat length + reversedBytes low + high + foldedProduct low high)

/-- Pairs of sixteen bytes from both ends inwards, as many as the length calls for. -/
def digestUpTo128 (input : Bytes) (length : Nat) : UInt64 :=
  let mixed := (List.range ((length - 1) / 32 + 1)).foldl
    (fun sum pair =>
      sum + mixSixteen input (16 * pair) (32 * pair) +
        mixSixteen input (length - 16 * (pair + 1)) (32 * pair + 16))
    (UInt64.ofNat length * prime64One)
  avalanche mixed

def digestUpTo240 (input : Bytes) (length : Nat) : UInt64 :=
  let start := (List.range 8).foldl
    (fun sum round => sum + mixSixteen input (16 * round) (16 * round))
    (UInt64.ofNat length * prime64One)
  let rest := (List.range (length / 16 - 8)).foldl
    (fun sum round => sum + mixSixteen input (16 * (round + 8)) (16 * round + 3))
    (avalanche start)
  avalanche (rest + mixSixteen input (length - 16) 119)

def startLanes : List UInt64 :=
  [prime32Three, prime64One, prime64Two, prime64Three,
    prime64Four, prime32Two, prime64Five, prime32One]

def keyedProduct (value mask : UInt64) : UInt64 :=
  let keyed : UInt64 := value ^^^ mask
  keyed % 0x100000000 * (keyed / 0x100000000)

def swapPairs : List UInt64 → List UInt64
  | first :: second :: rest => second :: first :: swapPairs rest
  | rest => rest

/-- Adds a stripe of eight words, keyed by eight words of the secret, to the lanes. -/
def addStripe (lanes stripe key : List UInt64) : List UInt64 :=
  List.zipWith (· + ·) (List.zipWith (· + ·) lanes (swapPairs stripe))
    (List.zipWith keyedProduct stripe key)

def scramble (lanes : List UInt64) : List UInt64 :=
  List.zipWith (fun lane mask => (xorShift lane 47 ^^^ mask) * prime32One) lanes
    (words 8 (secret.drop 128))

/-- Adds the next `count` stripes; the lanes are scrambled after every sixteenth. -/
def addStripes : Nat → Nat → List UInt64 → Bytes → List UInt64
  | 0, _, lanes, _ => lanes
  | count + 1, index, lanes, input =>
    let added := addStripe lanes (words 8 input) (words 8 (secret.drop (8 * (index % 16))))
    let next := if index % 16 = 15 then scramble added else added
    addStripes count (index + 1) next (input.drop 64)

def mergeLanes : List UInt64 → List UInt64 → UInt64
  | first :: second :: lanes, firstMask :: secondMask :: masks =>
    foldedProduct (first ^^^ firstMask) (second ^^^ secondMask) + mergeLanes lanes masks
  | _, _ => 0

def digestLong (input : Bytes) (length : Nat) : UInt64 :=
  let lanes := addStripes ((length - 1) / 64) 0 startLanes input
  let all := addStripe lanes (words 8 (input.drop (length - 64))) (words 8 (secret.drop 121))
  avalanche (UInt64.ofNat length * prime64One + mergeLanes all (words 8 (secret.drop 11)))

def digest (input : Bytes) : UInt64 :=
  let length := input.length
  if length = 0 then digestEmpty
  else if length ≤ 3 then digestUpToThree input length
  else if length ≤ 8 then digestUpToEight input length
  else if length ≤ 16 then digestUpToSixteen input length
  else if length ≤ 128 then digestUpTo128 input length
  else if length ≤ 240 then digestUpTo240 input length
  else digestLong input length

end MeshTelemetry.Xxh3
