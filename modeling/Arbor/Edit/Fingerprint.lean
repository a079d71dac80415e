/-!
64-bit fingerprints of byte strings: the XXH3 hash with seed 0 and its standard secret.
-/

namespace Arbor.Edit

def secret : ByteArray := ⟨#[
  0xb8, 0xfe, 0x6c, 0x39, 0x23, 0xa4, 0x4b, 0xbe, 0x7c, 0x01, 0x81, 0x2c, 0xf7, 0x21, 0xad, 0x1c,
  0xde, 0xd4, 0x6d, 0xe9, 0x83, 0x90, 0x97, 0xdb, 0x72, 0x40, 0xa4, 0xa4, 0xb7, 0xb3, 0x67, 0x1f,
  0xcb, 0x79, 0xe6, 0x4e, 0xcc, 0xc0, 0xe5, 0x78, 0x82, 0x5a, 0xd0, 0x7d, 0xcc, 0xff, 0x72, 0x21,
  0xb8, 0x08, 0x46, 0x74, 0xf7, 0x43, 0x24, 0x8e, 0xe0, 0x35, 0x90, 0xe6, 0x81, 0x3a, 0x26, 0x4c,
  0x3c, 0x28, 0x52, 0xbb, 0x91, 0xc3, 0x00, 0xcb, 0x88, 0xd0, 0x65, 0x8b, 0x1b, 0x53, 0x2e, 0xa3,
  0x71, 0x64, 0x48, 0x97, 0xa2, 0x0d, 0xf9, 0x4e, 0x38, 0x19, 0xef, 0x46, 0xa9, 0xde, 0xac, 0xd8,
  0xa8, 0xfa, 0x76, 0x3f, 0xe3, 0x9c, 0x34, 0x3f, 0xf9, 0xdc, 0xbb, 0xc7, 0xc7, 0x0b, 0x4f, 0x1d,
  0x8a, 0x51, 0xe0, 0x4b, 0xcd, 0xb4, 0x59, 0x31, 0xc8, 0x9f, 0x7e, 0xc9, 0xd9, 0x78, 0x73, 0x64,
  0xea, 0xc5, 0xac, 0x83, 0x34, 0xd3, 0xeb, 0xc3, 0xc5, 0x81, 0xa0, 0xff, 0xfa, 0x13, 0x63, 0xeb,
  0x17, 0x0d, 0xdd, 0x51, 0xb7, 0xf0, 0xda, 0x49, 0xd3, 0x16, 0x55, 0x26, 0x29, 0xd4, 0x68, 0x9e,
  0x2b, 0x16, 0xbe, 0x58, 0x7d, 0x47, 0xa1, 0xfc, 0x8f, 0xf8, 0xb8, 0xd1, 0x7a, 0xd0, 0x31, 0xce,
  0x45, 0xcb, 0x3a, 0x8f, 0x95, 0x16, 0x04, 0x28, 0xaf, 0xd7, 0xfb, 0xca, 0xbb, 0x4b, 0x40, 0x7e]⟩

def prime32a : UInt64 := 0x9E3779B1
def prime32b : UInt64 := 0x85EBCA77
def prime32c : UInt64 := 0xC2B2AE3D
def prime64a : UInt64 := 0x9E3779B185EBCA87
def prime64b : UInt64 := 0xC2B2AE3D27D4EB4F
def prime64c : UInt64 := 0x165667B19E3779F9
def prime64d : UInt64 := 0x85EBCA77C2B2AE63
def prime64e : UInt64 := 0x27D4EB2F165667C5
def primeMx1 : UInt64 := 0x165667919E3779F9
def primeMx2 : UInt64 := 0x9FB21C651E98DF25

def byteAt (b : ByteArray) (i : Nat) : UInt64 := (b.get! i).toUInt64

def read32 (b : ByteArray) (i : Nat) : UInt64 :=
  byteAt b i ||| (byteAt b (i + 1) <<< 8) ||| (byteAt b (i + 2) <<< 16) ||| (byteAt b (i + 3) <<< 24)

def read64 (b : ByteArray) (i : Nat) : UInt64 := read32 b i ||| (read32 b (i + 4) <<< 32)

def rotl (x : UInt64) (r : UInt64) : UInt64 := (x <<< r) ||| (x >>> (64 - r))

def swap64 (x : UInt64) : UInt64 :=
  (List.range 8).foldl (fun acc i => acc ||| (((x >>> (8 * i.toUInt64)) &&& 0xFF) <<< (56 - 8 * i.toUInt64))) 0

def wordRange : Nat := 18446744073709551616

def mulFold (a b : UInt64) : UInt64 :=
  let p := a.toNat * b.toNat
  (p % wordRange).toUInt64 ^^^ (p / wordRange).toUInt64

def avalanche64 (h : UInt64) : UInt64 :=
  let h := h ^^^ (h >>> 33)
  let h := h * prime64b
  let h := h ^^^ (h >>> 29)
  let h := h * prime64c
  h ^^^ (h >>> 32)

def avalanche (h : UInt64) : UInt64 :=
  let h := h ^^^ (h >>> 37)
  let h := h * primeMx1
  h ^^^ (h >>> 32)

def rrmxmx (h : UInt64) (len : UInt64) : UInt64 :=
  let h := h ^^^ (rotl h 49 ^^^ rotl h 24)
  let h := h * primeMx2
  let h := h ^^^ ((h >>> 35) + len)
  let h := h * primeMx2
  h ^^^ (h >>> 28)

def mix16 (input : ByteArray) (i s : Nat) : UInt64 :=
  mulFold (read64 input i ^^^ read64 secret s) (read64 input (i + 8) ^^^ read64 secret (s + 8))

def hashShort (input : ByteArray) : UInt64 :=
  let len := input.size
  if len = 0 then avalanche64 (read64 secret 56 ^^^ read64 secret 64)
  else if len ≤ 3 then
    let c1 := byteAt input 0
    let c2 := byteAt input (len / 2)
    let c3 := byteAt input (len - 1)
    let combined := (c1 <<< 16) ||| (c2 <<< 24) ||| c3 ||| (len.toUInt64 <<< 8)
    avalanche64 (combined ^^^ (read32 secret 0 ^^^ read32 secret 4))
  else if len ≤ 8 then
    let input1 := read32 input 0
    let input2 := read32 input (len - 4)
    let keyed := (input2 + (input1 <<< 32)) ^^^ (read64 secret 8 ^^^ read64 secret 16)
    rrmxmx keyed len.toUInt64
  else
    let lo := read64 input 0 ^^^ (read64 secret 24 ^^^ read64 secret 32)
    let hi := read64 input (len - 8) ^^^ (read64 secret 40 ^^^ read64 secret 48)
    avalanche (len.toUInt64 + swap64 lo + hi + mulFold lo hi)

def hashMedium (input : ByteArray) : UInt64 :=
  let len := input.size
  let pairs := [(0, 0), (16, 32), (32, 64), (48, 96)].filter fun (k, _) => k = 0 ∨ len > 2 * k
  let acc := pairs.reverse.foldl (fun acc (k, s) =>
    acc + mix16 input k s + mix16 input (len - k - 16) (s + 16)) (len.toUInt64 * prime64a)
  avalanche acc

def hashLarge (input : ByteArray) : UInt64 :=
  let len := input.size
  let acc := (List.range 8).foldl (fun acc i => acc + mix16 input (16 * i) (16 * i)) (len.toUInt64 * prime64a)
  let accEnd := mix16 input (len - 16) 119
  let acc := avalanche acc
  let accEnd := (List.range (len / 16 - 8)).foldl
    (fun a k => a + mix16 input (16 * (k + 8)) (16 * k + 3)) accEnd
  avalanche (acc + accEnd)

def accumulateStripe (input : ByteArray) (i s : Nat) (acc : Array UInt64) : Array UInt64 :=
  (List.range 8).foldl (fun (acc : Array UInt64) k =>
    let v := read64 input (i + 8 * k)
    let key := v ^^^ read64 secret (s + 8 * k)
    let low : UInt64 := key % 0x100000000
    let high : UInt64 := key >>> 32
    let acc := acc.modify (Nat.xor k 1) fun a => a + v
    acc.modify k fun a => a + low * high) acc

def scramble (acc : Array UInt64) : Array UInt64 :=
  (List.range 8).foldl (fun (acc : Array UInt64) k => acc.modify k fun a =>
    let a := a ^^^ (a >>> 47)
    let a := a ^^^ read64 secret (128 + 8 * k)
    a * prime32a) acc

def hashLong (input : ByteArray) : UInt64 :=
  let len := input.size
  let blockLen := 1024
  let blocks := (len - 1) / blockLen
  let acc0 : Array UInt64 := #[prime32c, prime64a, prime64b, prime64c, prime64d, prime32b, prime64e, prime32a]
  let stripes := fun (acc : Array UInt64) (start n : Nat) =>
    (List.range n).foldl (fun acc k => accumulateStripe input (start + 64 * k) (8 * k) acc) acc
  let acc := (List.range blocks).foldl (fun acc b => scramble (stripes acc (b * blockLen) 16)) acc0
  let acc := stripes acc (blocks * blockLen) (((len - 1) - blockLen * blocks) / 64)
  let acc := accumulateStripe input (len - 64) (192 - 64 - 7) acc
  let merged := (List.range 4).foldl (fun r k =>
    r + mulFold (acc.getD (2 * k) 0 ^^^ read64 secret (11 + 16 * k))
      (acc.getD (2 * k + 1) 0 ^^^ read64 secret (11 + 16 * k + 8))) (len.toUInt64 * prime64a)
  avalanche merged

/-- The 64-bit fingerprint of a byte string. -/
def fingerprintBytes (input : ByteArray) : UInt64 :=
  if input.size ≤ 16 then hashShort input
  else if input.size ≤ 128 then hashMedium input
  else if input.size ≤ 240 then hashLarge input
  else hashLong input

def fingerprint (text : String) : UInt64 := fingerprintBytes text.toUTF8

end Arbor.Edit
