import Arbor.Regex.Interval
/-!
UTF-8 encodings of intervals of characters, as sequences of byte ranges.
-/

namespace Arbor.Regex

def utf8Bytes (n : Nat) : List Nat :=
  if n < 0x80 then [n]
  else if n < 0x800 then [0xC0 + n / 64, 0x80 + n % 64]
  else if n < 0x10000 then [0xE0 + n / 4096, 0x80 + n / 64 % 64, 0x80 + n % 64]
  else [0xF0 + n / 262144, 0x80 + n / 4096 % 64, 0x80 + n / 64 % 64, 0x80 + n % 64]

/-- The number of UTF-8 bytes of a code point. -/
def utf8Length (n : Nat) : Nat :=
  if n < 0x80 then 1 else if n < 0x800 then 2 else if n < 0x10000 then 3 else 4

abbrev ByteSeq := List (Nat × Nat)

def lengthBounds : List Nat := [0x7F, 0x7FF, 0xFFFF]

def blockSizes : List Nat := [64, 4096, 262144]

/-- Where an interval that needs cutting is cut: the upper end of its first piece. -/
def cutPoint? (lo hi : Nat) : Option Nat :=
  if lo < 0xE000 && 0xD7FF < hi then some 0xD7FF
  else match lengthBounds.find? (fun m => lo ≤ m && m < hi) with
  | some m => some m
  | none =>
    if hi ≤ 0x7F then none
    else blockSizes.findSome? fun p =>
      if lo / p != hi / p then
        if lo % p != 0 then some (lo - lo % p + p - 1)
        else if hi % p != p - 1 then some (hi - hi % p - 1)
        else none
      else none

def byteSeqsWith : Nat → Nat → Nat → List ByteSeq
  | 0, _, _ => []
  | fuel + 1, lo, hi =>
    if hi < lo then []
    else match cutPoint? lo hi with
      | some m =>
        -- the surrogates between two pieces are no characters
        let next := if m == 0xD7FF then max (m + 1) 0xE000 else m + 1
        byteSeqsWith fuel lo m ++ byteSeqsWith fuel next hi
      | none => [(utf8Bytes lo).zip (utf8Bytes hi)]

/-- The byte-range sequences of the characters from `lo` to `hi`. Cuts nest at most six
deep, so sixteen levels always suffice. -/
def byteSeqs (lo hi : Nat) : List ByteSeq := byteSeqsWith 16 lo hi

end Arbor.Regex
