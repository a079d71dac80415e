import Arbor.Encoding.Index
import Arbor.Encoding.Tables.Korean
/-!
EUC-KR, read and written as the Unified Hangul Code: a lead byte 0x81 to 0xFE and a trail byte
0x41 to 0xFE point into the index; ASCII stands for itself.
-/

namespace Arbor.Encoding

def decodeEucKrWith (index : Array Char) : List UInt8 → Option (List Char)
  | [] => some []
  | b :: rest =>
    if b.toNat < 0x80 then (decodeEucKrWith index rest).map (Char.ofNat b.toNat :: ·)
    else if inByteRange b 0x81 0xFE then
      match rest with
      | t :: rest' =>
        if inByteRange t 0x41 0xFE then
          match pointerChar? index ((b.toNat - 0x81) * 190 + (t.toNat - 0x41)) with
          | some c => (decodeEucKrWith index rest').map (c :: ·)
          | none => none
        else none
      | [] => none
    else none

def decodeEucKr (bytes : List UInt8) : Option (List Char) := decodeEucKrWith eucKrIndex bytes

/-- Write a character in EUC-KR. -/
def eucKrBytes? (c : Char) : Option (List UInt8) :=
  if c.toNat < 0x80 then some [c.toNat.toUInt8]
  else (firstPointer? eucKrIndex c).map fun p => bytesOf [p / 190 + 0x81, p % 190 + 0x41]

end Arbor.Encoding
