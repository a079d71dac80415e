/-!
Bytes written as hexadecimal text: two lower-case digits a byte. Reading also takes upper-case
digits, and refuses an odd number of digits or any other character.
-/

namespace Arbor.Text

def hexDigitValue? (c : Char) : Option Nat :=
  if '0' ≤ c && c ≤ '9' then some (c.toNat - '0'.toNat)
  else if 'a' ≤ c && c ≤ 'f' then some (c.toNat - 'a'.toNat + 10)
  else if 'A' ≤ c && c ≤ 'F' then some (c.toNat - 'A'.toNat + 10)
  else none

def bytesOfHexDigits : List Char → Option (List UInt8)
  | [] => some []
  | [_] => none
  | a :: b :: rest => do
    let hi ← hexDigitValue? a
    let lo ← hexDigitValue? b
    let tail ← bytesOfHexDigits rest
    pure ((hi * 16 + lo).toUInt8 :: tail)

def ofHex? (s : String) : Option ByteArray := (bytesOfHexDigits s.toList).map fun bs => ⟨bs.toArray⟩

/-- The two lower-case digits of a byte. -/
def hexByte (b : UInt8) : String :=
  let digit := fun (n : Nat) => if n < 10 then Char.ofNat (48 + n) else Char.ofNat (87 + n)
  String.ofList [digit (b.toNat / 16), digit (b.toNat % 16)]

def toHex (bytes : ByteArray) : String := String.join (bytes.toList.map hexByte)

end Arbor.Text
