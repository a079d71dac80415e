import Arbor.Encoding.Tables.SingleByte
import Arbor.Encoding.Japanese
import Arbor.Encoding.Korean
import Arbor.Encoding.Chinese
/-!
Reading and writing text in an encoding.
-/

namespace Arbor.Encoding

/-- Characters from UTF-16 code units: a high surrogate must be followed by a low one, and a
low surrogate alone is refused. -/
def ofUnits : List Nat → Option (List Char)
  | [] => some []
  | u :: rest =>
    if u < 0xD800 || u > 0xDFFF then (ofUnits rest).map (Char.ofNat u :: ·)
    else if u ≤ 0xDBFF then
      match rest with
      | l :: rest' =>
        if 0xDC00 ≤ l && l ≤ 0xDFFF then
          (ofUnits rest').map (Char.ofNat (0x10000 + (u - 0xD800) * 0x400 + (l - 0xDC00)) :: ·)
        else none
      | [] => none
    else none

/-- UTF-16 code units from bytes, two bytes a unit; an odd byte at the end is refused. -/
def unitsOf (bigEndian : Bool) : List UInt8 → Option (List Nat)
  | [] => some []
  | [_] => none
  | a :: b :: rest =>
    let unit := if bigEndian then a.toNat * 256 + b.toNat else b.toNat * 256 + a.toNat
    (unitsOf bigEndian rest).map (unit :: ·)

def decodeUtf16 (bigEndian : Bool) (bytes : List UInt8) : Option String :=
  (unitsOf bigEndian bytes).bind ofUnits |>.map String.ofList

def singleByteChar? (upper : Array Nat) (b : UInt8) : Option Char :=
  if b < 0x80 then some (Char.ofNat b.toNat)
  else match upper[b.toNat - 0x80]? with
    | some 0 | none => none
    | some cp => some (Char.ofNat cp)

def singleByteOf? (upper : Array Nat) (c : Char) : Option UInt8 :=
  if c.toNat < 0x80 then some c.toNat.toUInt8
  else (upper.findIdx? (· == c.toNat)).map fun i => (0x80 + i).toUInt8

/-- The character a byte stands for in x-user-defined: ASCII below 0x80, and the private-use
characters from U+F780 on above. -/
def userDefinedChar (b : UInt8) : Char :=
  if b < 0x80 then Char.ofNat b.toNat else Char.ofNat (0xF780 + b.toNat - 0x80)

def userDefinedByte? (c : Char) : Option UInt8 :=
  if c.toNat < 0x80 then some c.toNat.toUInt8
  else if 0xF780 ≤ c.toNat && c.toNat ≤ 0xF7FF then some (c.toNat - 0xF780 + 0x80).toUInt8
  else none

/-- Decode bytes in an encoding, or give none when they are not valid in it. -/
def decode? (e : Encoding) (bytes : ByteArray) : Option String :=
  match e with
  | .utf8 => String.fromUTF8? bytes
  | .utf16le => decodeUtf16 false bytes.toList
  | .utf16be => decodeUtf16 true bytes.toList
  | .userDefined => some (String.ofList (bytes.toList.map userDefinedChar))
  | .replacement => if bytes.isEmpty then some "" else none
  | .shiftJis => (decodeShiftJis bytes.toList).map String.ofList
  | .eucJp => (decodeEucJp bytes.toList).map String.ofList
  | .iso2022Jp => (decodeIso2022Jp bytes.toList).map String.ofList
  | .eucKr => (decodeEucKr bytes.toList).map String.ofList
  | .gbk | .gb18030 => (decodeGb18030 bytes.toList).map String.ofList
  | .big5 => (decodeBig5 bytes.toList).map String.ofList
  | e => match upperHalf? e with
    | some upper => (bytes.toList.mapM (singleByteChar? upper)).map String.ofList
    | none => none

/-- Encode a text in an encoding, or give none when the encoding cannot represent it. -/
def encode? (e : Encoding) (text : String) : Option ByteArray :=
  let byChar := fun (write : Char → Option (List UInt8)) =>
    (text.toList.mapM write).map fun bss => ⟨bss.flatten.toArray⟩
  match e with
  | .utf8 => some text.toUTF8
  | .utf16le | .utf16be | .replacement => none
  | .userDefined => (text.toList.mapM userDefinedByte?).map fun bs => ⟨bs.toArray⟩
  | .shiftJis => byChar shiftJisBytes?
  | .eucJp => byChar eucJpBytes?
  | .iso2022Jp => (encodeIso2022Jp .ascii text.toList).map fun bs => ⟨bs.toArray⟩
  | .eucKr => byChar eucKrBytes?
  | .gbk => byChar (gb18030Bytes? true)
  | .gb18030 => byChar (gb18030Bytes? false)
  | .big5 => byChar big5Bytes?
  | e => match upperHalf? e with
    | some upper => (text.toList.mapM (singleByteOf? upper)).map fun bs => ⟨bs.toArray⟩
    | none => none

end Arbor.Encoding

namespace Arbor

/-- Decode bytes in an encoding. -/
def Encoding.decode (e : Encoding) (bytes : ByteArray) : Except EncodingError String :=
  match e.decode? bytes with
  | some s => .ok s
  | none => .error (.decode e)

/-- Encode a text in an encoding. -/
def Encoding.encode (e : Encoding) (text : String) : Except EncodingError ByteArray :=
  match e.encode? text with
  | some b => .ok b
  | none => .error (.unmappable e)

end Arbor
