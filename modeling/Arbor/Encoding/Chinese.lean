import Arbor.Encoding.Index
import Arbor.Encoding.Tables.Simplified
import Arbor.Encoding.Tables.Traditional
/-!
gb18030, GBK and Big5.
-/

namespace Arbor.Encoding

/-- The characters that the 2022 revision of GB18030 gave two-byte sequences, each with the
private-use character that held that sequence before and now holds the character's four-byte
sequence. Written out, the private-use character keeps the two-byte sequence. -/
def gb18030Exchanged : List (Nat × Nat) :=
  [(0xFE10, 0xE78D), (0xFE12, 0xE78E), (0xFE11, 0xE78F), (0xFE13, 0xE790), (0xFE14, 0xE791),
   (0xFE15, 0xE792), (0xFE16, 0xE793), (0xFE17, 0xE794), (0xFE18, 0xE795), (0xFE19, 0xE796),
   (0x9FB4, 0xE81E), (0x9FB5, 0xE826), (0x9FB6, 0xE82B), (0x9FB7, 0xE82C), (0x9FB8, 0xE832),
   (0x9FB9, 0xE843), (0x9FBA, 0xE854), (0x9FBB, 0xE864)]

def rangesChar? (ranges : Array (Nat × Nat)) (p : Nat) : Option Char :=
  if (39419 < p && p < 189000) || p > 1237575 then none
  else if p = 7457 then some (Char.ofNat 0xE7C7)
  else if p ≥ 189000 then some (Char.ofNat (0x10000 + p - 189000))
  else
    match ranges.toList.foldl (fun acc (q, c) => if q ≤ p then some (q, c) else acc) none with
    | some (q, c) =>
      let cp := c + p - q
      some (Char.ofNat (((gb18030Exchanged.find? (·.1 == cp)).map (·.2)).getD cp))
    | none => none

def rangesPointer (ranges : Array (Nat × Nat)) (c : Char) : Nat :=
  let cp := c.toNat
  if cp = 0xE7C7 then 7457
  else if cp ≥ 0x10000 then 189000 + cp - 0x10000
  else
    match ranges.toList.foldl (fun acc (q, d) => if d ≤ cp then some (q, d) else acc) none with
    | some (q, d) => q + cp - d
    | none => 0

def decodeGb18030With (index : Array Char) (ranges : Array (Nat × Nat)) :
    List UInt8 → Option (List Char)
  | [] => some []
  | b :: rest =>
    if b.toNat < 0x80 then (decodeGb18030With index ranges rest).map (Char.ofNat b.toNat :: ·)
    else if b.toNat = 0x80 then (decodeGb18030With index ranges rest).map ('€' :: ·)
    else if inByteRange b 0x81 0xFE then
      match rest with
      | s :: rest1 =>
        if inByteRange s 0x30 0x39 then
          match rest1 with
          | t :: u :: rest' =>
            if inByteRange t 0x81 0xFE && inByteRange u 0x30 0x39 then
              let p := (((b.toNat - 0x81) * 10 + s.toNat - 0x30) * 126 + t.toNat - 0x81) * 10 +
                u.toNat - 0x30
              match rangesChar? ranges p with
              | some c => (decodeGb18030With index ranges rest').map (c :: ·)
              | none => none
            else none
          | _ => none
        else if inByteRange s 0x40 0x7E || inByteRange s 0x80 0xFE then
          let offset := if s.toNat < 0x7F then 0x40 else 0x41
          match pointerChar? index ((b.toNat - 0x81) * 190 + s.toNat - offset) with
          | some c => (decodeGb18030With index ranges rest1).map (c :: ·)
          | none => none
        else none
      | [] => none
    else none

/-- Read gb18030 (or GBK) bytes. -/
def decodeGb18030 (bytes : List UInt8) : Option (List Char) :=
  decodeGb18030With gb18030Index gb18030Ranges bytes

/-- Write a character in gb18030, or in GBK when `gbk` holds. -/
def gb18030Bytes? (gbk : Bool) (c : Char) : Option (List UInt8) :=
  let cp := c.toNat
  if cp < 0x80 then some [cp.toUInt8]
  else if cp = 0xE5E5 then none
  else if gbk && cp = 0x20AC then some [0x80]
  else
    -- a private-use character that gave its two-byte sequence away still writes it
    let c := match gb18030Exchanged.find? (·.2 == cp) with
      | some (standard, _) => Char.ofNat standard
      | none => c
    match firstPointer? gb18030Index c with
      | some p =>
        let trail := p % 190
        some (bytesOf [p / 190 + 0x81, trail + (if trail < 0x3F then 0x40 else 0x41)])
      | none =>
        if gbk then none else
        let p := rangesPointer gb18030Ranges c
        some (bytesOf [p / 12600 + 0x81, p % 12600 / 1260 + 0x30, p % 1260 / 10 + 0x81,
          p % 10 + 0x30])

/-- The two characters of the four Big5 pointers that stand for a letter with a combining
mark. -/
def big5Pair? (p : Nat) : Option (List Char) :=
  if p = 1133 then some ['Ê', Char.ofNat 0x304]
  else if p = 1135 then some ['Ê', Char.ofNat 0x30C]
  else if p = 1164 then some ['ê', Char.ofNat 0x304]
  else if p = 1166 then some ['ê', Char.ofNat 0x30C]
  else none

def decodeBig5With (index : Array Char) : List UInt8 → Option (List Char)
  | [] => some []
  | b :: rest =>
    if b.toNat < 0x80 then (decodeBig5With index rest).map (Char.ofNat b.toNat :: ·)
    else if inByteRange b 0x81 0xFE then
      match rest with
      | t :: rest' =>
        if inByteRange t 0x40 0x7E || inByteRange t 0xA1 0xFE then
          let offset := if t.toNat < 0x7F then 0x40 else 0x62
          let p := (b.toNat - 0x81) * 157 + (t.toNat - offset)
          match big5Pair? p with
          | some cs => (decodeBig5With index rest').map (cs ++ ·)
          | none =>
            match pointerChar? index p with
            | some c => (decodeBig5With index rest').map (c :: ·)
            | none => none
        else none
      | [] => none
    else none

def decodeBig5 (bytes : List UInt8) : Option (List Char) := decodeBig5With big5Index bytes

def big5TakesLast (c : Char) : Bool :=
  [0x2550, 0x255E, 0x2561, 0x256A, 0x5341, 0x5345].contains c.toNat

/-- The pointer Big5 writes a character with: among pointers from lead byte 0xA1 on, the first,
or the last for the characters `big5TakesLast` names. -/
def big5Pointer? (c : Char) : Option Nat :=
  let start := (0xA1 - 0x81) * 157
  if big5TakesLast c then
    ((List.range big5Index.size).filter fun p => p ≥ start && big5Index[p]? == some c).getLast?
  else pointerWhere? big5Index (· ≥ start) c

/-- Write a character in Big5. -/
def big5Bytes? (c : Char) : Option (List UInt8) :=
  if c.toNat < 0x80 then some [c.toNat.toUInt8]
  else (big5Pointer? c).map fun p =>
    let trail := p % 157
    bytesOf [p / 157 + 0x81, trail + (if trail < 0x3F then 0x40 else 0x62)]

end Arbor.Encoding
