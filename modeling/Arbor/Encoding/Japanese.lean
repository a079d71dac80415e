import Arbor.Encoding.Index
import Arbor.Encoding.Tables.Japanese
/-!
Shift_JIS, EUC-JP and ISO-2022-JP.
-/

namespace Arbor.Encoding

def halfKatakana (b : UInt8) : Char := Char.ofNat (0xFF61 - 0xA1 + b.toNat)

/-- Read Shift_JIS bytes. -/
def decodeShiftJis : List UInt8 → Option (List Char)
  | [] => some []
  | b :: rest =>
    if b.toNat ≤ 0x80 then (decodeShiftJis rest).map (Char.ofNat b.toNat :: ·)
    else if inByteRange b 0xA1 0xDF then (decodeShiftJis rest).map (halfKatakana b :: ·)
    else if inByteRange b 0x81 0x9F || inByteRange b 0xE0 0xFC then
      match rest with
      | t :: rest' =>
        if inByteRange t 0x40 0x7E || inByteRange t 0x80 0xFC then
          let leadOffset := if b.toNat < 0xA0 then 0x81 else 0xC1
          let offset := if t.toNat < 0x7F then 0x40 else 0x41
          let p := (b.toNat - leadOffset) * 188 + t.toNat - offset
          if 8836 ≤ p && p ≤ 10715 then
            (decodeShiftJis rest').map (Char.ofNat (0xE000 + p - 8836) :: ·)
          else match pointerChar? jis0208 p with
            | some c => (decodeShiftJis rest').map (c :: ·)
            | none => none
        else none
      | [] => none
    else none

/-- Read EUC-JP bytes. -/
def decodeEucJp : List UInt8 → Option (List Char)
  | [] => some []
  | b :: rest =>
    if b.toNat < 0x80 then (decodeEucJp rest).map (Char.ofNat b.toNat :: ·)
    else if b.toNat = 0x8E then
      match rest with
      | t :: rest' => if inByteRange t 0xA1 0xDF then (decodeEucJp rest').map (halfKatakana t :: ·)
        else none
      | [] => none
    else if b.toNat = 0x8F then
      match rest with
      | l :: t :: rest' =>
        if inByteRange l 0xA1 0xFE && inByteRange t 0xA1 0xFE then
          match pointerChar? jis0212 ((l.toNat - 0xA1) * 94 + t.toNat - 0xA1) with
          | some c => (decodeEucJp rest').map (c :: ·)
          | none => none
        else none
      | _ => none
    else if inByteRange b 0xA1 0xFE then
      match rest with
      | t :: rest' =>
        if inByteRange t 0xA1 0xFE then
          match pointerChar? jis0208 ((b.toNat - 0xA1) * 94 + t.toNat - 0xA1) with
          | some c => (decodeEucJp rest').map (c :: ·)
          | none => none
        else none
      | [] => none
    else none

inductive JisMode where
  | ascii
  | roman
  | katakana
  | double
  deriving DecidableEq, Repr

def escapeMode? : List UInt8 → Option (JisMode × List UInt8)
  | a :: b :: rest =>
    if a.toNat = 0x28 && b.toNat = 0x42 then some (.ascii, rest)
    else if a.toNat = 0x28 && b.toNat = 0x4A then some (.roman, rest)
    else if a.toNat = 0x28 && b.toNat = 0x49 then some (.katakana, rest)
    else if a.toNat = 0x24 && (b.toNat = 0x40 || b.toNat = 0x42) then some (.double, rest)
    else none
  | _ => none

theorem escapeMode?_shorter {bs rest : List UInt8} {m : JisMode} (h : escapeMode? bs = some (m, rest)) :
    rest.length < bs.length := by
  match bs with
  | a :: b :: r =>
    -- every escape sequence it recognises is two bytes long
    have hrest : rest = r := by
      simp only [escapeMode?] at h
      repeat' split at h
      all_goals simp only [Option.some.injEq, Prod.mk.injEq, reduceCtorEq] at h
      all_goals exact h.2.symm
    rw [hrest, List.length_cons, List.length_cons]
    omega
  | [] => simp [escapeMode?] at h
  | [_] => simp [escapeMode?] at h

/-- Whether an ASCII byte may stand for itself in ISO-2022-JP: shift-out, shift-in and escape
may not. -/
def jisPlain (b : UInt8) : Bool := b.toNat < 0x80 && b.toNat ≠ 0x0E && b.toNat ≠ 0x0F && b.toNat ≠ 0x1B

/-- Read ISO-2022-JP bytes in a mode, with `index` for JIS X 0208; `fresh` says an escape
sequence was just read, so that another one right after it is refused. -/
def decodeIso2022JpWith (index : Array Char) (mode : JisMode) (fresh : Bool) :
    List UInt8 → Option (List Char)
  | [] => some []
  | b :: rest =>
    if b.toNat = 0x1B then
      match h : escapeMode? rest with
      | some (m, rest') =>
        have := escapeMode?_shorter h
        if fresh then none else decodeIso2022JpWith index m true rest'
      | none => none
    else match mode with
      | .ascii => if jisPlain b then (decodeIso2022JpWith index mode false rest).map (Char.ofNat b.toNat :: ·) else none
      | .roman =>
        if b.toNat = 0x5C then (decodeIso2022JpWith index mode false rest).map ('¥' :: ·)
        else if b.toNat = 0x7E then (decodeIso2022JpWith index mode false rest).map ('‾' :: ·)
        else if jisPlain b then (decodeIso2022JpWith index mode false rest).map (Char.ofNat b.toNat :: ·)
        else none
      | .katakana =>
        if inByteRange b 0x21 0x5F then
          (decodeIso2022JpWith index mode false rest).map (Char.ofNat (0xFF61 - 0x21 + b.toNat) :: ·)
        else none
      | .double =>
        if inByteRange b 0x21 0x7E then
          match rest with
          | t :: rest' =>
            if inByteRange t 0x21 0x7E then
              match pointerChar? index ((b.toNat - 0x21) * 94 + t.toNat - 0x21) with
              | some c => (decodeIso2022JpWith index mode false rest').map (c :: ·)
              | none => none
            else none
          | [] => none
        else none
termination_by bytes => bytes.length
decreasing_by all_goals simp_all <;> omega

/-- Read ISO-2022-JP bytes, starting in ASCII mode. -/
def decodeIso2022Jp (bytes : List UInt8) : Option (List Char) :=
  decodeIso2022JpWith jis0208 .ascii false bytes

/-- The character JIS lookups are made with: the minus sign is looked up as the full-width
hyphen-minus. -/
def jisLookupChar (c : Char) : Char := if c.toNat = 0x2212 then '－' else c

/-- Write a character in Shift_JIS. -/
def shiftJisBytes? (c : Char) : Option (List UInt8) :=
  let cp := c.toNat
  if cp ≤ 0x80 then some [cp.toUInt8]
  else if cp = 0xA5 then some [0x5C]
  else if cp = 0x203E then some [0x7E]
  else if 0xFF61 ≤ cp && cp ≤ 0xFF9F then some [(cp - 0xFF61 + 0xA1).toUInt8]
  else
    (pointerWhere? jis0208 (fun p => p < 8272 || p > 8835) (jisLookupChar c)).map fun p =>
      let lead := p / 188
      let trail := p % 188
      bytesOf [lead + (if lead < 0x1F then 0x81 else 0xC1), trail + (if trail < 0x3F then 0x40 else 0x41)]

/-- Write a character in EUC-JP. -/
def eucJpBytes? (c : Char) : Option (List UInt8) :=
  let cp := c.toNat
  if cp < 0x80 then some [cp.toUInt8]
  else if cp = 0xA5 then some [0x5C]
  else if cp = 0x203E then some [0x7E]
  else if 0xFF61 ≤ cp && cp ≤ 0xFF9F then some [0x8E, (cp - 0xFF61 + 0xA1).toUInt8]
  else (firstPointer? jis0208 (jisLookupChar c)).map fun p => bytesOf [p / 94 + 0xA1, p % 94 + 0xA1]

def escapeFor : JisMode → List UInt8
  | .ascii => [0x1B, 0x28, 0x42]
  | .roman => [0x1B, 0x28, 0x4A]
  | .katakana => [0x1B, 0x28, 0x49]
  | .double => [0x1B, 0x24, 0x42]

/-- Write characters in ISO-2022-JP from a mode; the text ends in ASCII mode. -/
def encodeIso2022Jp (mode : JisMode) : List Char → Option (List UInt8)
  | [] => some (if mode = .ascii then [] else escapeFor .ascii)
  | c :: rest =>
    let cp := c.toNat
    let switchTo := fun (m : JisMode) (out : List UInt8) =>
      (encodeIso2022Jp m rest).map fun tail =>
        (if mode = m then [] else escapeFor m) ++ out ++ tail
    if cp = 0x0E || cp = 0x0F || cp = 0x1B then none
    else if cp < 0x80 then
      if mode = .roman && cp ≠ 0x5C && cp ≠ 0x7E then switchTo .roman [cp.toUInt8]
      else switchTo .ascii [cp.toUInt8]
    else if cp = 0xA5 then switchTo .roman [0x5C]
    else if cp = 0x203E then switchTo .roman [0x7E]
    else
      let wide := if 0xFF61 ≤ cp && cp ≤ 0xFF9F then katakanaWide.getD (cp - 0xFF61) c else c
      match firstPointer? jis0208 (jisLookupChar wide) with
      | some p => switchTo .double (bytesOf [p / 94 + 0x21, p % 94 + 0x21])
      | none => none

end Arbor.Encoding
