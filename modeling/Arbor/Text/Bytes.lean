/-!
Byte offsets into text.
-/

namespace Arbor.Text

/-- Split a list of characters at a byte offset, if the offset falls between two characters
(or at either end). -/
def splitAtByte : List Char → Nat → Option (List Char × List Char)
  | cs, 0 => some ([], cs)
  | [], _ + 1 => none
  | c :: cs, n + 1 =>
    if c.utf8Size ≤ n + 1 then
      (splitAtByte cs (n + 1 - c.utf8Size)).map fun (a, b) => (c :: a, b)
    else none

def isCharBoundary (s : String) (n : Nat) : Bool := (splitAtByte s.toList n).isSome

/-- The characters of a text between byte offsets `a` and `b`; empty when either offset
falls inside a character or `b` comes before `a`. -/
def sliceBytes (s : String) (a b : Nat) : String :=
  match splitAtByte s.toList a with
  | some (_, rest) =>
    match splitAtByte rest (b - a) with
    | some (mid, _) => if a ≤ b then String.ofList mid else ""
    | none => ""
  | none => ""

/-- The text before byte offset `n`. -/
def prefixBytes (s : String) (n : Nat) : String :=
  match splitAtByte s.toList n with
  | some (a, _) => String.ofList a
  | none => ""

/-- The text from byte offset `n` on. -/
def suffixBytes (s : String) (n : Nat) : String :=
  match splitAtByte s.toList n with
  | some (_, b) => String.ofList b
  | none => ""

end Arbor.Text
