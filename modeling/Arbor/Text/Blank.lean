/-!
White space in the Unicode sense, and trimming by it.
-/

namespace Arbor.Text

/-- A character is blank when it carries the Unicode `White_Space` property. -/
def isBlank (c : Char) : Bool :=
  let n := c.toNat
  (0x09 ≤ n && n ≤ 0x0D) || n == 0x20 || n == 0x85 || n == 0xA0 || n == 0x1680 ||
    (0x2000 ≤ n && n ≤ 0x200A) || n == 0x2028 || n == 0x2029 || n == 0x202F ||
    n == 0x205F || n == 0x3000

def dropBlanks (cs : List Char) : List Char := cs.dropWhile isBlank

/-- The characters of `cs` before its trailing blanks. -/
def dropTrailingBlanks (cs : List Char) : List Char :=
  (cs.reverse.dropWhile isBlank).reverse

def trimStart (s : String) : String := String.ofList (dropBlanks s.toList)

def trimEnd (s : String) : String := String.ofList (dropTrailingBlanks s.toList)

/-- A text without blanks at either end. -/
def trim (s : String) : String :=
  String.ofList (dropTrailingBlanks (dropBlanks s.toList))

def allBlank (s : String) : Bool := s.toList.all isBlank

end Arbor.Text
