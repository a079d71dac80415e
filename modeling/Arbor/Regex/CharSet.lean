import Arbor.Text.Blank
import Arbor.Text.Word
import Arbor.Text.CaseFold
/-!
Sets of characters that one step of a pattern may consume.
-/

namespace Arbor.Regex

open Arbor.Text

/-- A set of characters, described by how it was written. -/
inductive CharSet where
  | range (lo hi : Nat)
  | table (ranges : Array Nat)
  | word (unicode : Bool)
  | digit (unicode : Bool)
  | blank (unicode : Bool)
  | union (a b : CharSet)
  | inter (a b : CharSet)
  | diff (a b : CharSet)
  | symmDiff (a b : CharSet)
  | compl (a : CharSet)
  | folded (a : CharSet)
  | asciiFolded (a : CharSet)
  deriving Inhabited

namespace CharSet

def none : CharSet := .compl (.range 0 0x10FFFF)

def any : CharSet := .range 0 0x10FFFF

def single (c : Char) : CharSet := .range c.toNat c.toNat

def isAsciiWord (n : Nat) : Bool :=
  (0x30 ≤ n && n ≤ 0x39) || (0x41 ≤ n && n ≤ 0x5A) || (0x61 ≤ n && n ≤ 0x7A) || n == 0x5F

/-- An ASCII letter in the other case; any other character unchanged. -/
def swapAsciiCase (c : Char) : Char :=
  if c.isUpper then c.toLower else if c.isLower then c.toUpper else c

/-- Whether a character belongs to the set. -/
def mem : CharSet → Char → Bool
  | range lo hi, c => lo ≤ c.toNat && c.toNat ≤ hi
  | table r, c => inRanges r c.toNat
  | word u, c => if u then isWordChar c else isAsciiWord c.toNat
  | digit u, c => if u then isDecimalDigit c else (0x30 ≤ c.toNat && c.toNat ≤ 0x39)
  | blank u, c => if u then isBlank c else ((0x09 ≤ c.toNat && c.toNat ≤ 0x0D) || c.toNat == 0x20)
  | union a b, c => a.mem c || b.mem c
  | inter a b, c => a.mem c && b.mem c
  | diff a b, c => a.mem c && !b.mem c
  | symmDiff a b, c => a.mem c != b.mem c
  | compl a, c => !a.mem c
  | folded a, c => (caseOrbit c).any a.mem
  | asciiFolded a, c => a.mem c || ((c.isUpper || c.isLower) && a.mem (swapAsciiCase c))

/-- The union of a list of sets. -/
def unionAll : List CharSet → CharSet
  | [] => none
  | [a] => a
  | a :: rest => .union a (unionAll rest)

end CharSet

end Arbor.Regex
