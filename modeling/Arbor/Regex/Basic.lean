import Arbor.Regex.Parse
import Arbor.Regex.Run
import Arbor.Regex.Size
/-!
Compiled regular expressions and their matches in a line, reported as byte ranges.
-/

namespace Arbor

/-- A compiled regular expression: its program, its number of capturing groups besides the whole
match, and its named groups with their indexes. -/
structure Regex where
  program : Regex.Program
  groups : Nat
  names : List (String × Nat)
  deriving Inhabited

namespace Regex

/-- Compile a pattern, case-insensitively when `caseless`. A pattern whose automata would
pass the size limit is refused. -/
def compile (pattern : String) (caseless : Bool) : Except SyntaxError Regex := do
  let p ← parsePattern { caseless } pattern
  if !p.ast.normal.fitsAutomata then throw .automatonTooLarge
  pure ⟨Program.compile p.ast p.groups, p.groups, p.names⟩

def byteOffsets (text : Array Char) : Array Nat :=
  (text.foldl (fun (acc : Array Nat × Nat) c => (acc.1.push acc.2, acc.2 + c.utf8Size)) (#[], 0)) |>
    fun (offs, total) => offs.push total

def charIndexOf (offsets : Array Nat) (byte : Nat) : Option Nat := offsets.findIdx? (· == byte)

/-- Every match of the expression in a line, as byte ranges, empty ones included. -/
def findIter (r : Regex) (line : String) : List (Nat × Nat) :=
  let text := line.toList.toArray
  let offs := byteOffsets text
  (r.program.matches text).map fun (s, e) => (offs.getD s 0, offs.getD e 0)

/-- The groups of the first match at or after byte offset `start` of a line, as byte
ranges: entry 0 is the whole match. -/
def capturesAt (r : Regex) (line : String) (start : Nat) : Option (Array (Option (Nat × Nat))) :=
  let text := line.toList.toArray
  let offs := byteOffsets text
  match charIndexOf offs start with
  | none => none
  | some origin =>
    (r.program.search text origin).map fun caps =>
      (Array.range (r.groups + 1)).map fun g =>
        match caps.getD (2 * g) none, caps.getD (2 * g + 1) none with
        | some s, some e => some (offs.getD s 0, offs.getD e 0)
        | _, _ => none

end Regex

end Arbor
