import Arbor.Tree.Basic
/-!
Docstrings of files, classes and functions.
-/

namespace Arbor

open Arbor.Outline Arbor.Layout Arbor.Text

namespace Docstring

/-- A line, with its line feed removed, that may stand before a docstring: blanks and tabs,
then an optional comment, then an optional carriage return. -/
def isQuiet (segment : String) : Bool :=
  match segment.toList.dropWhile fun c => c == ' ' || c == '\t' with
  | [] => true
  | ['\r'] => true
  | '#' :: _ => true
  | _ => false

/-- The segments of a text (its pieces between line feeds) from the first one that is not a
quiet line followed by a line feed. -/
def fromFirstStatement : List String → List String
  | [] => []
  | [s] => [s]
  | s :: rest => if isQuiet s then fromFirstStatement rest else s :: rest

def untilTriple (q : Char) : List Char → Option (List Char)
  | a :: b :: c :: rest =>
    if a = q ∧ b = q ∧ c = q then some [] else (untilTriple q (b :: c :: rest)).map (a :: ·)
  | _ => none

/-- The contents of a triple-quoted string opening the text, after blanks, tabs and an
optional prefix letter. -/
def openingString? (cs : List Char) : Option (List Char) :=
  let cs := cs.dropWhile fun c => c == ' ' || c == '\t'
  let cs := match cs with
    | p :: q :: rest => if (p == 'r' || p == 'R' || p == 'u' || p == 'U') && (q == '"' || q == '\'') then q :: rest else cs
    | _ => cs
  match cs with
  | q :: q2 :: q3 :: rest =>
    if (q == '"' || q == '\'') && q2 == q && q3 == q then untilTriple q rest else none
  | _ => none

def raw? (body : String) : Option String :=
  let start := "\n".intercalate (fromFirstStatement (body.splitOn "\n"))
  (openingString? start.toList).map String.ofList

/-- The lines of a text cut at line feeds, each without its line feed and then without one
carriage return before it; a text ending in a line feed has no empty last line. -/
def textLines (s : String) : List String :=
  if s.isEmpty then [] else
    let parts := s.splitOn "\n"
    let n := parts.length
    parts.zipIdx.filterMap fun (p, i) =>
      if i + 1 < n then
        some (match p.toList.reverse with
          | '\r' :: rest => String.ofList rest.reverse
          | _ => p)
      else if p.isEmpty then none else some p

/-- A line without up to `margin` characters of leading white space, and without trailing
blanks. -/
def dedentLine (margin : Nat) (line : String) : String :=
  let cs := line.toList
  let cut := (cs.takeWhile isBlank).length
  String.ofList (dropTrailingBlanks (cs.drop (min cut margin)))

/-- Clean a raw docstring: trim its first line, take the common margin off the others, and
drop empty lines at both ends. -/
def clean (raw : String) : String :=
  let lines := textLines raw
  let first := trim (lines.headD "")
  let rest := lines.drop 1
  let widths := (rest.filter fun l => !(allBlank l)).map indentation
  let margin := match widths with
    | [] => 0
    | w :: ws => ws.foldl min w
  let out := first :: rest.map (dedentLine margin)
  let out := (out.reverse.dropWhile (·.isEmpty)).reverse
  "\n".intercalate (out.dropWhile (·.isEmpty))

/-- The body of a class or function: its lines from the first line after the header that
does not continue it, joined by line feeds. -/
def bodyAfterHeader? (text : String) : Option String :=
  let lines := physicalLines text
  let kinds := classify lines
  let pairs := lines.zip kinds
  let isHeader := fun (p : String × LineKind) =>
    match p.2 with
    | .code _ => (dropBlanks p.1.toList).head? != some '@'
    | _ => false
  match pairs.findIdx? isHeader with
  | none => none
  | some h =>
    match (pairs.drop (h + 1)).findIdx? (fun p => p.2 != .continuation) with
    | none => none
    | some k => some ("\n".intercalate (lines.drop (h + 1 + k)))

end Docstring

/-- The docstring of a file, class, function or property, cleaned. -/
def Tree.docstring? (t : Tree) (id : NodeId) : Option String := do
  let text ← t.text? id
  let body ← match t.kind id with
    | .file => some (stripByteOrderMark text)
    | k => if k.isStructural then Docstring.bodyAfterHeader? text else none
  let raw ← Docstring.raw? body
  return Docstring.clean raw

end Arbor
