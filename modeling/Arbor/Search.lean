import Arbor.Tree.Basic
import Arbor.Pattern.Basic
import Arbor.Text.Bytes
/-!
Searching a tree line by line.
-/

namespace Arbor

open Arbor.Outline Arbor.Pattern Arbor.Text

/-- A line with at least one match. -/
structure LineMatch where
  owner : String
  node : NodeId
  file : String
  line : Nat
  text : String
  spans : List (Nat × Nat)
  deriving Inhabited

namespace LineMatch

def matched (m : LineMatch) : List String := m.spans.map fun (a, b) => sliceBytes m.text a b

/-- The line with each match wrapped in `openMark` and `closeMark`. -/
def marked (m : LineMatch) (openMark closeMark : String) : String :=
  let (out, cursor) := m.spans.foldl (fun (acc : String × Nat) (a, b) =>
    (acc.1 ++ sliceBytes m.text acc.2 a ++ openMark ++ sliceBytes m.text a b ++ closeMark, b)) ("", 0)
  out ++ suffixBytes m.text cursor

/-- `path:line: 'text'` with matches in angle brackets. -/
def display (m : LineMatch) : String :=
  m.file ++ ":" ++ toString m.line ++ ": '" ++ m.marked "<" ">" ++ "'"

end LineMatch

/-- The lines of `span` that the sorted child spans `delegated` leave to their parent: a
cursor moves past the children that end before each line, and the line is skipped when the
child at the cursor holds it. -/
def ownLines (delegated : List Span) : List Nat → List Nat
  | [] => []
  | line :: rest =>
    let ahead := delegated.dropWhile fun s => s.last < line
    match ahead with
    | s :: _ => if s.contains line then ownLines ahead rest else line :: ownLines ahead rest
    | [] => line :: ownLines ahead rest

/-- The matches of `m` on the lines that node `id` does not leave to a child. -/
def Tree.matchesAt (t : Tree) (m : Matcher) (id : NodeId) : List LineMatch :=
  match t.kind id, t.span? id, t.fileOf? id with
  | .directory, _, _ => []
  | _, some span, some file =>
    let delegated := ((t.children id).filterMap t.span?).mergeSort fun a b => a.first ≤ b.first
    let owner := t.absoluteName (t.owner id)
    (ownLines delegated span.lines).filterMap fun l =>
      match file.line l with
      | some text =>
        let spans := m.findAll text
        if spans.isEmpty then none
        else some { owner, node := id, file := file.path, line := l, text, spans }
      | none => none
  | _, _, _ => []

/-- Every line matching `m` at or below `root`, in pre-order of the nodes that own them. -/
def Tree.findAll (t : Tree) (root : NodeId) (m : Matcher) : List LineMatch :=
  (t.descendants root).flatMap (t.matchesAt m)

end Arbor
