import Arbor.Layout.Line
import Arbor.Outline.Node
import Arbor.Outline.Header
/-!
The outline of a file, read from the indentation of its lines.
-/

namespace Arbor.Outline

open Arbor.Layout Arbor.Text

/-- A run of decorator lines waiting for the header they decorate. -/
structure Decorators where
  start : Nat
  indent : Nat
  names : Array String
  deriving Repr, Inhabited

/-- The parser's state between two lines. -/
structure ParseState where
  nodes : Array Node
  stack : List Nat
  pending : Option Decorators
  deriving Inhabited

/-- For every line, the indentation of the first code line after it. -/
def nextCodeIndents (kinds : List LineKind) : List (Option Nat) :=
  (kinds.foldr (fun k (acc : List (Option Nat) × Option Nat) =>
    (acc.2 :: acc.1, match k with
      | .code i => some i
      | _ => acc.2)) ([], none)).1

/-- The indentation at which a line closes open nodes: its own for a code line, the greater
of its own and the next code line's for a comment, none for blank and continuation lines. -/
def closingLevel : LineKind → Option Nat → Option Nat
  | .code i, _ => some i
  | .comment i, next => some (max i (next.getD 0))
  | _, _ => none

/-- Close every open node whose indentation is at least `level`, ending it on line `last`. -/
def closeOpen (level last : Nat) : List Nat → Array Node → List Nat × Array Node
  | [], nodes => ([], nodes)
  | top :: rest, nodes =>
    if level > (nodes.getD top default).indent then (top :: rest, nodes)
    else
      closeOpen level last rest
        (nodes.modify top fun n => { n with span := { n.span with last := last } })

/-- A decorator joins the pending run if it has the run's indentation, and starts a new run
otherwise. -/
def Decorators.extend (pending : Option Decorators) (line indent : Nat) (name : String) :
    Decorators :=
  match pending with
  | some p => if p.indent = indent then { p with names := p.names.push name } else ⟨line, indent, #[name]⟩
  | none => ⟨line, indent, #[name]⟩

/-- Read one code line, numbered `line`, of a file of `total` lines. -/
def ParseState.codeLine (isProperty : String → Bool) (total line indent : Nat)
    (trimmed : List Char) (st : ParseState) : ParseState :=
  match decorator? trimmed with
  | some d => { st with pending := some (Decorators.extend st.pending line indent d) }
  | none =>
    let decorators := st.pending
    let st := { st with pending := none }
    match header? trimmed with
    | none => st
    | some h =>
      let (start, names) := match decorators with
        | some p => if p.indent = indent then (p.start, p.names) else (line, #[])
        | none => (line, #[])
      let (kind, name) := match h with
        | .classDef n => (Kind.classDef, n)
        | .function n => (if names.any isProperty then Kind.property else Kind.function, n)
      let parent := st.stack.head?.getD 0
      let id := st.nodes.size
      let node : Node := { kind, name, span := ⟨start, total⟩, indent, parent := some parent }
      { st with
        nodes := (st.nodes.push node).modify parent fun n => { n with children := n.children.push id }
        stack := id :: st.stack }

/-- Read one line, numbered `line`, with its kind and the indentation of the next code line. -/
def ParseState.readLine (isProperty : String → Bool) (total line : Nat) (text : String)
    (kind : LineKind) (next : Option Nat) (st : ParseState) : ParseState :=
  let st := match closingLevel kind next with
    | some level =>
      let (stack, nodes) := closeOpen level (line - 1) st.stack st.nodes
      { st with stack, nodes }
    | none => st
  match kind with
  | .code indent => st.codeLine isProperty total line indent (dropTrailingBlanks (dropBlanks text.toList))
  | _ => st

/-- Read the lines numbered from `line` on. -/
def ParseState.readLines (isProperty : String → Bool) (total : Nat) :
    Nat → List (String × LineKind × Option Nat) → ParseState → ParseState
  | _, [], st => st
  | line, (text, kind, next) :: rest, st =>
    ParseState.readLines isProperty total (line + 1) rest (st.readLine isProperty total line text kind next)

/-- Append a content node under `parent` for lines `first` to `last`, and give its position. -/
def pushContent (parent first last : Nat) (nodes : Array Node) : Nat × Array Node :=
  (nodes.size, nodes.push { kind := .content, name := "", span := ⟨first, last⟩, indent := 0, parent := some parent })

/-- Give node `idx` content children for the lines its children leave uncovered; nodes other
than the file that have no children are left alone. -/
def fillNode (nodes : Array Node) (idx : Nat) : Array Node :=
  let node := nodes.getD idx default
  if idx ≠ 0 ∧ node.children.isEmpty then nodes
  else
    let step := fun (acc : Array Nat × Nat × Array Node) (child : Nat) =>
      let (filled, cursor, nodes) := acc
      let span := (nodes.getD child default).span
      let (filled, nodes) :=
        if span.first > cursor then
          let (id, nodes) := pushContent idx cursor (span.first - 1) nodes
          (filled.push id, nodes)
        else (filled, nodes)
      (filled.push child, span.last + 1, nodes)
    let (filled, cursor, nodes) := node.children.foldl step (#[], node.span.first, nodes)
    let (filled, nodes) :=
      if cursor ≤ node.span.last then
        let (id, nodes) := pushContent idx cursor node.span.last nodes
        (filled.push id, nodes)
      else (filled, nodes)
    let (filled, nodes) :=
      if filled.isEmpty then
        let (id, nodes) := pushContent idx 1 0 nodes
        (filled.push id, nodes)
      else (filled, nodes)
    nodes.modify idx fun n => { n with children := filled }

/-- Fill every node of the table built by the parser, in table order. -/
def fillContent (nodes : Array Node) : Array Node :=
  (List.range nodes.size).foldl fillNode nodes

/-- The outline of a file named `name` made of the given physical lines. -/
def parseLines (isProperty : String → Bool) (name : String) (lines : List String) : Array Node :=
  let kinds := classify lines
  let total := lines.length
  let root : Node := { kind := .file, name, span := ⟨1, total⟩, indent := 0, parent := none }
  let st := ParseState.readLines isProperty total 1 (lines.zip (kinds.zip (nextCodeIndents kinds)))
    { nodes := #[root], stack := [], pending := none }
  fillContent st.nodes

/-- A line without a leading byte order mark. -/
def stripByteOrderMark (line : String) : String :=
  match line.toList with
  | '\uFEFF' :: rest => String.ofList rest
  | _ => line

/-- The outline of a text, as the file named `name`: its physical lines, the first without
a byte order mark, read by `parseLines`. -/
def parse (isProperty : String → Bool) (name : String) (text : String) : Array Node :=
  let lines := match physicalLines text with
    | first :: rest => stripByteOrderMark first :: rest
    | [] => []
  parseLines isProperty name lines

/-- The decorator names that make a function a property unless a parser is told otherwise. -/
def defaultPropertyMarkers : List String := ["property", "cached_property", "functools.cached_property"]

end Arbor.Outline
