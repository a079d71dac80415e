import Arbor.Tree.Basic
/-!
Import statements.
-/

namespace Arbor

open Arbor.Outline Arbor.Layout Arbor.Text

/-- One imported name. -/
structure Import where
  module : String
  source : Option String
  name : String
  asName : Option String
  typeChecking : Bool
  line : Nat
  deriving Inhabited, DecidableEq

namespace Import

/-- The name the import binds in the importing module: its alias, else the imported name
for a `from` import, else the first component of the imported module. -/
def boundName (i : Import) : String :=
  match i.asName, i.source with
  | some a, _ => a
  | none, some _ => i.name
  | none, none => ((i.name.splitOn ".").headD i.name)

/-- The statement that makes the import, in its shortest form. -/
def display (i : Import) : String :=
  (match i.source with
    | some s => "from " ++ s ++ " "
    | none => "") ++ "import " ++ i.name ++
  (match i.asName with
    | some a => " as " ++ a
    | none => "")

end Import

/-- The fields imports can be grouped by. -/
inductive ImportField where
  | module
  | source
  | name
  | asName
  | typeChecking
  deriving DecidableEq, Inhabited

/-- The value of a field, as grouping sees it. -/
def Import.field (i : Import) : ImportField → Option String
  | .module => some i.module
  | .source => i.source
  | .name => some i.name
  | .asName => i.asName
  | .typeChecking => some (if i.typeChecking then "true" else "false")

/-- A logical line: where it starts, its indentation and its joined text. -/
structure Statement where
  line : Nat
  indent : Nat
  text : String
  deriving Inhabited

def stripComment (line : String) : String := String.ofList (line.toList.takeWhile (· != '#'))

/-- The part of a line a statement keeps: without comment, trimmed. -/
def statementPart (line : String) : String := trim (stripComment line)

/-- Absorb the lines that continue a statement: continuation lines, and any line after one
ending in a backslash. -/
def absorb (joined : String) : List (String × LineKind) → String × List (String × LineKind)
  | [] => (joined, [])
  | (line, kind) :: rest =>
    if kind == .continuation || joined.endsWith "\\" then
      let base := if joined.endsWith "\\" then String.ofList joined.toList.dropLast else joined
      absorb (base ++ " " ++ statementPart line) rest
    else (joined, (line, kind) :: rest)

theorem absorb_length (joined : String) (ls : List (String × LineKind)) :
    (absorb joined ls).2.length ≤ ls.length := by
  induction ls generalizing joined with
  | nil => simp [absorb]
  | cons p rest ih =>
    simp only [absorb]
    split
    · exact Nat.le_succ_of_le (ih _)
    · simp

/-- The statements of numbered lines with their kinds, from line `n` on. -/
def statementsFrom (n : Nat) : List (String × LineKind) → List Statement
  | [] => []
  | (line, kind) :: rest =>
    match kind with
    | .code indent =>
      match h : absorb (statementPart line) rest with
      | (text, after) =>
        have : after.length < rest.length + 1 := by
          have hl := absorb_length (statementPart line) rest
          rw [h] at hl
          simp at hl
          omega
        ⟨n, indent, text⟩ :: statementsFrom (n + rest.length + 1 - after.length) after
    | _ => statementsFrom (n + 1) rest
termination_by ls => ls.length

/-- The statements of a text. -/
def statements (text : String) : List Statement :=
  let lines := match physicalLines text with
    | first :: rest => stripByteOrderMark first :: rest
    | [] => []
  statementsFrom 1 (lines.zip (classify lines))

def afterWord? (kw : String) (cs : List Char) : Option (List Char) :=
  if kw.toList.isPrefixOf cs then
    match cs.drop kw.length with
    | c :: rest => if isBlank c then some (dropBlanks rest) else none
    | [] => none
  else none

def isModuleChar (c : Char) : Bool := isWordChar c || c == '.'

/-- The imported names of one statement, with aliases: a name is a dotted name or `*`,
optionally followed by `as` and a word. -/
def importedName? (s : List Char) : Option (String × Option String) :=
  let name := if s.head? == some '*' then ['*'] else s.takeWhile isModuleChar
  if name.isEmpty then none else
    match s.drop name.length with
    | [] => some (String.ofList name, none)
    | rest =>
      match (afterWord? "" rest) with
      | some r =>
        match afterWord? "as" r with
        | some a =>
          if !a.isEmpty && a.all isWordChar then some (String.ofList name, some (String.ofList a)) else none
        | none => none
      | none => none

/-- The module and names of an import statement: `from m import names` or
`import names`. -/
def importParts? (s : List Char) : Option (Option String × List Char) :=
  match afterWord? "from" s with
  | some r =>
    let m := r.takeWhile isModuleChar
    if m.isEmpty then none else
      match afterWord? "" (r.drop m.length) with
      | some r2 =>
        match afterWord? "import" r2 with
        | some names => if names.isEmpty then none else some (some (String.ofList m), names)
        | none => none
      | none => none
  | none =>
    match afterWord? "import" s with
    | some names => if names.isEmpty then none else some (none, names)
    | none => none

/-- The `(source, name, alias)` of every name imported by one simple statement. -/
def parseImport (statement : String) : List (Option String × String × Option String) :=
  match importParts? statement.toList with
  | none => []
  | some (source, names) =>
    let names := dropTrailingBlanks (dropBlanks names)
    let names := names.dropWhile (· == '(')
    let names := (names.reverse.dropWhile (· == ')')).reverse
    ((String.ofList names).splitOn ",").filterMap fun part =>
      let part := trim part
      if part.isEmpty then none else
        (importedName? part.toList).map fun (n, a) => (source, n, a)

/-- The body of a `TYPE_CHECKING` guard statement: what follows its colon. -/
def guardBody? (text : String) : Option String :=
  match afterWord? "if" text.toList with
  | some r =>
    let r := if "typing.".toList.isPrefixOf r then r.drop 7 else r
    if "TYPE_CHECKING".toList.isPrefixOf r then
      match dropBlanks (r.drop 13) with
      | ':' :: rest => some (String.ofList (dropBlanks rest))
      | _ => none
    else none
  | none => none

/-- The imports of a file's text, for the module named `module`. -/
def fileImports (module : String) (text : String) : List Import :=
  let step := fun (acc : Option Nat × List Import) (st : Statement) =>
    let (guard, out) := acc
    let guard := match guard with
      | some level => if st.indent ≤ level then none else some level
      | none => none
    let (guard, body, tc) := match guardBody? st.text with
      | some b => (some (guard.getD st.indent), b, true)
      | none => (guard, st.text, guard.isSome)
    let found := (body.splitOn ";").flatMap fun part =>
      (parseImport (trim part)).map fun (source, name, asName) =>
        { module, source, name, asName, typeChecking := tc, line := st.line : Import }
    (guard, out ++ found)
  ((statements text).foldl step (none, [])).2

/-- The files below a directory, in pre-order, at most `fuel` levels deep. -/
def Tree.filesBelow (t : Tree) : Nat → NodeId → List Nat
  | 0, _ => []
  | _, .unit f _ => [f]
  | fuel + 1, .dir d => (t.children (.dir d)).flatMap (t.filesBelow fuel)

/-- The imports made at or below a node: a directory collects its structured files in
pre-order, and a node inside a file keeps the statements that start within its span. -/
def Tree.imports (t : Tree) (id : NodeId) : List Import :=
  let files := match id with
    | .dir _ => t.filesBelow (t.size + 1) id
    | .unit f _ => [f]
  let span := t.span? id
  files.flatMap fun f =>
    match t.files[f]? with
    | some file =>
      if !file.structured then [] else
        (fileImports (t.absoluteName (.fileRoot f)) file.text).filter fun i =>
          match span with
          | some s => s.contains i.line
          | none => true
    | none => []

/-- Order on group keys: field by field, an absent value before any text. -/
def keyLt : List (Option String) → List (Option String) → Bool
  | [], [] => false
  | [], _ :: _ => true
  | _ :: _, [] => false
  | a :: as, b :: bs =>
    match a, b with
    | none, none => keyLt as bs
    | none, some _ => true
    | some _, none => false
    | some x, some y => if x < y then true else if y < x then false else keyLt as bs

/-- Imports grouped by their values of the given fields: each distinct key with the
positions of its imports in order, keys in ascending order. -/
def groupImports (imports : List Import) (fields : List ImportField) : List (List (Option String) × List Nat) :=
  let keyed := imports.zipIdx.map fun (i, n) => (fields.map i.field, n)
  let groups := keyed.foldl (fun (acc : List (List (Option String) × List Nat)) (k, n) =>
    if acc.any (·.1 == k) then acc.map fun (k', ns) => if k' == k then (k', ns ++ [n]) else (k', ns)
    else acc ++ [(k, [n])]) []
  groups.mergeSort fun a b => !keyLt b.1 a.1

end Arbor
