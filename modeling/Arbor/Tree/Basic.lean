import Arbor.Outline.Parse
import Arbor.Encoding.Basic
import Arbor.Text.Bytes
/-!
Trees of outlined files.
-/

namespace Arbor

open Arbor.Outline Arbor.Layout

/-- A file of a tree: where it was read from, its text and its outline. -/
structure ParsedFile where
  path : String
  text : String
  starts : Array Nat
  nodes : Array Node
  parent : Option Nat
  structured : Bool
  deriving Inhabited

/-- The byte offsets just past each line feed of `cs`, whose first character sits at byte
`offset`. -/
def lineFeedEnds : List Char → Nat → List Nat
  | [], _ => []
  | c :: cs, offset =>
    let next := offset + c.utf8Size
    if c = '\n' then next :: lineFeedEnds cs next else lineFeedEnds cs next

/-- The byte offsets at which the lines of a text start: 0, and one past every line feed that
is not the last byte of the text; none for the empty text. -/
def lineStarts (text : String) : List Nat :=
  if text.isEmpty then [] else 0 :: (lineFeedEnds text.toList 0).filter (· < text.utf8ByteSize)

/-- A line without its trailing line feeds, and then without its trailing carriage returns. -/
def trimLineEnd (s : String) : String :=
  String.ofList ((s.toList.reverse.dropWhile (· == '\n')).dropWhile (· == '\r')).reverse

/-- The outline of a file kept whole: a file node with one content node over all its lines. -/
def wholeFileNodes (name : String) (text : String) : Array Node :=
  let span : Span := ⟨1, (physicalLines text).length⟩
  #[{ kind := .file, name, span, indent := 0, children := #[1], parent := none },
    { kind := .content, name := "", span, indent := 0, parent := some 0 }]

namespace ParsedFile

/-- A file made from its text: outlined by the parser when `structured`, kept whole
otherwise. -/
def make (isProperty : String → Bool) (path name text : String) (structured : Bool) : ParsedFile :=
  { path, text
    starts := (lineStarts text).toArray
    nodes := if structured then parse isProperty name text else wholeFileNodes name text
    parent := none
    structured }

def lineCount (f : ParsedFile) : Nat := f.starts.size

/-- The byte offset of line `i`, counted from 1. -/
def lineOffset (f : ParsedFile) (i : Nat) : Option Nat :=
  if i = 0 then none else f.starts[i - 1]?

/-- The byte offset where line `i` ends, terminator included: where the next line starts, or
the end of the text. -/
def lineEnd (f : ParsedFile) (i : Nat) : Nat := f.starts[i]?.getD f.text.utf8ByteSize

/-- Line `i`, counted from 1, without its terminator. -/
def line (f : ParsedFile) (i : Nat) : Option String :=
  (f.lineOffset i).map fun start => trimLineEnd (Text.sliceBytes f.text start (f.lineEnd i))

/-- The exact text of the lines of a span, terminators included; empty for an empty span or
one that starts past the last line. -/
def slice (f : ParsedFile) (s : Span) : String :=
  if s.isEmpty then "" else
    match f.lineOffset s.first with
    | some start => Text.sliceBytes f.text start (f.lineEnd s.last)
    | none => ""

end ParsedFile

/-- A node of a tree: a directory slot, or a position in a file's outline. -/
inductive NodeId where
  | dir (slot : Nat)
  | unit (file : Nat) (index : Nat)
  deriving DecidableEq, Repr, Inhabited

def NodeId.fileRoot (file : Nat) : NodeId := .unit file 0

/-- A directory of a tree. -/
structure DirEntry where
  name : String
  path : String
  children : Array NodeId
  parent : Option Nat
  deriving Inhabited

/-- Why a file could not be added to a tree, or a tree could not be built. -/
inductive TreeError where
  | missingRoot (path : String)
  | io (path : String) (cause : String)
  | decode (path : String) (encoding : String)
  | invalidGlob (pattern : String) (cause : String)
  | notFound (target segment parent : String) (suggestion : Option String)
  deriving DecidableEq, Repr, Inhabited

namespace TreeError

/-- The message of a tree error. -/
def message : TreeError → String
  | missingRoot p => "path does not exist: " ++ p
  | io p c => "I/O error reading " ++ p ++ ": " ++ c
  | decode p e => "failed to decode " ++ p ++ " as " ++ e
  | invalidGlob p c => "invalid glob '" ++ p ++ "': " ++ c
  | notFound t s p sug =>
    "no node named '" ++ s ++ "' under '" ++ p ++ "' (looking up '" ++ t ++ "')" ++
      match sug with
      | some n => "; did you mean '" ++ n ++ "'?"
      | none => ""

end TreeError

/-- A file that could not be added to a tree, and why. -/
structure Failure where
  path : String
  error : TreeError
  deriving Inhabited

/-- How files are read into a tree: the encoding of their bytes, and the decorator names that
make a function a property. -/
structure Loader where
  markers : List String := defaultPropertyMarkers
  encoding : Encoding := .utf8
  deriving Inhabited

def Loader.isProperty (l : Loader) (name : String) : Bool := l.markers.contains name

def parserDebugText : String := "StructuralParser \x7b .. \x7d"

/-- The loader as its debugging text shows it. -/
def Loader.debugText (l : Loader) : String :=
  "FileLoader \x7b encoding: " ++ l.encoding.debugText ++ ", parser: " ++ parserDebugText ++ " \x7d"

/-- A file made from its text with a loader's property markers. -/
def Loader.parseText (l : Loader) (path name text : String) (structured : Bool) : ParsedFile :=
  ParsedFile.make l.isProperty path name text structured

/-- A tree of outlined files rooted at one file or one directory. -/
structure Tree where
  root : NodeId
  dirs : Array DirEntry
  files : Array ParsedFile
  failures : Array Failure
  loader : Loader
  deriving Inhabited

namespace Tree

/-- A tree of one file parsed from text in memory, with an empty path and name. -/
def ofText (loader : Loader) (text : String) : Tree :=
  { root := .fileRoot 0, dirs := #[], files := #[loader.parseText "" "" text true], failures := #[],
    loader }

/-- Whether an id names a node of the tree. -/
def contains (t : Tree) : NodeId → Bool
  | .dir d => d < t.dirs.size
  | .unit f n => match t.files[f]? with
    | some file => n < file.nodes.size
    | none => false

/-- The file that holds a node; none for directories. -/
def fileOf? (t : Tree) : NodeId → Option ParsedFile
  | .dir _ => none
  | .unit f _ => t.files[f]?

/-- The outline node behind an id that names one. -/
def node? (t : Tree) : NodeId → Option Node
  | .dir _ => none
  | .unit f n => t.files[f]? >>= fun file => file.nodes[n]?

/-- The kind of a node. -/
def kind (t : Tree) : NodeId → Kind
  | .dir _ => .directory
  | id => ((t.node? id).map (·.kind)).getD .content

/-- The name of a node. -/
def name (t : Tree) : NodeId → String
  | .dir d => ((t.dirs[d]?).map (·.name)).getD ""
  | id => ((t.node? id).map (·.name)).getD ""

/-- The line span of a node; none for directories. -/
def span? (t : Tree) (id : NodeId) : Option Span := (t.node? id).map (·.span)

/-- The path of a directory, or of the file that holds a node. -/
def path (t : Tree) : NodeId → String
  | .dir d => ((t.dirs[d]?).map (·.path)).getD ""
  | .unit f _ => ((t.files[f]?).map (·.path)).getD ""

/-- The parent of a node: the enclosing node, or the directory that holds a file. -/
def parent? (t : Tree) : NodeId → Option NodeId
  | .dir d => (t.dirs[d]? >>= (·.parent)).map .dir
  | .unit f 0 => (t.files[f]? >>= (·.parent)).map .dir
  | .unit f n => (t.files[f]? >>= fun file => file.nodes[n]? >>= (·.parent)).map (.unit f)

/-- The children of a node in stored order. -/
def children (t : Tree) : NodeId → List NodeId
  | .dir d => ((t.dirs[d]?).map (·.children.toList)).getD []
  | .unit f n => (((t.node? (.unit f n)).map (·.children.toList)).getD []).map (.unit f)

/-- The exact text of a node; none for directories. -/
def text? (t : Tree) : NodeId → Option String
  | .dir _ => none
  | .unit f n => t.files[f]? >>= fun file => file.nodes[n]?.map fun node => file.slice node.span

/-- How many nodes the tree has: a bound on the depth of any node. -/
def size (t : Tree) : Nat := t.dirs.size + t.files.foldl (fun n f => n + f.nodes.size) 0

/-- What a walk of a stack of nodes yields, at most `fuel` nodes: the node on top, then the walk
of the rest with the node's children pushed on it, the first child on top. -/
def walkStack (t : Tree) : Nat → List NodeId → List NodeId
  | 0, _ => []
  | _ + 1, [] => []
  | fuel + 1, id :: stack => id :: t.walkStack fuel (t.children id ++ stack)

def descendants (t : Tree) (id : NodeId) : List NodeId := t.walkStack (t.size + 1) [id]

/-- The ancestors of a node from the outermost, at most `fuel` of them. -/
def ancestorsUpTo (t : Tree) : Nat → NodeId → List NodeId
  | 0, _ => []
  | fuel + 1, id => match t.parent? id with
    | some p => t.ancestorsUpTo fuel p ++ [p]
    | none => []

def track (t : Tree) (id : NodeId) : List NodeId := t.ancestorsUpTo (t.size + 1) id ++ [id]

/-- The non-empty names along the track of a node, joined by dots. -/
def absoluteName (t : Tree) (id : NodeId) : String :=
  ".".intercalate (((t.track id).map t.name).filter (!·.isEmpty))

/-- The nearest node at or above `id` that is not content, looking at most `fuel` levels up. -/
def ownerUpTo (t : Tree) : Nat → NodeId → NodeId
  | 0, id => id
  | fuel + 1, id =>
    if t.kind id = .content then
      match t.parent? id with
      | some p => t.ownerUpTo fuel p
      | none => id
    else id

def owner (t : Tree) (id : NodeId) : NodeId := t.ownerUpTo (t.size + 1) id

/-- A function or property defined directly in a class. -/
def isMethod (t : Tree) (id : NodeId) : Bool :=
  (t.kind id).isCallable &&
    match t.parent? id with
    | some p => t.kind p = .classDef
    | none => false

def fileRoots (t : Tree) : List NodeId := (List.range t.files.size).map NodeId.fileRoot

def fileByPath? (t : Tree) (path : String) : Option ParsedFile := t.files.find? (·.path == path)

end Tree

end Arbor
