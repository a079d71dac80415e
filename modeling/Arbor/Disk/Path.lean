/-!
Path texts as a Unix system reads them.
-/

namespace Arbor.Disk

/-- One part of a path text. -/
inductive Part where
  | root
  | here
  | up
  | name (s : String)
  deriving DecidableEq, Repr, Inhabited

namespace Path

def isAbsolute (p : String) : Bool := p.startsWith "/"

def segments (p : String) : List String := (p.toList.splitOn '/').map String.ofList

/-- The parts of a path text. -/
def parts (p : String) : List Part :=
  let segs := segments p
  let (lead, body) : List Part × List String :=
    if isAbsolute p then ([.root], segs)
    else if segs.head? == some "." then ([.here], segs.drop 1)
    else ([], segs)
  lead ++ body.filterMap fun s =>
    if s == "" || s == "." then none else if s == ".." then some .up else some (.name s)

def same (a b : String) : Bool := parts a == parts b

/-- The last part of a path, when it is a name. -/
def fileName? (p : String) : Option String :=
  match (parts p).getLast? with
  | some (.name s) => some s
  | _ => none

/-- A file name split at its last dot: the stem and the extension. A name whose only dot leads
it, and `..`, have no extension. -/
def splitName (name : String) : String × Option String :=
  if name == ".." then (name, none)
  else
    let pieces := (name.toList.splitOn '.').map String.ofList
    match pieces with
    | [] | [_] => (name, none)
    | _ =>
      let stem := ".".intercalate pieces.dropLast
      if stem.isEmpty then (name, none) else (stem, pieces.getLast?)

def stem? (p : String) : Option String := (fileName? p).map fun n => (splitName n).1

def extension? (p : String) : Option String := (fileName? p).bind fun n => (splitName n).2

/-- The text with trailing separators and `.` parts removed, keeping a leading `/` or `.`. -/
def trimEnd (p : String) : String :=
  String.ofList (go p.length p.toList.reverse).reverse
where
  go : Nat → List Char → List Char
    | 0, cs => cs
    | n + 1, cs =>
      match cs with
      | '/' :: rest@(_ :: _) => go n rest
      | '.' :: '/' :: rest => go n ('/' :: rest)
      | cs => cs

/-- The path without its last part: `none` for a text with no parts or only a root. -/
def parent? (p : String) : Option String :=
  let t := trimEnd p
  match (parts t).getLast? with
  | none | some .root => none
  | some _ =>
    match (t.toList.reverse.dropWhile (· != '/')) with
    | [] => some ""
    | _ :: before =>
      if before.isEmpty then some "/" else some (trimEnd (String.ofList before.reverse))

/-- A path followed by another: the second alone when it is absolute or the first is empty. -/
def join (a b : String) : String :=
  if isAbsolute b || a.isEmpty then b
  else if a.endsWith "/" then a ++ b
  else a ++ "/" ++ b

/-- The path with its file name replaced, or the name added when it has none. -/
def withFileName (p name : String) : String :=
  match fileName? p, parent? p with
  | some _, some dir => join dir name
  | _, _ => join p name

/-- The path and each of its ancestors, nearest first. -/
def ancestors (p : String) : List String :=
  go (p.length + 1) p
where
  go : Nat → String → List String
    | 0, _ => []
    | n + 1, q => q :: match parent? q with
      | some r => go n r
      | none => []

/-- The parts of `p` after those of `base`, when `p` lies under `base`. -/
def partsUnder? (base p : String) : Option (List Part) :=
  let b := parts base
  let q := parts p
  if b.isPrefixOf q then some (q.drop b.length) else none

/-- The names of a list of parts joined by separators. -/
def ofParts (ps : List Part) : String :=
  "/".intercalate (ps.map fun
    | .root => ""
    | .here => "."
    | .up => ".."
    | .name s => s)

end Path

end Arbor.Disk
