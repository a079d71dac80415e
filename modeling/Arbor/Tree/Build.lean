import Arbor.Tree.Basic
import Arbor.Disk.Basic
import Arbor.Glob.Match
import Arbor.Encoding.Codec
/-!
Trees built from a disk.
-/

namespace Arbor

open Arbor.Disk Arbor.Glob

def defaultIgnore : List String := ["build", ".git", ".github"]

/-- The file at a path, read and outlined. -/
def Loader.load (l : Loader) (d : Disk) (cwd : List String) (path name : String)
    (structured : Bool) : Except TreeError ParsedFile :=
  match d.contents cwd path with
  | .error e => .error (.io path e.message)
  | .ok bytes =>
    match l.encoding.decode bytes with
    | .error _ => .error (.decode path l.encoding.name)
    | .ok text => .ok (l.parseText path name text structured)

/-- How a directory is turned into a tree. -/
structure Builder where
  loader : Loader := {}
  extensions : List String := ["py"]
  ignore : List String := defaultIgnore
  includes : List String := []
  deriving Inhabited

/-- The builder with one more ignore glob. -/
def Builder.addIgnore (b : Builder) (pattern : String) : Builder :=
  { b with ignore := b.ignore ++ [pattern] }

/-- Whether a path's extension is one of the builder's. -/
def Builder.isSource (b : Builder) (path : String) : Bool :=
  match Path.extension? path with
  | some ext => b.extensions.contains ext
  | none => false

def globMessage (pattern : String) (e : GlobError) : String :=
  "error parsing glob '" ++ pattern ++ "': " ++ e.message

/-- Globs read for matching paths, where a wildcard does not cross a separator. -/
def compileGlobs (patterns : List String) : Except TreeError (List Glob) :=
  patterns.mapM fun p =>
    match Glob.compile p true with
    | .ok g => .ok g
    | .error e => .error (.invalidGlob p (globMessage p e))

/-- Whether a glob matches the path below the root or one of its trailing runs of names. -/
def matchesAnySuffix (globs : List Glob) (root path : String) : Bool :=
  let parts := (Path.partsUnder? root path).getD (Path.parts path)
  (List.range parts.length).any fun i =>
    let suffix := Path.ofParts (parts.drop i)
    globs.any (·.matches suffix)

/-- The name of a directory: the last name of its path, or of the place it leads to. -/
def dirName (d : Disk) (cwd : List String) (path : String) : String :=
  match Path.fileName? path with
  | some n => n
  | none =>
    match d.canonical cwd path with
    | .ok place => place.getLast?.getD ""
    | .error _ => ""

/-- What a walk has gathered. -/
structure Walk where
  dirs : Array DirEntry := #[]
  files : Array ParsedFile := #[]
  failures : Array Failure := #[]
  deriving Inhabited

/-- The walk with one more failure. -/
def Walk.fail (w : Walk) (path : String) (e : TreeError) : Walk :=
  { w with failures := w.failures.push ⟨path, e⟩ }

/-- The settings of one walk. -/
structure WalkSettings where
  builder : Builder
  disk : Disk
  cwd : List String
  root : String
  ignore : List Glob
  includes : List Glob

/-- The file at a path added to the walk, when it is kept. -/
def WalkSettings.visitFile (s : WalkSettings) (path : String) (w : Walk) : Option NodeId × Walk :=
  let kept :=
    if s.builder.isSource path then some ((Path.stem? path).getD "", true)
    else if matchesAnySuffix s.includes s.root path then some ((Path.fileName? path).getD "", false)
    else none
  match kept with
  | none => (none, w)
  | some (name, structured) =>
    match s.builder.loader.load s.disk s.cwd path name structured with
    | .ok f => (some (.fileRoot w.files.size), { w with files := w.files.push f })
    | .error e => (none, w.fail path e)

/-- The directory table with directory `slot` as the parent of every directory it lists. -/
def adoptDirs (slot : Nat) (children : Array NodeId) (dirs : Array DirEntry) : Array DirEntry :=
  children.foldl (fun (dirs : Array DirEntry) c =>
    match c with
    | .dir i => dirs.modify i fun e => { e with parent := some slot }
    | _ => dirs) dirs

/-- The file table with directory `slot` as the parent of every file whose root it lists. -/
def adoptFiles (slot : Nat) (children : Array NodeId) (files : Array ParsedFile) :
    Array ParsedFile :=
  children.foldl (fun (files : Array ParsedFile) c =>
    match c with
    | .unit i _ => files.modify i fun f => { f with parent := some slot }
    | _ => files) files

/-- The names and kinds in a directory of the walk, or the failure to read it. -/
def WalkSettings.entries (s : WalkSettings) (dir : String) (isRoot : Bool) :
    Except IoError (List (String × Kind)) :=
  match s.disk.lstat s.cwd dir with
  | .error e => .error e
  | .ok .directory => s.disk.readDir s.cwd dir
  | .ok (.link _) =>
    if isRoot then
      match s.disk.stat s.cwd dir with
      | .ok .directory => s.disk.readDir s.cwd dir
      | .ok _ => .ok []
      | .error e => .error e
    else .ok []
  | .ok _ => .ok []

/-- The directory at a path added to the walk with what it holds, when anything is kept in it
or it is the root; its slot in the directory table. -/
def WalkSettings.visitDir (s : WalkSettings) : Nat → String → Bool → Walk → Option Nat × Walk
  | 0, _, _, w => (none, w)
  | fuel + 1, dir, isRoot, w =>
    let (names, w) := match s.entries dir isRoot with
      | .ok names => (names, w)
      | .error e => ([], w.fail dir (.io dir e.message))
    let (children, w) := names.foldl (fun (acc : Array NodeId × Walk) (name, kind) =>
      let (children, w) := acc
      let path := Path.join dir name
      if matchesAnySuffix s.ignore s.root path then acc
      else if kind == .directory then
        match s.visitDir fuel path false w with
        | (some slot, w) => (children.push (.dir slot), w)
        | (none, w) => (children, w)
      else if kind == .file || (kind == .link && s.disk.isFile s.cwd path) then
        match s.visitFile path w with
        | (some id, w) => (children.push id, w)
        | (none, w) => (children, w)
      else acc) (#[], w)
    if children.isEmpty && !isRoot then (none, w)
    else
      let slot := w.dirs.size
      (some slot, { w with
        dirs := (adoptDirs slot children w.dirs).push
          { name := dirName s.disk s.cwd dir, path := dir, children, parent := none }
        files := adoptFiles slot children w.files })

/-- The tree rooted at a path. -/
def Builder.build (b : Builder) (d : Disk) (cwd : List String) (root : String) :
    Except TreeError Tree :=
  if !d.exists? cwd root then .error (.missingRoot root)
  else if d.isFile cwd root then do
    let f ← b.loader.load d cwd root ((Path.stem? root).getD "") true
    pure { root := .fileRoot 0, dirs := #[], files := #[f], failures := #[], loader := b.loader }
  else do
    let ignore ← compileGlobs b.ignore
    let includes ← compileGlobs b.includes
    let s : WalkSettings := { builder := b, disk := d, cwd, root, ignore, includes }
    let (slot, w) := s.visitDir (d.entries.length + 1) root true {}
    pure { root := .dir (slot.getD 0), dirs := w.dirs, files := w.files, failures := w.failures,
           loader := b.loader }

/-- The tree with the file at a path read again, keeping its name, kind and directory; `none`
when no file of the tree has that path. -/
def Tree.reloadFile (t : Tree) (d : Disk) (cwd : List String) (path : String) :
    Except TreeError (Option Tree) :=
  match t.files.findIdx? (Path.same ·.path path) with
  | none => .ok none
  | some i =>
    match t.files[i]? with
    | none => .ok none
    | some current =>
      let name := (current.nodes[0]?.map (·.name)).getD ""
      match t.loader.load d cwd path name current.structured with
      | .error e => .error e
      | .ok f => .ok (some { t with files := t.files.setIfInBounds i { f with parent := current.parent } })

/-- The tree with each path read again; paths that fail are left as they were. -/
def Tree.refresh (t : Tree) (d : Disk) (cwd : List String) (paths : List String) : Tree :=
  paths.foldl (fun t p =>
    match t.reloadFile d cwd p with
    | .ok (some t') => t'
    | _ => t) t

end Arbor
