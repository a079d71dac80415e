import Arbor.Disk.Path
/-!
A file system held in memory.
-/

namespace Arbor.Disk

/-- Why a file system call failed. -/
inductive IoError where
  | notFound
  | notDirectory
  | isDirectory
  | nameTooLong
  | linkLoop
  | alreadyExists
  | noDevice
  | notUtf8
  deriving DecidableEq, Repr, Inhabited

/-- The words the system uses for a failure. -/
def IoError.message : IoError → String
  | .notFound => "No such file or directory (os error 2)"
  | .notDirectory => "Not a directory (os error 20)"
  | .isDirectory => "Is a directory (os error 21)"
  | .nameTooLong => "File name too long (os error 36)"
  | .linkLoop => "Too many levels of symbolic links (os error 40)"
  | .alreadyExists => "File exists (os error 17)"
  | .noDevice => "No such device or address (os error 6)"
  | .notUtf8 => "stream did not contain valid UTF-8"

/-- What is at a place. -/
inductive Entry where
  | file (bytes : ByteArray) (readOnly : Bool)
  | directory
  | link (target : String)
  | socket
  deriving Inhabited

/-- The kinds of entry. -/
inductive Kind where
  | file
  | directory
  | link
  | socket
  deriving DecidableEq, Repr, Inhabited

/-- The kind of an entry. -/
def Entry.kind : Entry → Kind
  | .file .. => .file
  | .directory => .directory
  | .link _ => .link
  | .socket => .socket

end Arbor.Disk

namespace Arbor

/-- A file system: the entries other than the root directory, by place. -/
structure Disk where
  entries : List (List String × Disk.Entry) := []
  deriving Inhabited

end Arbor

namespace Arbor.Disk

def pathMax : Nat := 4096

def nameMax : Nat := 255

def linkMax : Nat := 40

/-- Where a path text leads. -/
inductive Target where
  | found (place : List String) (entry : Entry)
  | absent (dir : List String) (name : String)
  deriving Inhabited


/-- The entry at a place. -/
def entry? (d : Disk) (place : List String) : Option Entry :=
  if place.isEmpty then some .directory else (d.entries.find? (·.1 == place)).map (·.2)

/-- The disk with `e` at `place`, replacing what was there. -/
def put (d : Disk) (place : List String) (e : Entry) : Disk :=
  { entries := d.entries.filter (·.1 != place) ++ [(place, e)] }

/-- The disk without the entry at `place` and everything under it. -/
def erase (d : Disk) (place : List String) : Disk :=
  { entries := d.entries.filter fun (q, _) => !place.isPrefixOf q }

/-- The entries directly in the directory at `place`, by name. -/
def childrenOf (d : Disk) (place : List String) : List (String × Entry) :=
  let inside := d.entries.filterMap fun (q, e) =>
    if q.length == place.length + 1 && place.isPrefixOf q then q.getLast?.map (·, e) else none
  inside.mergeSort fun a b => a.1 ≤ b.1

/-- The most parts in the target of any link: with the parts of a path, it bounds the steps
of following it. -/
def longestTarget (d : Disk) : Nat :=
  d.entries.foldl (fun m (_, e) => match e with
    | .link t => max m (Path.parts t).length
    | _ => m) 0

/-- Follow parts from the directory at `cur`, having followed `links` links. -/
def follow (d : Disk) (last : Bool) : Nat → Nat → List String → List Part → Except IoError Target
  | 0, _, _, _ => .error .linkLoop
  | _ + 1, _, cur, [] => .ok (.found cur .directory)
  | fuel + 1, links, _, .root :: rest => follow d last fuel links [] rest
  | fuel + 1, links, cur, .here :: rest => follow d last fuel links cur rest
  | fuel + 1, links, cur, .up :: rest => follow d last fuel links cur.dropLast rest
  | fuel + 1, links, cur, .name n :: rest =>
    let place := cur ++ [n]
    match d.entry? place with
    | none => if rest.isEmpty then .ok (.absent cur n) else .error .notFound
    | some .directory => follow d last fuel links place rest
    | some (.link t) =>
      if rest.isEmpty && !last then .ok (.found place (.link t))
      else if links == linkMax then .error .linkLoop
      else follow d last fuel (links + 1) cur (Path.parts t ++ rest)
    | some e => if rest.isEmpty then .ok (.found place e) else .error .notDirectory

/-- Refuse a path text the system would not take. -/
def checkText (p : String) : Except IoError Unit :=
  if p.isEmpty then .error .notFound
  else if p.utf8ByteSize ≥ pathMax then .error .nameTooLong
  else if (Path.segments p).any (·.utf8ByteSize > nameMax) then .error .nameTooLong
  else .ok ()

/-- Where a path text leads from the working directory `cwd`, following a link at its end
when `last` is set. -/
def locate (d : Disk) (cwd : List String) (p : String) (last : Bool) : Except IoError Target := do
  checkText p
  let parts := Path.parts p
  follow d last (parts.length + (linkMax + 1) * (d.longestTarget + 1) + 1) 0 cwd parts

/-- The entry a path leads to, through links. -/
def stat (d : Disk) (cwd : List String) (p : String) : Except IoError Entry :=
  match d.locate cwd p true with
  | .ok (.found _ e) => .ok e
  | .ok (.absent ..) => .error .notFound
  | .error e => .error e

/-- The entry a path names, a link itself when it ends in one. -/
def lstat (d : Disk) (cwd : List String) (p : String) : Except IoError Entry :=
  match d.locate cwd p false with
  | .ok (.found _ e) => .ok e
  | .ok (.absent ..) => .error .notFound
  | .error e => .error e

/-- Whether something is at a path, through links. -/
def exists? (d : Disk) (cwd : List String) (p : String) : Bool :=
  (d.stat cwd p).toBool

/-- Whether a path leads to a file. -/
def isFile (d : Disk) (cwd : List String) (p : String) : Bool :=
  match d.stat cwd p with
  | .ok (.file ..) => true
  | _ => false

def isDir (d : Disk) (cwd : List String) (p : String) : Bool :=
  match d.stat cwd p with
  | .ok .directory => true
  | _ => false

/-- Whether a path leads to a read-only file. -/
def isReadOnly (d : Disk) (cwd : List String) (p : String) : Bool :=
  match d.stat cwd p with
  | .ok (.file _ ro) => ro
  | _ => false

/-- The place a path leads to, through every link. -/
def canonical (d : Disk) (cwd : List String) (p : String) : Except IoError (List String) :=
  match d.locate cwd p true with
  | .ok (.found place _) => .ok place
  | .ok (.absent ..) => .error .notFound
  | .error e => .error e

/-- The bytes of the file a path leads to. -/
def contents (d : Disk) (cwd : List String) (p : String) : Except IoError ByteArray :=
  match d.stat cwd p with
  | .ok (.file bytes _) => .ok bytes
  | .ok .directory => .error .isDirectory
  | .ok _ => .error .noDevice
  | .error e => .error e

/-- The text of the file a path leads to, which must be UTF-8. -/
def readText (d : Disk) (cwd : List String) (p : String) : Except IoError String := do
  let bytes ← d.contents cwd p
  match String.fromUTF8? bytes with
  | some s => .ok s
  | none => .error .notUtf8

/-- The names and kinds in the directory a path leads to, by name. -/
def readDir (d : Disk) (cwd : List String) (p : String) : Except IoError (List (String × Kind)) :=
  match d.locate cwd p true with
  | .ok (.found place .directory) => .ok ((d.childrenOf place).map fun (n, e) => (n, e.kind))
  | .ok (.found ..) => .error .notDirectory
  | .ok (.absent ..) => .error .notFound
  | .error e => .error e

/-- Every entry under the directory at `place`, as paths from it, by path; a directory's path
ends in `/` and a link's in `@`. -/
def listing (d : Disk) (place : List String) : List String :=
  let under := d.entries.filterMap fun (q, e) =>
    if place.isPrefixOf q && q.length > place.length then
      let rel := "/".intercalate (q.drop place.length)
      some (match e with
        | .directory => rel ++ "/"
        | .link _ => rel ++ "@"
        | _ => rel)
    else none
  under.mergeSort fun a b => a ≤ b

/-- The disk after writing a file through a path: a file there gets the bytes and keeps its
mode, and a new file is made in an existing directory. -/
def writeFile (d : Disk) (cwd : List String) (p : String) (bytes : ByteArray) :
    Except IoError Disk :=
  match d.locate cwd p true with
  | .ok (.found place (.file _ ro)) => .ok (d.put place (.file bytes ro))
  | .ok (.found _ .directory) => .error .isDirectory
  | .ok (.found ..) => .error .noDevice
  | .ok (.absent dir name) => .ok (d.put (dir ++ [name]) (.file bytes false))
  | .error e => .error e

/-- The disk with a new entry at a path that names nothing. -/
def create (d : Disk) (cwd : List String) (p : String) (e : Entry) : Except IoError Disk :=
  match d.locate cwd p false with
  | .ok (.absent dir name) => .ok (d.put (dir ++ [name]) e)
  | .ok (.found ..) => .error .alreadyExists
  | .error err => .error err

/-- The disk with every missing directory of a path made. -/
def createDirAll (d : Disk) (cwd : List String) (p : String) : Except IoError Disk :=
  let prefixes := (List.range (Path.parts p).length).map fun i =>
    (Path.parts p).take (i + 1)
  prefixes.foldlM (fun (d : Disk) ps =>
    match ps with
    | [.root] | [.here] => .ok d
    | _ =>
      let q := Path.ofParts ps
      let q := if Path.isAbsolute p && !Path.isAbsolute q then "/" ++ q else q
      match d.locate cwd q true with
      | .ok (.found _ .directory) => .ok d
      | .ok (.found ..) => .error .alreadyExists
      | .ok (.absent dir name) => .ok (d.put (dir ++ [name]) .directory)
      | .error e => .error e) d

/-- The disk without the file or link a path names; a directory is refused. -/
def removeFile (d : Disk) (cwd : List String) (p : String) : Except IoError Disk :=
  match d.locate cwd p false with
  | .ok (.found _ .directory) => .error .isDirectory
  | .ok (.found place _) => .ok (d.erase place)
  | .ok (.absent ..) => .error .notFound
  | .error e => .error e

/-- The disk without the directory a path names and all it holds; a link is removed itself. -/
def removeDirAll (d : Disk) (cwd : List String) (p : String) : Except IoError Disk :=
  match d.locate cwd p false with
  | .ok (.found place .directory) => .ok (d.erase place)
  | .ok (.found place (.link _)) => .ok (d.erase place)
  | .ok (.found ..) => .error .notDirectory
  | .ok (.absent ..) => .error .notFound
  | .error e => .error e

/-- The disk with the file a path leads to made read-only or writable. -/
def setReadOnly (d : Disk) (cwd : List String) (p : String) (ro : Bool) : Except IoError Disk :=
  match d.locate cwd p true with
  | .ok (.found place (.file bytes _)) => .ok (d.put place (.file bytes ro))
  | .ok (.found ..) => .ok d
  | .ok (.absent ..) => .error .notFound
  | .error e => .error e


end Arbor.Disk
