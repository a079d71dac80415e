import Arbor.Edit.Session
import Arbor.Disk.Replace
import Arbor.Tree.Build
/-!
Writing a session's files, and undoing the writes.
-/

namespace Arbor.Edit

open Arbor.Disk

/-- What a confirm or a rollback did. -/
structure Report where
  successful : List String := []
  failed : List (String × EditError) := []
  deriving Inhabited

def Report.isClean (r : Report) : Bool := r.failed.isEmpty

/-- The counts of a report in words. -/
def Report.summary (r : Report) : String :=
  s!"{r.successful.length} successful, {r.failed.length} failed"

/-- The path beside `p` with `_copy` added to the stem of its file name. -/
def copySibling (p : String) : String :=
  let stem := (Path.stem? p).getD ""
  let name := match Path.extension? p with
    | some ext => stem ++ "_copy." ++ ext
    | none => stem ++ "_copy"
  Path.withFileName p name

/-- The first path beside `path`, with `_copy` added to the stem as often as needed, where
nothing is. -/
def copyTarget (d : Disk) (cwd : List String) (path : String) : String :=
  go (d.entries.length + 1) path
where
  go : Nat → String → String
    | 0, p => p
    | n + 1, p => if d.exists? cwd p then go n (copySibling p) else p

/-- The bytes of a file that still decodes to the text its plan was made from. -/
def FilePlan.readUnchanged (f : FilePlan) (enc : Encoding) (d : Disk) (cwd : List String) :
    Except EditError ByteArray :=
  match d.stat cwd f.path with
  | .error e => .error (.io f.path e.message)
  | .ok (.file _ true) => .error (.io f.path "file is read-only")
  | .ok _ =>
    match d.contents cwd f.path with
    | .error e => .error (.io f.path e.message)
    | .ok current =>
      match enc.decode current with
      | .error _ => .error (.decode f.path enc.name)
      | .ok text =>
        if Edit.fingerprint text == f.fingerprint then .ok current else .error (.conflict f.path)

/-- Write a file's proposed text. -/
def FilePlan.write (f : FilePlan) (enc : Encoding) (mode : WriteMode) (d : Disk)
    (cwd : List String) : Except EditError (FilePlan × Disk) := do
  if f.path.isEmpty then throw (.io f.path "in-memory text has no file to write")
  let bytes ← match enc.encode f.proposed with
    | .ok b => pure b
    | .error _ => throw (.encodingMismatch f.path enc.name)
  let (target, snapshot) ← match mode with
    | .overwrite => do
      let current ← f.readUnchanged enc d cwd
      pure (f.path, some current)
    | .copy => pure (copyTarget d cwd f.path, none)
  let d ← match d.replaceFile cwd target bytes with
    | .ok d => pure d
    | .error cause => throw (.io target cause)
  pure ({ f with status := .written target snapshot (fingerprintBytes bytes) }, d)

/-- Put back a written file. -/
def FilePlan.restore (f : FilePlan) (force : Bool) (d : Disk) (cwd : List String) :
    Except EditError (FilePlan × Disk) :=
  match f.status with
  | .written target snapshot written => do
    if !force then
      match d.contents cwd target with
      | .error e => throw (.io target e.message)
      | .ok current => if fingerprintBytes current != written then throw (.conflict target)
    let d ← match snapshot with
      | some bytes =>
        match d.replaceFile cwd target bytes with
        | .ok d => pure d
        | .error cause => throw (.io target cause)
      | none =>
        match d.removeFile cwd target with
        | .ok d => pure d
        | .error .notFound => if force then pure d else throw (.io target IoError.notFound.message)
        | .error e => throw (.io target e.message)
    pure ({ f with status := .restored }, d)
  | _ => pure (f, d)

namespace Session

/-- Write one more file of a confirm: the files handled so far, the report and the disk after
it. -/
def confirmFile (enc : Encoding) (mode : WriteMode) (cwd : List String)
    (acc : List FilePlan × Report × Disk) (f : FilePlan) : List FilePlan × Report × Disk :=
  let (files, r, d) := acc
  match f.write enc mode d cwd with
  | .ok (f, d) => (files ++ [f], { r with successful := r.successful ++ [f.path] }, d)
  | .error e => (files ++ [{ f with status := .failed }],
      { r with failed := r.failed ++ [(f.path, e)] }, d)

/-- Put back one more file of a rollback: the files handled so far, the report and the disk
after it. -/
def rollbackFile (force : Bool) (cwd : List String) (acc : List FilePlan × Report × Disk)
    (f : FilePlan) : List FilePlan × Report × Disk :=
  let (files, r, d) := acc
  match f.status with
  | .planned | .failed => (files ++ [f], r, d)
  | .restored => (files ++ [f], { r with successful := r.successful ++ [f.path] }, d)
  | .written .. =>
    match f.restore force d cwd with
    | .ok (f, d) => (files ++ [f], { r with successful := r.successful ++ [f.path] }, d)
    | .error e => (files ++ [f], { r with failed := r.failed ++ [(f.path, e)] }, d)

/-- Write every planned file, then read the written files into the tree again. Valid once,
from the pending phase. -/
def confirm (s : Session) (t : Tree) (d : Disk) (cwd : List String) :
    Except EditError (Report × Session × Tree × Disk) :=
  if s.phase != .pending then .error (.invalidState s.phase .confirm)
  else
    let (files, r, d) := s.files.foldl (confirmFile s.encoding s.mode cwd) ([], {}, d)
    .ok (r, { s with phase := .confirmed, files }, t.refresh d cwd r.successful, d)

/-- Undo a confirm; with `force`, files changed since they were written are put back too. -/
def rollback (s : Session) (force : Bool) (t : Tree) (d : Disk) (cwd : List String) :
    Except EditError (Report × Session × Tree × Disk) :=
  if s.phase == .pending then .error (.invalidState s.phase .rollBack)
  else
    let (files, r, d) := s.files.foldl (rollbackFile force cwd) ([], {}, d)
    .ok (r, { s with phase := .rolledBack, files }, t.refresh d cwd r.successful, d)

end Session

end Arbor.Edit
