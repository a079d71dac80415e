import Arbor.Cli.Run
/-!
The program on the command line.
-/

namespace Arbor.Host

open Arbor.Disk Arbor.Cli

def absText (place : List String) : String := "/" ++ "/".intercalate place

def placeOf (s : String) : List String := (s.splitOn "/").filter (!·.isEmpty)

/-- Every place from the first part to the whole, shortest first. -/
def prefixes (place : List String) : List (List String) :=
  (List.range place.length).map fun i => place.take (i + 1)

def settle (cwd : List String) (p : String) : IO (Option (List String)) := do
  let here ← IO.currentDir
  let .ok real ← (IO.FS.realPath (here / absText cwd / p)).toBaseIO | return none
  return some (placeOf real.toString)

def ensureDir (d : Disk) (place : List String) : Disk :=
  if (d.entries.find? (·.1 == place)).isSome then d else d.put place .directory

/-- Whether a file cannot be written. -/
def readOnly (place : List String) : IO Bool := do
  let here ← IO.currentDir
  match ← (IO.FS.Handle.mk (here / absText place) .append).toBaseIO with
  | .ok _ => return false
  | .error _ => return true

def pictureFile (d : Disk) (place : List String) (wanted : Bool) : IO Disk := do
  if !wanted then return d.put place (.file ByteArray.empty false)
  let here ← IO.currentDir
  let .ok bytes ← (IO.FS.readBinFile (here / absText place)).toBaseIO | return d
  return d.put place (.file bytes (← readOnly place))

/-- The disk with what is at `place` added, a directory with everything under it, and what a
link leads to besides. -/
partial def picture (wanted : List String → Bool) (d : Disk) (place : List String) : IO Disk := do
  if (d.entries.find? (·.1 == place)).isSome then return d
  let here ← IO.currentDir
  let path := here / absText place
  let .ok info ← path.symlinkMetadata.toBaseIO | return d
  match info.type with
  | .dir =>
    let d := d.put place .directory
    let .ok items ← path.readDir.toBaseIO | return d
    let names := (items.map (·.fileName)).toList.mergeSort (· ≤ ·)
    names.foldlM (fun d n => picture wanted d (place ++ [n])) d
  | .file => pictureFile d place (wanted place)
  | .symlink =>
    match ← (IO.FS.realPath path).toBaseIO with
    | .ok real =>
      let d := d.put place (.link real.toString)
      let target := placeOf real.toString
      picture wanted ((prefixes target.dropLast).foldl ensureDir d) target
    | .error _ =>
      match ← path.metadata.toBaseIO with
      | .error (.noFileOrDirectory ..) => return d.put place (.link "/\x00")
      | _ => return d.put place (.link (absText place))
  | .other => return d.put place .socket

/-- The disk with the directories above a place, and the settings file in each of them and in
the place itself. -/
def pictureWay (d : Disk) (place : List String) : IO Disk := do
  let d ← (prefixes place.dropLast).foldlM (fun d q =>
    picture (fun _ => true) (ensureDir d q) (q ++ [Config.fileName])) d
  picture (fun _ => true) d (place ++ [Config.fileName])

def hasExtension (extensions : List String) (name : String) : Bool :=
  extensions.any fun e => name.endsWith ("." ++ e)

def pictureFor (cwd : List String) (args : List String) : IO Disk := do
  let d ← pictureWay {} cwd
  match readArgs args with
  | .run inv =>
    let d ← match inv.config with
      | some c => match ← settle cwd c with
        | some place => do
          let d ← pictureWay d place.dropLast
          picture (fun _ => true) d place
        | none => pure d
      | none => pure d
    match ← settle cwd inv.action.target with
    | some root =>
      let d ← pictureWay d root
      let extensions := match Config.loadFor d cwd inv.config inv.action.target with
        | .ok s => s.extensions
        | .error _ => []
      let d ← picture (fun q => q == root || hasExtension extensions (q.getLastD "") ||
        q.getLast? == some Config.fileName) d root
      pure (ensureDir d cwd)
    | none => pure (ensureDir d cwd)
  | _ => pure (ensureDir d cwd)

/-- The bytes of a file entry. -/
def bytesOf : Option Entry → Option ByteArray
  | some (.file b _) => some b
  | _ => none

def writeBack (before after : Disk) : IO Unit := do
  let here ← IO.currentDir
  for (place, e) in after.entries do
    match e with
    | .file bytes _ =>
      if (bytesOf (before.entry? place)).map (·.data) != some bytes.data then
        IO.FS.writeBinFile (here / absText place) bytes
    | _ => pure ()
  for (place, e) in before.entries do
    match e, after.entry? place with
    | .file .., none => IO.FS.removeFile (here / absText place)
    | _, _ => pure ()

/-- Whether to paint results: forced by the environment, else refused by it, else when writing
to a terminal. -/
def paintOn : IO Bool := do
  match ← IO.getEnv "CLICOLOR_FORCE" with
  | some v => if v != "0" then return true
  | none => pure ()
  if (← IO.getEnv "NO_COLOR").isSome then return false
  if (← IO.getEnv "CLICOLOR") == some "0" then return false
  (← IO.getStdout).isTty

/-- Whether to style help and command-line errors: refused by a non-empty `NO_COLOR`, else
forced by the environment, else when writing to a terminal that takes colours. -/
def styleOn : IO Bool := do
  if !((← IO.getEnv "NO_COLOR").getD "").isEmpty then return false
  match ← IO.getEnv "CLICOLOR_FORCE" with
  | some v => if v != "0" then return true
  | none => pure ()
  if (← IO.getEnv "CLICOLOR") == some "0" then return false
  let term := (← IO.getEnv "TERM").getD "dumb"
  return (← (← IO.getStderr).isTty) && term != "dumb"

end Arbor.Host

/-- Run the command line on the disk. -/
def main (args : List String) : IO UInt32 := do
  let cwd := Arbor.Host.placeOf (← IO.FS.realPath (← IO.currentDir)).toString
  let before ← Arbor.Host.pictureFor cwd args
  let o := Arbor.Cli.run { cwd, ansi := ← Arbor.Host.paintOn, styled := ← Arbor.Host.styleOn } args before
  Arbor.Host.writeBack before o.disk
  let out ← IO.getStdout
  out.putStr o.stdout
  out.flush
  let err ← IO.getStderr
  err.putStr o.stderr
  err.flush
  return o.status.toUInt32
