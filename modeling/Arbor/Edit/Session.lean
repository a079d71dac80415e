import Arbor.Edit.Splice
import Arbor.Diff.Unified
import Arbor.Search
import Arbor.Pattern.Expand
import Arbor.Tree.Resolve
import Arbor.Disk.Path
/-!
Edit sessions: planned find-and-replace over a tree.
-/

namespace Arbor.Edit

open Arbor.Pattern Arbor.Outline

/-- Where confirmed content goes. -/
inductive WriteMode where
  | overwrite
  | copy
  deriving DecidableEq, Repr, Inhabited

/-- The mode in words. -/
def WriteMode.describe : WriteMode → String
  | .overwrite => "overwrite"
  | .copy => "copy"

/-- What has happened to one file of a session. -/
inductive FileStatus where
  | planned
  | failed
  | written (target : String) (snapshot : Option ByteArray) (written : UInt64)
  | restored
  deriving Inhabited

/-- The planned change to one file. -/
structure FilePlan where
  path : String
  original : String
  fingerprint : UInt64
  proposed : String
  found : List LineMatch
  replacements : List (List String)
  status : FileStatus := .planned
  deriving Inhabited

def diffContext : Nat := 3

/-- Where a confirm wrote the file, if it did. -/
def FilePlan.writtenTo? (f : FilePlan) : Option String :=
  match f.status with
  | .written target _ _ => some target
  | _ => none

def FilePlan.diff (f : FilePlan) : String := Diff.unified diffContext f.path f.original f.proposed

/-- A planned find-and-replace, confirmed and rolled back as a unit. -/
structure Session where
  phase : Phase := .pending
  files : List FilePlan
  encoding : Encoding
  mode : WriteMode := .overwrite
  deriving Inhabited

namespace Session

def isEmpty (s : Session) : Bool := s.files.isEmpty

def matchCount (s : Session) : Nat := s.files.foldl (fun n f => n + f.found.length) 0

def diff (s : Session) : String := String.join (s.files.map FilePlan.diff)

def withMode (s : Session) (mode : WriteMode) : Session := { s with mode }

end Session

/-- Groups of matches with one more match: added at the end of its file's group, or as the
group of a new file after the others. -/
def addToGroup (groups : List (Nat × List LineMatch)) (m : LineMatch) :
    List (Nat × List LineMatch) :=
  match m.node with
  | .unit file _ =>
    if groups.any (·.1 == file) then
      groups.map fun (g, xs) => if g == file then (g, xs ++ [m]) else (g, xs)
    else groups ++ [(file, [m])]
  | .dir _ => groups

def groupByFile (ms : List LineMatch) : List (Nat × List LineMatch) := ms.foldl addToGroup []

/-- The edits and replacement texts of the matches in one file. -/
def matchEdits (source : ParsedFile) (matcher : Matcher) (replacement : String)
    (ms : List LineMatch) : List Splice × List (List String) :=
  let perMatch := ms.map fun m =>
    let offset := (source.lineOffset m.line).getD 0
    let texts := m.spans.map fun sp => matcher.expand m.text sp replacement
    let edits := (m.spans.zip texts).map fun ((a, b), text) =>
      ({ start := offset + a, stop := offset + b, insert := text,
         expected := .ofText (Text.sliceBytes m.text a b) } : Splice)
    (edits, texts)
  ((perMatch.map (·.1)).flatten, perMatch.map (·.2))

/-- The plan of file `idx` for its matches `ms`, or the first of its edits that does not
apply. -/
def planFile (t : Tree) (matcher : Matcher) (replacement : String) (idx : Nat)
    (ms : List LineMatch) : Except EditError FilePlan := do
  let source := t.files.getD idx default
  let (edits, replacements) := matchEdits source matcher replacement ms
  let proposed ← applyAll source.text edits
  pure { path := source.path, original := source.text, fingerprint := fingerprint source.text,
         proposed, found := ms, replacements }

/-- One plan per file with matches at or below `root`, in tree order. -/
def planFiles (t : Tree) (root : NodeId) (matcher : Matcher) (replacement : String) :
    Except EditError (List FilePlan) :=
  (groupByFile (t.findAll root matcher)).mapM fun (idx, ms) => planFile t matcher replacement idx ms

/-- Plan replacing every match of `matcher` at or below `root`. -/
def Session.plan (t : Tree) (root : NodeId) (matcher : Matcher) (replacement : String) :
    Except EditError Session := do
  pure { files := ← planFiles t root matcher replacement, encoding := t.loader.encoding }

def Session.planDelete (t : Tree) (root : NodeId) (matcher : Matcher) : Except EditError Session :=
  Session.plan t root matcher ""

/-- The tree with the given files re-read from new texts, keeping each file's name, parent and
outline mode; paths that are not files of the tree are passed over. -/
def Tree.withTexts (t : Tree) (texts : List (String × String)) : Tree :=
  let files := texts.foldl (fun files (path, text) =>
    match files.findIdx? (Disk.Path.same ·.path path) with
    | some i => files.modify i fun f =>
      let name := (f.nodes[0]?.map (·.name)).getD ""
      { t.loader.parseText path name text f.structured with parent := f.parent }
    | none => files) t.files
  { t with files, failures := #[] }

/-- `root` as a node of `proposed`, the tree re-read from `base`'s planned texts. A node inside
a re-read file is found again by the names on its way down from the file. -/
def rebaseScope (base : Session) (t proposed : Tree) (root : NodeId) : Except EditError NodeId :=
  match root with
  | .dir _ => .ok root
  | .unit file node =>
    let fileRoot := NodeId.fileRoot file
    let rebased := base.files.any (Disk.Path.same ·.path (t.path root))
    if node == 0 || !rebased then .ok root else
    let below := (((t.track root).dropWhile (· != fileRoot)).drop 1).map t.name
    let missing := EditError.scopeNotFound (t.absoluteName root)
    if below.any (·.isEmpty) then .error missing else
    match proposed.resolveFrom fileRoot (".".intercalate below) with
    | .ok id => .ok id
    | .error _ => .error missing

def filePosition (t : Tree) (path : String) : Option Nat :=
  t.files.findIdx? (Disk.Path.same ·.path path)

/-- Whether one optional position comes no later than another; no position comes first. -/
def positionLe : Option Nat → Option Nat → Bool
  | none, _ => true
  | some _, none => false
  | some a, some b => a ≤ b

/-- Merge the files of a base plan with the files planned on top of it: each base file takes
the new plan of its path if there is one, with the base's original text and fingerprint, or
stays as the base proposes it with no matches; files new to the chain follow. -/
def chainFiles (baseFiles planned : List FilePlan) : List FilePlan :=
  let (merged, rest) := baseFiles.foldl (fun (acc : Array FilePlan × List FilePlan) prior =>
    match acc.2.findIdx? (Disk.Path.same ·.path prior.path) with
    | some i =>
      let next := acc.2.getD i default
      (acc.1.push { next with original := prior.original, fingerprint := prior.fingerprint },
        acc.2.eraseIdx i)
    | none =>
      (acc.1.push { path := prior.path, original := prior.original,
                    fingerprint := prior.fingerprint, proposed := prior.proposed,
                    found := [], replacements := [] }, acc.2)) (#[], planned)
  merged.toList ++ rest

/-- Plan a further replacement on top of what a pending `base` proposes. -/
def Session.planOn (base : Session) (t : Tree) (root : NodeId) (matcher : Matcher)
    (replacement : String) : Except EditError Session := do
  if base.phase != .pending then throw (.invalidState base.phase .planOn)
  let proposed := Tree.withTexts t (base.files.map fun f => (f.path, f.proposed))
  let scope ← rebaseScope base t proposed root
  let planned ← planFiles proposed scope matcher replacement
  let files := (chainFiles base.files planned).mergeSort fun a b =>
    positionLe (filePosition t a.path) (filePosition t b.path)
  pure { files, encoding := base.encoding, mode := base.mode }

end Arbor.Edit
