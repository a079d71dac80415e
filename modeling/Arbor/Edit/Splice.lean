import Arbor.Edit.Error
import Arbor.Edit.Fingerprint
import Arbor.Text.Bytes
import Arbor.Text.Quoted
/-!
Byte-range edits checked against the text they replace.
-/

namespace Arbor.Edit

open Arbor.Text

/-- What an edit expects to find in its range. -/
inductive Expectation where
  | exact (text : String)
  | hash (value : UInt64)
  deriving DecidableEq, Repr, Inhabited

def exactLimit : Nat := 1024

/-- The expectation that a text is found again: the text itself, or its fingerprint when it
is longer than `exactLimit` bytes. -/
def Expectation.ofText (s : String) : Expectation :=
  if s.utf8ByteSize > exactLimit then .hash (fingerprint s) else .exact s

/-- Whether a text meets the expectation. -/
def Expectation.holds : Expectation → String → Bool
  | .exact t, s => s == t
  | .hash h, s => fingerprint s == h

/-- The expectation as error messages show it. -/
def Expectation.describe : Expectation → String
  | .exact t => s!"ExactMatch({quoted t})"
  | .hash h => s!"Hash({h})"

/-- One edit: replace bytes `start` up to `stop` with `insert`. -/
structure Splice where
  start : Nat
  stop : Nat
  insert : String
  expected : Expectation
  deriving DecidableEq, Repr, Inhabited

/-- Whether a range can be cut out of a text: in order, inside the text, and between
characters at both ends. -/
def rangeFits (text : String) (start stop : Nat) : Bool :=
  start ≤ stop && stop ≤ text.utf8ByteSize && isCharBoundary text start &&
    isCharBoundary text stop

/-- Check one edit against the text: the range must fit and hold what the edit expects. -/
def Splice.check (text : String) (e : Splice) : Except EditError Unit :=
  if rangeFits text e.start e.stop then
    let found := sliceBytes text e.start e.stop
    if e.expected.holds found then .ok ()
    else .error (.beforeTextMismatch e.start e.stop e.expected.describe (quoted found))
  else .error (.invalidByteRange e.start e.stop text.utf8ByteSize)

/-- Edits sorted by start, last first; edits with one start keep their order. -/
def backwards (batch : List Splice) : List Splice :=
  batch.mergeSort fun a b => decide (b.start ≤ a.start)

/-- The first overlap between neighbours of a batch sorted last first: an edit that ends after
the start of the edit before it in the list. -/
def firstOverlap (size : Nat) : List Splice → Except EditError Unit
  | later :: earlier :: rest =>
    if earlier.stop > later.start then .error (.invalidByteRange later.start earlier.stop size)
    else firstOverlap size (earlier :: rest)
  | _ => .ok ()

/-- Put `insert` in place of bytes `start` up to `stop`. -/
def replaceBytes (text : String) (start stop : Nat) (insert : String) : String :=
  prefixBytes text start ++ insert ++ suffixBytes text stop

/-- Apply a batch of edits at once, or give the first failure: a range that does not fit or
an unexpected text, in sorted order, then an overlap. -/
def applyAll (text : String) (batch : List Splice) : Except EditError String := do
  let sorted := backwards batch
  sorted.forM fun e => e.check text
  firstOverlap text.utf8ByteSize sorted
  return sorted.foldl (fun acc e => replaceBytes acc e.start e.stop e.insert) text

end Arbor.Edit
