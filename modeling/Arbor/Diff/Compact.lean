import Arbor.Diff.Script
/-!
Sliding changes together.
-/

namespace Arbor.Diff

namespace Op

def isEmpty (op : Op) : Bool := op.oldRange.1 == op.oldRange.2 && op.newRange.1 == op.newRange.2

/-- Move the start of a step and change its length; a replacement is left as it is. -/
def adjust (op : Op) (offset : Nat → Nat) (length : Nat → Nat) : Op :=
  match op with
  | .equal o n len => .equal (offset o) (offset n) (length len)
  | .delete o len n => .delete (offset o) (length len) (offset n)
  | .insert o n len => .insert (offset o) (offset n) (length len)
  | op => op

def shiftUp (a : Nat) (op : Op) : Op := op.adjust (· - a) id

def shiftDown (a : Nat) (op : Op) : Op := op.adjust (· + a) id

def growBefore (a : Nat) (op : Op) : Op := op.adjust (· - a) (· + a)

def growAfter (a : Nat) (op : Op) : Op := op.adjust id (· + a)

def cutEnd (a : Nat) (op : Op) : Op := op.adjust id (· - a)

def cutStart (a : Nat) (op : Op) : Op := op.adjust (· + a) (· - a)

def isEqual : Op → Bool
  | .equal .. => true
  | _ => false

def oldLen (op : Op) : Nat := op.oldRange.2 - op.oldRange.1

def newLen (op : Op) : Nat := op.newRange.2 - op.newRange.1

end Op

def commonEnd (a : Array String) (ra : Nat × Nat) (b : Array String) (rb : Nat × Nat) : Nat :=
  suffixRun a b ra.2 rb.2 (min (ra.2 - ra.1) (rb.2 - rb.1))

def commonStart (a : Array String) (ra : Nat × Nat) (b : Array String) (rb : Nat × Nat) : Nat :=
  prefixRun a b ra.1 rb.1 (min (ra.2 - ra.1) (rb.2 - rb.1))

def stepAt (ops : Array Op) (i : Nat) : Op := ops.getD i (.equal 0 0 0)

/-- Slide the change at position `p` over a kept run before it by `s` lines: the kept run loses
its last `s` lines, which join the kept run after the change (made if there is none). -/
def slideUp (ops : Array Op) (p s : Nat) (kept : Op) : Array Op :=
  let ops := if (ops[p + 1]?.map Op.isEqual).getD false then ops.modify (p + 1) (Op.growBefore s)
    else ops.insertIdxIfInBounds (p + 1) kept
  (ops.modify p (Op.shiftUp s)).modify (p - 1) (Op.cutEnd s)

/-- Slide the change at position `p` as far up as it goes; the change's new position. -/
def raise (old new : Array String) : Nat → Array Op → Nat → Array Op × Nat
  | 0, ops, p => (ops, p)
  | fuel + 1, ops, p =>
    if p = 0 || p ≥ ops.size then (ops, p) else
    let cur := stepAt ops p
    let prev := stepAt ops (p - 1)
    let dropPrev := fun (ops : Array Op) =>
      if (stepAt ops (p - 1)).isEmpty then raise old new fuel (ops.eraseIdxIfInBounds (p - 1)) (p - 1)
      else raise old new fuel ops p
    let slide := fun (s : Nat) =>
      if s > 0 then
        dropPrev (slideUp ops p s (.equal (cur.oldRange.2 - s) (cur.newRange.2 - s) s))
      else if prev.isEmpty then raise old new fuel (ops.eraseIdxIfInBounds (p - 1)) (p - 1)
      else (ops, p)
    match cur, prev with
    | .insert .., .equal .. => slide (commonEnd old prev.oldRange new cur.newRange)
    | .delete .., .equal .. => slide (commonEnd old prev.oldRange old cur.oldRange)
    | .insert .., .delete .. | .delete .., .insert .. =>
      raise old new fuel (ops.swapIfInBounds (p - 1) p) (p - 1)
    | .insert .., .insert .. =>
      raise old new fuel ((ops.modify (p - 1) (Op.growAfter cur.newLen)).eraseIdxIfInBounds p) (p - 1)
    | .delete .., .delete .. =>
      raise old new fuel ((ops.modify (p - 1) (Op.growAfter cur.oldLen)).eraseIdxIfInBounds p) (p - 1)
    | _, _ => (ops, p)

/-- Slide the change at position `p` over a kept run after it by `s` lines: the kept run loses
its first `s` lines, which join the kept run before the change (made if there is none). -/
def slideDown (ops : Array Op) (p s : Nat) (kept : Op) : Array Op × Nat :=
  let (ops, p) := if p > 0 && (ops[p - 1]?.map Op.isEqual).getD false then (ops.modify (p - 1) (Op.growAfter s), p)
    else (ops.insertIdxIfInBounds p kept, p + 1)
  let ops := (ops.modify p (Op.shiftDown s)).modify (p + 1) (Op.cutStart s)
  (if (stepAt ops (p + 1)).isEmpty then ops.eraseIdxIfInBounds (p + 1) else ops, p)

/-- Slide the change at position `p` as far down as it goes; the change's new position. -/
def lower (old new : Array String) : Nat → Array Op → Nat → Array Op × Nat
  | 0, ops, p => (ops, p)
  | fuel + 1, ops, p =>
    if p + 1 ≥ ops.size then (ops, p) else
    let cur := stepAt ops p
    let next := stepAt ops (p + 1)
    let slide := fun (s : Nat) =>
      if s > 0 then
        let (ops, p) := slideDown ops p s (.equal cur.oldRange.1 cur.newRange.1 s)
        lower old new fuel ops p
      else if next.isEmpty then lower old new fuel (ops.eraseIdxIfInBounds (p + 1)) p
      else (ops, p)
    match cur, next with
    | .insert .., .equal .. => slide (commonStart old next.oldRange new cur.newRange)
    | .delete .., .equal .. => slide (commonStart old next.oldRange old cur.oldRange)
    | .insert .., .delete .. | .delete .., .insert .. =>
      lower old new fuel (ops.swapIfInBounds p (p + 1)) (p + 1)
    | .insert .., .insert .. =>
      lower old new fuel ((ops.modify p (Op.growAfter next.newLen)).eraseIdxIfInBounds (p + 1)) p
    | .delete .., .delete .. =>
      lower old new fuel ((ops.modify p (Op.growAfter next.oldLen)).eraseIdxIfInBounds (p + 1)) p
    | _, _ => (ops, p)

/-- Slide every change that `pick` selects up and then down, from the first step to the
last. -/
def slideAll (old new : Array String) (pick : Op → Bool) (fuel : Nat) :
    Nat → Array Op → Nat → Array Op
  | 0, ops, _ => ops
  | left + 1, ops, p =>
    if p ≥ ops.size then ops else
    if pick (stepAt ops p) then
      let (ops, p) := raise old new fuel ops p
      let (ops, p) := lower old new fuel ops p
      slideAll old new pick fuel left ops (p + 1)
    else slideAll old new pick fuel left ops (p + 1)

def Op.isDelete : Op → Bool
  | .delete .. => true
  | _ => false

def Op.isInsert : Op → Bool
  | .insert .. => true
  | _ => false

/-- A script with every deletion and then every insertion slid up and down. -/
def compact (old new : Array String) (ops : List Op) : List Op :=
  let fuel := 2 * (ops.length + old.size + new.size + 1)
  let rounds := 4 * (ops.length + old.size + new.size + 1)
  let ops := slideAll old new Op.isDelete fuel rounds ops.toArray 0
  (slideAll old new Op.isInsert fuel rounds ops 0).toList

end Arbor.Diff
