import Arbor.Diff.Compact
/-!
Unified diffs.
-/

namespace Arbor.Diff

/-- What a tidied script is built from while it is read: the kept run, the deleted run and the
inserted run not yet written out, and the steps written so far. -/
structure Tidy where
  kept : Option (Nat × Nat × Nat) := none
  deleted : Option (Nat × Nat × Nat) := none
  inserted : Option (Nat × Nat × Nat) := none
  done : Array Op := #[]

namespace Tidy

def flushKept (t : Tidy) : Tidy :=
  match t.kept with
  | some (o, n, len) => { t with kept := none, done := t.done.push (.equal o n len) }
  | none => t

def flushChanges (t : Tidy) : Tidy :=
  let t' := { t with deleted := none, inserted := none }
  match t.deleted, t.inserted with
  | some (o, ol, _), some (_, n, nl) => { t' with done := t.done.push (.replace o ol n nl) }
  | some (o, ol, n), none => { t' with done := t.done.push (.delete o ol n) }
  | none, some (o, n, nl) => { t' with done := t.done.push (.insert o n nl) }
  | none, none => t'

/-- Read one step of a raw script. -/
def step (t : Tidy) : Op → Tidy
  | .equal o n len =>
    let t := t.flushChanges
    { t with kept := match t.kept with
      | some (ko, kn, kl) => some (ko, kn, kl + len)
      | none => some (o, n, len) }
  | .delete o len n =>
    let t := t.flushKept
    { t with deleted := match t.deleted with
      | some (d, dl, dn) => some (d, dl + len, dn)
      | none => some (o, len, n) }
  | .insert o n len =>
    let t := t.flushKept
    { t with inserted := match t.inserted with
      | some (io, i, il) => some (io, i, il + len)
      | none => some (o, n, len) }
  | .replace o ol n nl =>
    let t := t.flushKept
    { t with done := t.done.push (.replace o ol n nl) }

end Tidy

def tidy (ops : List Op) : List Op :=
  ((ops.foldl Tidy.step {}).flushKept.flushChanges).done.toList

def trimFirst (context : Nat) : List Op → List Op
  | .equal o n len :: rest =>
    let cut := len - context
    .equal (o + cut) (n + cut) (len - cut) :: rest
  | ops => ops

def trimLast (context : Nat) (ops : List Op) : List Op :=
  match ops.getLast? with
  | some (.equal o n len) => ops.dropLast ++ [.equal o n (len - (len - context))]
  | _ => ops

def hunks (context : Nat) (ops : List Op) : List (List Op) :=
  if ops.isEmpty then [] else
  let ops := trimLast context (trimFirst context ops)
  let (done, pending) := ops.foldl (fun (acc : Array (List Op) × Array Op) op =>
    match op with
    | .equal o n len =>
      if len > context * 2 then
        let cut := len - context
        (acc.1.push (acc.2.push (.equal o n context)).toList,
          #[.equal (o + cut) (n + cut) (len - cut)])
      else (acc.1, acc.2.push op)
    | _ => (acc.1, acc.2.push op)) (#[], #[])
  match pending.toList with
  | [] | [.equal ..] => done.toList
  | rest => (done.push rest).toList

/-- A line range of a hunk header: `first,count`, or the line alone for one line. -/
def rangeText (first stop : Nat) : String :=
  let len := stop - first
  if len == 1 then toString (first + 1)
  else if len == 0 then s!"{first},{len}"
  else s!"{first + 1},{len}"

def hunkHeader (ops : List Op) : String :=
  match ops.head?, ops.getLast? with
  | some a, some b =>
    s!"@@ -{rangeText a.oldRange.1 b.oldRange.2} +{rangeText a.newRange.1 b.newRange.2} @@"
  | _, _ => ""

def endsLine (line : String) : Bool := line.endsWith "\n" || line.endsWith "\r"

def markLine (mark : String) (line : String) : String :=
  if endsLine line then mark ++ line else mark ++ line ++ "\n\\ No newline at end of file\n"

def markLines (lines : Array String) (mark : String) (first stop : Nat) : String :=
  String.join ((lines.extract first stop).toList.map (markLine mark))

def opLines (old new : Array String) : Op → String
  | .equal o _ len => markLines old " " o (o + len)
  | .delete o len _ => markLines old "-" o (o + len)
  | .insert _ n len => markLines new "+" n (n + len)
  | .replace o ol n nl => markLines old "-" o (o + ol) ++ markLines new "+" n (n + nl)

/-- A hunk: its header and its lines. -/
def hunkText (old new : Array String) (ops : List Op) : String :=
  let body := String.join (ops.map (opLines old new))
  if body.isEmpty then "" else hunkHeader ops ++ "\n" ++ body

/-- The unified diff of two texts with `context` lines of context, both files named
`label`. -/
def unified (context : Nat) (label : String) (before after : String) : String :=
  let old := (lineTokens before).toArray
  let new := (lineTokens after).toArray
  let parts := (hunks context (tidy (compact old new (rawScript old new)))).map (hunkText old new)
  if parts.isEmpty then "" else s!"--- {label}\n+++ {label}\n" ++ String.join parts

inductive Change where
  | kept (line : String)
  | removed (line : String)
  | added (line : String)
  deriving Inhabited

/-- Every line of both texts in diff order, each kept line once and removed lines before the
lines added in their place. -/
def changes (before after : String) : List Change :=
  let old := (lineTokens before).toArray
  let new := (lineTokens after).toArray
  let olds (o len : Nat) (f : String → Change) := (List.range len).map fun i => f (old.getD (o + i) "")
  let news (n len : Nat) (f : String → Change) := (List.range len).map fun i => f (new.getD (n + i) "")
  (tidy (compact old new (rawScript old new))).flatMap fun
    | .equal o _ len => olds o len .kept
    | .delete o len _ => olds o len .removed
    | .insert _ n len => news n len .added
    | .replace o ol n nl => olds o ol .removed ++ news n nl .added

end Arbor.Diff
