/-!
Edit scripts between two sequences of lines.
-/

namespace Arbor.Diff

/-- The lines of a text, each with its terminator. -/
def lineTokens (s : String) : List String :=
  let rec go : List Char → List Char → List String
    | [], acc => if acc.isEmpty then [] else [String.ofList acc.reverse]
    | '\r' :: '\n' :: rest, acc => String.ofList ('\n' :: '\r' :: acc).reverse :: go rest []
    | '\r' :: rest, acc => String.ofList ('\r' :: acc).reverse :: go rest []
    | '\n' :: rest, acc => String.ofList ('\n' :: acc).reverse :: go rest []
    | c :: rest, acc => go rest (c :: acc)
  go s.toList []

/-- One step of an edit script. Positions count lines from 0. -/
inductive Op where
  | equal (old new len : Nat)
  | delete (old len new : Nat)
  | insert (old new len : Nat)
  | replace (old oldLen new newLen : Nat)
  deriving DecidableEq, Repr, Inhabited

namespace Op

/-- The old lines a step covers, as first and one past last. -/
def oldRange : Op → Nat × Nat
  | .equal o _ len => (o, o + len)
  | .delete o len _ => (o, o + len)
  | .insert o _ _ => (o, o)
  | .replace o ol _ _ => (o, o + ol)

/-- The new lines a step covers, as first and one past last. -/
def newRange : Op → Nat × Nat
  | .equal _ n len => (n, n + len)
  | .delete _ _ n => (n, n)
  | .insert _ n len => (n, n + len)
  | .replace _ _ n nl => (n, n + nl)

end Op

/-- How many lines two sequences have in common from positions `i` and `j` on, looking at no
more than `limit` of them. -/
def prefixRun (a b : Array String) (i j : Nat) : Nat → Nat
  | 0 => 0
  | limit + 1 => if a[i]? == b[j]? then prefixRun a b (i + 1) (j + 1) limit + 1 else 0

/-- How many lines two sequences have in common going back from just before positions `i`
and `j`, looking at no more than `limit` of them. -/
def suffixRun (a b : Array String) (i j : Nat) : Nat → Nat
  | 0 => 0
  | limit + 1 => if a[i - 1]? == b[j - 1]? then suffixRun a b (i - 1) (j - 1) limit + 1 else 0

/-- A part of the two sequences still to be compared: old lines `oldStart ..< oldEnd` against
new lines `newStart ..< newEnd`. -/
structure Window where
  oldStart : Nat
  oldEnd : Nat
  newStart : Nat
  newEnd : Nat
  deriving Repr, Inhabited

def Window.oldLen (w : Window) : Nat := w.oldEnd - w.oldStart

def Window.newLen (w : Window) : Nat := w.newEnd - w.newStart

def searchRounds (n m : Nat) : Nat := (n + m + 1) / 2 + 1

/-- The furthest old position reached on each diagonal `k` (old position less new position),
for one direction of the search. -/
structure Frontier where
  offset : Nat
  reach : Array Nat
  deriving Inhabited

def Frontier.start (rounds : Nat) : Frontier := ⟨rounds, Array.replicate (2 * rounds) 0⟩

def Frontier.get (v : Frontier) (k : Int) : Nat := v.reach.getD (k + v.offset).toNat 0

/-- Record the reach on diagonal `k`. -/
def Frontier.set (v : Frontier) (k : Int) (x : Nat) : Frontier :=
  { v with reach := v.reach.setIfInBounds (k + v.offset).toNat x }

/-- Where a round starts on diagonal `k`: one step on from the better of its two neighbours. -/
def Frontier.entry (v : Frontier) (d k : Int) : Nat :=
  if k == -d || (k != d && v.get (k - 1) < v.get (k + 1)) then v.get (k + 1) else v.get (k - 1) + 1

/-- What one round of the search in one direction leaves: both frontiers, and the split point
if the fronts met. -/
abbrev Round := Frontier × Option (Nat × Nat)

/-- The forward half of a round: extend every diagonal from the start of the window and, when
the difference of the lengths is odd, stop where a forward run reaches the backward front. -/
def forwardPass (old new : Array String) (w : Window) (d delta : Int) (vb : Frontier) :
    Frontier → List Int → Round
  | vf, [] => (vf, none)
  | vf, k :: ks =>
    let n := w.oldLen
    let m := w.newLen
    let x := vf.entry d k
    let y : Int := x - k
    let reach :=
      if x < n && 0 ≤ y && y < m then
        x + prefixRun old new (w.oldStart + x) (w.newStart + y.toNat) (min (n - x) (m - y.toNat))
      else x
    let vf := vf.set k reach
    let odd := delta % 2 == 1 || delta % 2 == -1
    if odd && (k - delta).natAbs ≤ d - 1 && vf.get k + vb.get (-(k - delta)) ≥ n then
      (vf, some (x + w.oldStart, y.toNat + w.newStart))
    else forwardPass old new w d delta vb vf ks

/-- The backward half of a round: extend every diagonal from the end of the window and, when
the difference of the lengths is even, stop where a backward run reaches the forward front. -/
def backwardPass (old new : Array String) (w : Window) (d delta : Int) (vf : Frontier) :
    Frontier → List Int → Round
  | vb, [] => (vb, none)
  | vb, k :: ks =>
    let n := w.oldLen
    let m := w.newLen
    let x := vb.entry d k
    let y : Int := x - k
    let (x, y) : Nat × Int :=
      if x < n && 0 ≤ y && y < m then
        let run := suffixRun old new (w.oldStart + n - x) (w.newStart + m - y.toNat)
          (min (n - x) (m - y.toNat))
        (x + run, y + run)
      else (x, y)
    let vb := vb.set k x
    let odd := delta % 2 == 1 || delta % 2 == -1
    if !odd && (k - delta).natAbs ≤ d && vb.get k + vf.get (-(k - delta)) ≥ n then
      (vb, some (n - x + w.oldStart, (m - y).toNat + w.newStart))
    else backwardPass old new w d delta vf vb ks

def diagonals (d : Nat) : List Int := (List.range (d + 1)).map fun (i : Nat) => (d : Int) - 2 * (i : Int)

def searchFrom (old new : Array String) (w : Window) (delta : Int) :
    Nat → Nat → Frontier → Frontier → Option (Nat × Nat)
  | 0, _, _, _ => none
  | left + 1, d, vf, vb =>
    match forwardPass old new w d delta vb vf (diagonals d) with
    | (_, some p) => some p
    | (vf, none) =>
      match backwardPass old new w d delta vf vb (diagonals d) with
      | (_, some p) => some p
      | (vb, none) => searchFrom old new w delta left (d + 1) vf vb

/-- The point where an optimal script through the window is split: the start of its middle
run of equal lines. -/
def middleSnake (old new : Array String) (w : Window) : Option (Nat × Nat) :=
  let rounds := searchRounds w.oldLen w.newLen
  searchFrom old new w ((w.oldLen : Int) - w.newLen) rounds 0 (Frontier.start rounds)
    (Frontier.start rounds)

/-- The script for a window: common lines at both ends are kept, and the middle is deleted,
inserted, or split at its middle snake. Each split makes both halves smaller, so `fuel` of the
total number of lines never runs out; without fuel the middle is deleted and inserted whole. -/
def conquer (old new : Array String) : Nat → Window → List Op
  | fuel, w =>
    let head := prefixRun old new w.oldStart w.newStart (min w.oldLen w.newLen)
    let w1 : Window := { w with oldStart := w.oldStart + head, newStart := w.newStart + head }
    let tail := suffixRun old new w1.oldEnd w1.newEnd (min w1.oldLen w1.newLen)
    let w2 : Window := { w1 with oldEnd := w1.oldEnd - tail, newEnd := w1.newEnd - tail }
    let keepHead := if head > 0 then [Op.equal w.oldStart w.newStart head] else []
    let keepTail := if tail > 0 then [Op.equal w2.oldEnd w2.newEnd tail] else []
    let whole := [Op.delete w2.oldStart w2.oldLen w2.newStart,
      Op.insert w2.oldStart w2.newStart w2.newLen]
    let middle :=
      if w2.oldLen = 0 && w2.newLen = 0 then []
      else if w2.newLen = 0 then [Op.delete w2.oldStart w2.oldLen w2.newStart]
      else if w2.oldLen = 0 then [Op.insert w2.oldStart w2.newStart w2.newLen]
      else match fuel with
        | 0 => whole
        | fuel + 1 =>
          match middleSnake old new w2 with
          | some (x, y) =>
            conquer old new fuel { w2 with oldEnd := x, newEnd := y } ++
              conquer old new fuel { w2 with oldStart := x, newStart := y }
          | none => whole
    keepHead ++ middle ++ keepTail

/-- The raw script from the old lines to the new lines. -/
def rawScript (old new : Array String) : List Op :=
  conquer old new (old.size + new.size + 1) ⟨0, old.size, 0, new.size⟩

end Arbor.Diff
