import Arbor.Regex.Syntax
import Arbor.Regex.ByteRange
/-!
Regular expressions in normal form.
-/

namespace Arbor.Regex

/-- A regular expression in normal form. -/
inductive Expr where
  | empty
  | literal (chars : List Nat)
  | set (intervals : Intervals)
  | look (l : Look)
  | rep (body : Expr) (min : Nat) (max : Option Nat) (greedy : Bool)
  | capture (index : Nat) (body : Expr)
  | concat (parts : List Expr)
  | alt (branches : List Expr)
  deriving BEq, Inhabited

namespace Expr

def ofIntervals : Intervals → Expr
  | [(a, b)] => if a == b then .literal [a] else .set [(a, b)]
  | xs => .set xs

def joinLiterals : List Expr → List Expr
  | .literal a :: .literal b :: rest => joinLiterals (.literal (a ++ b) :: rest)
  | e :: rest => e :: joinLiterals rest
  | [] => []
termination_by es => es.length

def seqParts (es : List Expr) : List Expr :=
  es.flatMap fun e => match e with
    | .concat ps => ps
    | .empty => []
    | e => [e]

/-- A sequence in normal form. -/
def seq (es : List Expr) : Expr :=
  match joinLiterals (seqParts es) with
  | [] => .empty
  | [e] => e
  | ps => .concat ps

def singleChar? : Expr → Option Nat
  | .literal [c] => some c
  | _ => none

def intervals? : Expr → Option Intervals
  | .set xs => some xs
  | _ => none

def parts? : Expr → Option (List Expr)
  | .concat ps => some ps
  | _ => none

def commonPrefix : List Expr → List Expr → List Expr
  | a :: as, b :: bs => if a == b then a :: commonPrefix as bs else []
  | _, _ => []

def branchesOf (es : List Expr) : List Expr :=
  es.flatMap fun e => match e with
    | .alt bs => bs
    | e => [e]

/-- An alternation in normal form, lifting common first parts at most `fuel` times in
depth. -/
def altWith : Nat → List Expr → Expr
  | 0, es => .alt (branchesOf es)
  | fuel + 1, es =>
    let bs := branchesOf es
    match bs with
    | [] => .set []
    | [e] => e
    | _ =>
      match bs.mapM singleChar? with
      | some cs => ofIntervals (Intervals.normalize (cs.map fun c => (c, c)))
      | none =>
        match bs.mapM intervals? with
        | some xss => ofIntervals (xss.foldl Intervals.union [])
        | none =>
          match bs.mapM parts? with
          | some (first :: rest) =>
            let common := rest.foldl commonPrefix first
            if common.isEmpty then .alt bs
            else
              let n := common.length
              seq (common ++ [altWith fuel ((first :: rest).map fun ps => seq (ps.drop n))])
          | _ => .alt bs

/-- The number of nodes of an expression. Each lifting of a common first part takes at
least one node from every branch, so it bounds how deep liftings nest. -/
def nodeCount : Expr → Nat
  | .rep b _ _ _ => b.nodeCount + 1
  | .capture _ b => b.nodeCount + 1
  | .concat ps => (ps.attach.map fun ⟨p, _⟩ => p.nodeCount).foldr (· + ·) 0 + 1
  | .alt bs => (bs.attach.map fun ⟨b, _⟩ => b.nodeCount).foldr (· + ·) 0 + 1
  | _ => 1

/-- An alternation in normal form. -/
def alternation (es : List Expr) : Expr :=
  altWith ((es.map nodeCount).foldr (· + ·) 0 + 1) es

/-- A repetition in normal form. -/
def repetition (e : Expr) (min : Nat) (max : Option Nat) (greedy : Bool) : Expr :=
  if min == 0 && max == some 0 then .empty
  else if min == 1 && max == some 1 then e
  else .rep e min max greedy

/-- The fewest bytes a match takes; none for an expression that never matches. -/
def minLen : Expr → Option Nat
  | .empty | .look _ => some 0
  | .literal cs => some ((cs.map utf8Length).foldr (· + ·) 0)
  | .set [] => none
  | .set ((a, _) :: _) => some (utf8Length a)
  | .rep b lo _ _ => b.minLen.map (· * lo)
  | .capture _ b => b.minLen
  | .concat ps => (ps.attach.mapM fun (x : { p // p ∈ ps }) => have _ := x.2; x.1.minLen).map (·.foldr (· + ·) 0)
  | .alt bs => (bs.attach.mapM fun (x : { b // b ∈ bs }) => have _ := x.2; x.1.minLen).bind List.min?

/-- The most bytes a match takes; none when unbounded or when it never matches. -/
def maxLen : Expr → Option Nat
  | .empty | .look _ => some 0
  | .literal cs => some ((cs.map utf8Length).foldr (· + ·) 0)
  | .set xs => xs.getLast?.map fun (_, b) => utf8Length b
  | .rep b _ hi _ => match hi, b.maxLen with
    | some m, some x => some (x * m)
    | _, _ => none
  | .capture _ b => b.maxLen
  | .concat ps => (ps.attach.mapM fun (x : { p // p ∈ ps }) => have _ := x.2; x.1.maxLen).map (·.foldr (· + ·) 0)
  | .alt bs => (bs.attach.mapM fun (x : { b // b ∈ bs }) => have _ := x.2; x.1.maxLen).bind List.max?

/-- Whether a condition holds somewhere in a window of parts, given `(holds, blank)` per
part with `blank` when the part reads nothing: the window runs up to and including the
first part that may read a character. -/
def holdsInWindow : List (Bool × Bool) → Bool
  | [] => false
  | (holds, blank) :: rest => holds || (blank && holdsInWindow rest)

/-- Whether every match is preceded by the condition `l` before any character is read:
a condition that the whole expression, or one of the leading parts up to the first one that
may read something, tests for sure. -/
def leads (l : Look) : Expr → Bool
  | .look m => m == l
  | .rep b lo _ _ => lo > 0 && b.leads l
  | .capture _ b => b.leads l
  | .concat ps => holdsInWindow (ps.attach.map fun ⟨p, _⟩ => (p.leads l, p.maxLen == some 0))
  | .alt bs => bs.attach.all fun ⟨b, _⟩ => b.leads l
  | _ => false

/-- Whether every match is followed by the condition `l` after the last character read. -/
def trails (l : Look) : Expr → Bool
  | .look m => m == l
  | .rep b lo _ _ => lo > 0 && b.trails l
  | .capture _ b => b.trails l
  | .concat ps =>
    holdsInWindow (ps.attach.map fun ⟨p, _⟩ => (p.trails l, p.maxLen == some 0)).reverse
  | .alt bs => bs.attach.all fun ⟨b, _⟩ => b.trails l
  | _ => false

end Expr

/-- The normal form of a parsed expression. Inside a chain of alternatives (`inChain`),
the branches are collected and the chain is brought to normal form as a whole. -/
def Ast.normalWith (inChain : Bool) : Ast → Expr
  | .empty => .empty
  | .step s => Expr.ofIntervals s.intervals
  | .look l => .look l
  | .group (some i) b => .capture i (b.normalWith false)
  | .group none b => b.normalWith false
  | .seq a b => Expr.seq [a.normalWith false, b.normalWith false]
  | .alt a b =>
    let bs := [a.normalWith true, b.normalWith true]
    if inChain then .alt (Expr.branchesOf bs) else Expr.alternation bs
  | .rep b lo hi greedy => Expr.repetition (b.normalWith false) lo hi greedy

def Ast.normal (a : Ast) : Expr := a.normalWith false

end Arbor.Regex
