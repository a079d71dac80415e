import Arbor.Regex.Normal
import Std.Data.HashMap
/-!
The size of the automata a pattern compiles to, and the limit on it.
-/

namespace Arbor.Regex

def automatonLimit : Nat := 10485760

def stateCost : Nat := 32

def transitionCost : Nat := 8

def alternativeCost : Nat := 4

/-- An automaton under construction, as far as its size goes: its number of states, and the
bytes its transitions and alternatives take. -/
structure Tally where
  states : Nat := 0
  extra : Nat := 0

def Tally.bytes (t : Tally) : Nat := stateCost * t.states + t.extra

/-- Building an automaton: a step fails once the automaton passes the limit. -/
abbrev Building := StateT Tally (Except Unit)

def addState (extra : Nat) : Building Nat := fun t =>
  let t' : Tally := { states := t.states + 1, extra := t.extra + extra }
  if automatonLimit < t'.bytes then .error () else .ok (t.states, t')

def addAlternative : Building Unit := fun t =>
  let t' : Tally := { t with extra := t.extra + alternativeCost }
  if automatonLimit < t'.bytes then .error () else .ok ((), t')

def addStates (n : Nat) : Building Unit := fun t =>
  let t' : Tally := { t with states := t.states + n }
  if automatonLimit < t'.bytes then .error () else .ok ((), t')

/-- Link the exit of a piece onward: an alternative more when the exit branches. -/
def link (branching : Bool) : Building Unit := if branching then addAlternative else pure ()

def iterateSteps {σ : Type} (f : σ → Building σ) : Nat → σ → Building σ
  | 0, s => fun t => .ok (s, t)
  | n + 1, s => fun t =>
    match f s t with
    | .ok (s', t') => iterateSteps f n s' t'
    | .error e => .error e

def fnv1a (xs : List Nat) : UInt64 :=
  xs.foldl (fun h x => (h ^^^ x.toUInt64) * 1099511628211) 14695981039346656037

/-- A transition of a state that reads a byte set: a byte range and the state it leads to. -/
abbrev Transition := Nat × Nat × Nat

/-- A node of the trie still open: its finished transitions, and the range of the last one
while the state it leads to is not built yet. -/
structure OpenNode where
  done : List Transition := []
  pending : Option (Nat × Nat) := none

/-- Close the open transition of a node towards `next`. -/
def OpenNode.close (n : OpenNode) (next : Nat) : List Transition :=
  n.done ++ (n.pending.map fun (a, b) => [(a, b, next)]).getD []

/-- The forward build of a large set: the open nodes from the root down, and the built
subtries by slot. -/
structure Trie where
  nodes : Array OpenNode
  built : Std.HashMap Nat (List Transition × Nat)

def trieSlots : UInt64 := 10000

def tailSlots : UInt64 := 1000

namespace Trie

/-- The state for a node with these transitions: one built before if its slot remembers it,
else a new one. -/
def intern (tr : Trie) (ts : List Transition) : Building (Nat × Trie) := do
  let slot := (fnv1a (ts.flatMap fun (a, b, n) => [a, b, n]) % trieSlots).toNat
  match tr.built[slot]? with
  | some (key, id) => if key == ts then return (id, tr) else fresh slot
  | none => fresh slot
where
  fresh (slot : Nat) : Building (Nat × Trie) := do
    let id ← addState (transitionCost * ts.length)
    return (id, { tr with built := tr.built.insert slot (ts, id) })

/-- Build the open nodes below depth `depth`, deepest first, each leading to the one built
before it and the deepest to `target`; then close the open transition at `depth` towards
the last one built. -/
def freezeBelow (tr : Trie) (depth target : Nat) : Building Trie := do
  let (next, tr) ← iterateSteps (fun (next, tr) => do
      match tr.nodes.back? with
      | some node =>
        let (id, tr) ← intern { tr with nodes := tr.nodes.pop } (node.close next)
        pure (id, tr)
      | none => pure (next, tr))
    (tr.nodes.size - (depth + 1)) (target, tr)
  match tr.nodes.back? with
  | some node =>
    pure { tr with nodes := tr.nodes.pop.push { done := node.close next, pending := none } }
  | none => pure tr

/-- Add a byte-range sequence, which follows every sequence added before in order. -/
def add (tr : Trie) (target : Nat) (seq : ByteSeq) : Building Trie := do
  let shared := ((seq.zip tr.nodes.toList).takeWhile fun (r, n) => n.pending == some r).length
  let tr ← tr.freezeBelow shared target
  match seq.drop shared with
  | [] => pure tr
  | r :: rest =>
    let nodes := match tr.nodes.back? with
      | some node => tr.nodes.pop.push { node with pending := some r }
      | none => tr.nodes
    pure { tr with nodes := nodes ++ (rest.map fun r => { pending := some r }).toArray }

end Trie

/-- The forward piece of a set of intervals beyond ASCII; its exit is a plain state. -/
def forwardSet (xs : Intervals) : Building Unit := do
  let target ← addState 0
  let tr ← (xs.flatMap fun (a, b) => byteSeqs a b).foldlM (fun tr s => tr.add target s)
    ({ nodes := #[{}], built := {} } : Trie)
  let tr ← tr.freezeBelow 0 target
  let root := (tr.nodes.back?.map (·.done)).getD []
  let _ ← tr.intern root
  pure ()

/-- The backward piece of a set of intervals beyond ASCII: a branching entry with one
alternative per sequence, each a chain of byte states that ends in a common exit. A tail
already built from a state, for the same byte range, is taken again. -/
def backwardSet (xs : Intervals) : Building Unit := do
  let _ ← addState 0
  let exit ← addState 0
  let _ ← (xs.flatMap fun (a, b) => byteSeqs a b).foldlM (fun tails s => do
      let (_, tails) ← s.foldlM (fun (next, tails) (a, b) => do
          let key := (next, a, b)
          let slot := (fnv1a [next, a, b] % tailSlots).toNat
          match (tails : Std.HashMap Nat ((Nat × Nat × Nat) × Nat))[slot]? with
          | some (k, id) =>
            if k == key then pure (id, tails)
            else do
              let id ← addState 0
              pure (id, tails.insert slot (key, id))
          | none => do
            let id ← addState 0
            pure (id, tails.insert slot (key, id)))
        (exit, tails)
      addAlternative
      pure tails)
    ({} : Std.HashMap Nat ((Nat × Nat × Nat) × Nat))
  pure ()

/-- The piece of a set of characters: two states for an ASCII set or none at all, else the
byte-range automaton in the direction built. -/
def setPiece (backward : Bool) (xs : Intervals) : Building Unit :=
  if xs.all (·.2 ≤ 0x7F) then do
    let _ ← addState 0
    let _ ← addState (transitionCost * xs.length)
    pure ()
  else if backward then backwardSet xs
  else forwardSet xs

/-- `n` copies of a body one after the other, or one plain state for none; gives whether the
exit branches. -/
def exactly (body : Building Bool) (n : Nat) : Building Bool :=
  match n with
  | 0 => do let _ ← addState 0; pure false
  | n + 1 => do
    let first ← body
    iterateSteps (fun exit => do let next ← body; link exit; pure next) n first

/-- At least `lo` and at most `hi` copies. -/
def bounded (body : Building Bool) (lo hi : Nat) : Building Bool := do
  let first ← exactly body lo
  let _ ← addState 0
  let last ← iterateSteps (fun exit => do
      let _ ← addState 0
      let next ← body
      link exit
      addAlternative
      addAlternative
      pure next) (hi - lo) first
  link last
  pure false

/-- At least `n` copies, with no upper bound. `readsSome` tells whether every match of the
body reads a byte. -/
def atLeast (body : Building Bool) (readsSome : Bool) (n : Nat) : Building Bool :=
  match n with
  | 0 =>
    if readsSome then do
      let _ ← addState 0
      let exit ← body
      addAlternative
      link exit
      pure true
    else do
      let exit ← body
      let _ ← addState 0
      link exit
      addAlternative
      addStates 2
      addAlternative
      addAlternative
      addAlternative
      pure false
  | 1 => do
    let exit ← body
    let _ ← addState 0
    link exit
    addAlternative
    pure true
  | n + 2 => do
    let before ← exactly body (n + 1)
    let last ← body
    let _ ← addState 0
    link before
    link last
    addAlternative
    pure true

/-- None or one copy. -/
def optional (body : Building Bool) : Building Bool := do
  let _ ← addState 0
  let exit ← body
  let _ ← addState 0
  addAlternative
  addAlternative
  link exit
  pure false

mutual

/-- Build the piece of an expression in one direction; gives whether its exit branches. -/
def Expr.build (backward : Bool) : Expr → Building Bool
  | .empty => do let _ ← addState 0; pure false
  | .literal cs => do addStates (cs.map utf8Length).sum; pure false
  | .set xs => do setPiece backward xs; pure false
  | .look _ => do let _ ← addState 0; pure false
  | .rep b lo hi _ =>
    let body := b.build backward
    match lo, hi with
    | 0, some 1 => optional body
    | lo, none => atLeast body (b.minLen.any (0 < ·)) lo
    | lo, some h => if lo == h then exactly body lo else bounded body lo h
  | .capture _ b =>
    if backward then b.build backward
    else do
      let _ ← addState 0
      let exit ← b.build backward
      let _ ← addState 0
      link exit
      pure false
  | .concat ps => do
    let exit ← if backward then Expr.buildBackward backward ps else Expr.buildForward backward ps
    pure (exit.getD false)
  | .alt bs => do
    Expr.buildBranches backward 0 bs
    pure false

/-- Build parts one after the other from the first; gives whether the last exit branches,
or none for no parts. -/
def Expr.buildForward (backward : Bool) : List Expr → Building (Option Bool)
  | [] => pure none
  | p :: rest => do
    let exit ← p.build backward
    match ← Expr.buildForward backward rest with
    | none => pure (some exit)
    | some last => do link exit; pure (some last)

def Expr.buildBackward (backward : Bool) : List Expr → Building (Option Bool)
  | [] => pure none
  | p :: rest => do
    let later ← Expr.buildBackward backward rest
    let exit ← p.build backward
    match later with
    | none => pure (some exit)
    | some e => do link e; pure (some exit)

/-- Build the branches of an alternation from branch `i` on; the branching entry and the
common exit are added after the second branch. -/
def Expr.buildBranches (backward : Bool) (i : Nat) : List Expr → Building Unit
  | [] => pure ()
  | b :: rest => do
    let exit ← b.build backward
    if i == 1 then addStates 2
    addAlternative
    link exit
    Expr.buildBranches backward (i + 1) rest

end

def Expr.fitsOneWay (e : Expr) (backward : Bool) : Bool :=
  let whole : Building Unit := do
    let anchored := if backward then e.trails .textEnd else e.leads .textStart
    -- unless anchored, a lazy loop over any byte comes first
    let skips ← if anchored then do let _ ← addState 0; pure false
      else do
        addStates 2
        let _ ← addState transitionCost
        addAlternative
        pure true
    let exit ← if backward then e.build backward
      else do
        let _ ← addState 0
        let exit ← e.build backward
        let _ ← addState 0
        link exit
        pure false
    let _ ← addState 0
    link exit
    link skips
  match whole.run {} with
  | .ok _ => true
  | .error _ => false

def Expr.fitsAutomata (e : Expr) : Bool := e.fitsOneWay false && e.fitsOneWay true

end Arbor.Regex
