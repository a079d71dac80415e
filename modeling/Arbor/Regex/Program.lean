import Arbor.Regex.Syntax
/-!
Programs of a backtrack-free matching machine.
-/

namespace Arbor.Regex

inductive Inst where
  | step (s : CharSet) (next : Nat)
  | look (l : Look) (next : Nat)
  | save (slot : Nat) (next : Nat)
  | fork (first second : Nat)
  | jump (next : Nat)
  | accept
  deriving Inhabited

/-- A compiled pattern: its instructions, where it starts, and how many capture slots it
fills. -/
structure Program where
  insts : Array Inst
  start : Nat
  slots : Nat
  deriving Inhabited

def emit (i : Inst) : StateM (Array Inst) Nat :=
  modifyGet fun insts => (insts.size, insts.push i)

def patch (pc : Nat) (i : Inst) : StateM (Array Inst) Unit :=
  modify fun insts => insts.modify pc fun _ => i

/-- Compile an expression so that it continues at `next` when it has matched; give the
position of its first instruction. -/
def compileTo : Ast → Nat → StateM (Array Inst) Nat
  | .empty, next => pure next
  | .step s, next => emit (.step s next)
  | .look l, next => emit (.look l next)
  | .group none body, next => compileTo body next
  | .group (some i) body, next => do
    let close ← emit (.save (2 * i + 1) next)
    let entry ← compileTo body close
    emit (.save (2 * i) entry)
  | .seq a b, next => do
    let mid ← compileTo b next
    compileTo a mid
  | .alt a b, next => do
    let second ← compileTo b next
    let first ← compileTo a next
    emit (.fork first second)
  | .rep body lo hi greedy, next => do
    -- the optional or looping tail comes first, then the required copies in front of it
    match hi with
      | none => do
        -- the loop goes back to the start of its copy, which is the last required one
        -- when there is one
        let loop ← emit (.jump 0)
        let entry ← compileTo body loop
        patch loop (if greedy then .fork entry next else .fork next entry)
        let tail := if lo == 0 then loop else entry
        (List.range (lo - 1)).foldlM (fun after _ => compileTo body after) tail
      | some h =>
        let tail ← (List.range (h - lo)).foldlM (fun after _ => do
          let entry ← compileTo body after
          emit (if greedy then .fork entry next else .fork next entry)) next
        (List.range lo).foldlM (fun after _ => compileTo body after) tail

/-- Compile a parsed expression with `groups` capturing groups into a program. -/
def Program.compile (ast : Ast) (groups : Nat) : Program :=
  let build : StateM (Array Inst) Nat := do
    let done ← emit .accept
    compileTo (.group (some 0) ast) done
  let (start, insts) := build.run #[]
  { insts, start, slots := 2 * (groups + 1) }

end Arbor.Regex
