import Arbor.Glob.Basic
import Arbor.Regex.Run
/-!
Matching paths against globs.
-/

namespace Arbor

namespace Glob

open Arbor.Regex

/-- Any character, line feeds included: paths may hold them. -/
def anyChar : CharSet := CharSet.any

def notSlash : CharSet := .compl (.single '/')

def anyRun : Ast := .rep (.step anyChar) 0 none true

mutual

def Token.toAst (literalSeparator : Bool) : Token → Ast
  | .literal c => .step (.single c)
  | .any => .step (if literalSeparator then notSlash else anyChar)
  | .zeroOrMore => .rep (.step (if literalSeparator then notSlash else anyChar)) 0 none true
  | .recursivePrefix =>
    .alt (.rep (.step (.single '/')) 0 (some 1) true) (.seq anyRun (.step (.single '/')))
  | .recursiveSuffix => .seq (.step (.single '/')) anyRun
  | .recursiveZeroOrMore =>
    .alt (.step (.single '/')) (Ast.seqAll [.step (.single '/'), anyRun, .step (.single '/')])
  | .cls negated ranges =>
    let set := CharSet.unionAll (ranges.map fun (lo, hi) => .range lo.toNat hi.toNat)
    .step (if negated then .compl set else set)
  | .alternates branches =>
    let parts := (branchesAst literalSeparator branches).filter fun a => !(a matches .empty)
    if parts.isEmpty then .empty else Ast.altAll parts

def tokensAst (literalSeparator : Bool) : List Token → List Ast
  | [] => []
  | t :: rest => t.toAst literalSeparator :: tokensAst literalSeparator rest

def branchesAst (literalSeparator : Bool) : List (List Token) → List Ast
  | [] => []
  | b :: rest => Ast.seqAll (tokensAst literalSeparator b) :: branchesAst literalSeparator rest

end

def globAst (literalSeparator : Bool) (toks : List Token) : Ast :=
  let body := match toks with
    | [.recursivePrefix] => anyRun
    | _ => Ast.seqAll (tokensAst literalSeparator toks)
  Ast.seqAll [.look .textStart, body, .look .textEnd]

end Glob

/-- A glob ready to match paths. -/
structure Glob where
  pattern : String
  program : Regex.Program
  deriving Inhabited

/-- Read a glob for matching. -/
def Glob.compile (pattern : String) (literalSeparator : Bool) : Except GlobError Glob := do
  let toks ← tokens pattern
  pure ⟨pattern, Regex.Program.compile (globAst literalSeparator toks) 0⟩

/-- Whether a glob matches a whole path. -/
def Glob.matches (g : Glob) (path : String) : Bool :=
  (g.program.search path.toList.toArray 0).isSome

end Arbor
