import Arbor.Regex.CharSet
/-!
Regular expressions after parsing.
-/

namespace Arbor.Regex

/-- A condition on the position between two characters, consuming nothing. -/
inductive Look where
  | textStart
  | textEnd
  | lineStart
  | lineEnd
  | lineStartCrlf
  | lineEndCrlf
  | wordBoundary (unicode : Bool)
  | notWordBoundary (unicode : Bool)
  | wordStart (unicode : Bool)
  | wordEnd (unicode : Bool)
  | wordStartHalf (unicode : Bool)
  | wordEndHalf (unicode : Bool)
  deriving Inhabited, BEq

/-- A parsed regular expression. -/
inductive Ast where
  | empty
  | step (s : CharSet)
  | look (l : Look)
  | group (index : Option Nat) (body : Ast)
  | seq (a b : Ast)
  | alt (a b : Ast)
  | rep (body : Ast) (min : Nat) (max : Option Nat) (greedy : Bool)
  deriving Inhabited

/-- The flags that change how the rest of a pattern reads. -/
structure Flags where
  caseless : Bool := false
  multiLine : Bool := false
  dotAll : Bool := false
  swapGreed : Bool := false
  unicode : Bool := true
  verbose : Bool := false
  crlf : Bool := false
  deriving Inhabited

/-- Why a pattern is not a regular expression this engine accepts. -/
inductive SyntaxError where
  | unclosed
  | unopened
  | repetitionMissing
  | badRepetition
  | badEscape
  | badClass
  | badGroup
  | unsupported
  | unknownProperty
  | invalidUtf8
  | unicodeNotAllowed
  | tooLarge
  | automatonTooLarge
  deriving DecidableEq, Repr, Inhabited

namespace Ast

/-- The sequence of a list of expressions. -/
def seqAll : List Ast → Ast
  | [] => .empty
  | [a] => a
  | a :: rest => .seq a (seqAll rest)

/-- The alternation of a list of expressions, the first preferred. -/
def altAll : List Ast → Ast
  | [] => .empty
  | [a] => a
  | a :: rest => .alt a (altAll rest)

end Ast

end Arbor.Regex
