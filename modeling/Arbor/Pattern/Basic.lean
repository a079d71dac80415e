import Arbor.Regex.Basic
/-!
Search patterns: literal text or a regular expression, optionally whole-word and
case-insensitive.
-/

namespace Arbor.Pattern

open Arbor.Regex

/-- A pattern with the options that control how it matches. -/
structure Spec where
  pattern : String
  regex : Bool := false
  wholeWord : Bool := false
  caseSensitive : Bool := true
  deriving Inhabited

/-- Why a pattern cannot be used. -/
inductive PatternError where
  | empty
  | invalid (pattern : String) (cause : SyntaxError)
  | zeroWidth (pattern : String)
  deriving Inhabited

/-- The message of a pattern error. -/
def PatternError.message : PatternError → String
  | .empty => "pattern is empty"
  | .invalid p _ => "invalid pattern '" ++ p ++ "'"
  | .zeroWidth p => "pattern '" ++ p ++ "' can match an empty string"

def isSyntaxChar (c : Char) : Bool := "\\.+*?()|[]{}^$#&-~".toList.contains c

/-- A text as an expression matching exactly that text: each syntax character gets a
backslash. -/
def escape (s : String) : String :=
  String.ofList (s.toList.flatMap fun c => if isSyntaxChar c then ['\\', c] else [c])

/-- The expression a pattern compiles to. -/
def Spec.expression (s : Spec) : String :=
  let body := if s.regex then s.pattern else escape s.pattern
  if s.wholeWord then "\\b(?:" ++ body ++ ")\\b" else body

def zeroWidthSamples : List String := ["", " ", "a", "_", "0", "a b", "\t", "(", "a.b"]

/-- A usable pattern: its options and its compiled expression. -/
structure Matcher where
  spec : Spec
  regex : Regex
  deriving Inhabited

/-- Check a compiled expression for the pattern `s`: refuse it if it matches empty text on a
sample line. -/
def Spec.vet (s : Spec) (r : Regex) : Except PatternError Matcher :=
  if zeroWidthSamples.any (fun line => (r.findIter line).any fun (a, b) => a == b) then
    .error (.zeroWidth s.pattern)
  else .ok ⟨s, r⟩

/-- Compile a pattern. -/
def Spec.compile (s : Spec) : Except PatternError Matcher :=
  if s.pattern.isEmpty then .error .empty
  else match Regex.compile s.expression (!s.caseSensitive) with
    | .error e => .error (.invalid s.pattern e)
    | .ok r => s.vet r

/-- The non-empty matches of a pattern in a line, as byte ranges, left to right. -/
def Matcher.findAll (m : Matcher) (line : String) : List (Nat × Nat) :=
  (m.regex.findIter line).filter fun (a, b) => a != b

end Arbor.Pattern
