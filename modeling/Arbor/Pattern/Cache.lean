import Arbor.Pattern.Basic
/-!
A cache of compiled expressions.
-/

namespace Arbor.Pattern

open Arbor.Regex

def cacheCapacity : Nat := 256

/-- Compiled expressions by key, in insertion order. -/
structure Cache where
  entries : List (String × Regex) := []
  deriving Inhabited

/-- The key of an expression read with or without case. -/
def cacheKey (expr : String) (caseSensitive : Bool) : String :=
  (if caseSensitive then "s:" else "i:") ++ expr

namespace Cache

def size (c : Cache) : Nat := c.entries.length

/-- The compiled expression, from the cache or freshly compiled, and the cache after. -/
def getOrCompile (c : Cache) (expr : String) (caseSensitive : Bool) :
    Except SyntaxError Regex × Cache :=
  let key := cacheKey expr caseSensitive
  match c.entries.find? (·.1 == key) with
  | some (_, r) => (.ok r, c)
  | none =>
    let c := if c.size ≥ cacheCapacity then {} else c
    match Regex.compile expr (!caseSensitive) with
    | .ok r => (.ok r, { entries := c.entries ++ [(key, r)] })
    | .error e => (.error e, c)

def clear (_ : Cache) : Cache := {}

@[simp] theorem size_clear (c : Cache) : c.clear.size = 0 := rfl

/-- Compile a pattern through the cache: the same checks as `Spec.compile`. -/
def compile (c : Cache) (s : Spec) : Except PatternError Matcher × Cache :=
  if s.pattern.isEmpty then (.error .empty, c)
  else
    let (r, c) := c.getOrCompile s.expression s.caseSensitive
    match r with
    | .error e => (.error (.invalid s.pattern e), c)
    | .ok r => (s.vet r, c)

end Cache

end Arbor.Pattern
