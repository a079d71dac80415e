import Arbor.Pattern.Basic
import Arbor.Text.Bytes
/-!
Replacement templates.
-/

namespace Arbor.Pattern

open Arbor.Regex

inductive GroupRef where
  | index (n : Nat)
  | name (s : String)
  deriving Inhabited

def isRefChar (c : Char) : Bool :=
  ('0' ≤ c ∧ c ≤ '9') || ('a' ≤ c ∧ c ≤ 'z') || ('A' ≤ c ∧ c ≤ 'Z') || c == '_'

/-- A reference read as a number when it is one (an optional plus sign, then decimal
digits), as a name otherwise. -/
def GroupRef.ofText (s : List Char) : GroupRef :=
  let digits := match s with
    | '+' :: ds => ds
    | ds => ds
  if !digits.isEmpty && digits.all Char.isDigit then .index (Arbor.Regex.decimalValue digits)
  else .name (String.ofList s)

/-- Read a reference after a dollar sign: the reference and how many characters it takes. -/
def readRef? : List Char → Option (GroupRef × Nat)
  | '{' :: rest =>
    let name := rest.takeWhile (· != '}')
    match rest.drop name.length with
    | '}' :: _ => some (GroupRef.ofText name, name.length + 2)
    | _ => none
  | cs =>
    let name := cs.takeWhile isRefChar
    if name.isEmpty then none else some (GroupRef.ofText name, name.length)

def expandWith (group : GroupRef → String) : List Char → List Char
  | [] => []
  | '$' :: '$' :: rest => '$' :: expandWith group rest
  | '$' :: rest =>
    match readRef? rest with
    | some (ref, n) => (group ref).toList ++ expandWith group (rest.drop n)
    | none => '$' :: expandWith group rest
  | c :: rest => c :: expandWith group rest
termination_by cs => cs.length
decreasing_by all_goals simp only [List.length_cons, List.length_drop]; omega

/-- The replacement for the match at byte range `span` of `line`: the template expanded
with the groups of that match, for a regular-expression pattern. -/
def Matcher.expand (m : Matcher) (line : String) (span : Nat × Nat) (template : String) : String :=
  if !m.spec.regex then template else
    match m.regex.capturesAt line span.1 with
    | some groups =>
      match groups[0]? with
      | some (some whole) =>
        if whole == span then
          let text := fun (g : Nat) => match groups[g]? with
            | some (some (a, b)) => Arbor.Text.sliceBytes line a b
            | _ => ""
          let group := fun (r : GroupRef) => match r with
            | .index n => text n
            | .name s => match m.regex.names.find? (·.1 == s) with
              | some (_, i) => text i
              | none => ""
          String.ofList (expandWith group template.toList)
        else template
      | _ => template
    | none => template

end Arbor.Pattern
