import Arbor.Text.Blank
import Arbor.Text.Word
/-!
Header lines: what makes a line open a class, a function or a decorator run.
-/

namespace Arbor.Outline

open Arbor.Text

/-- The name at the start of `cs`: a word character that is not a digit, then every word
character after it. -/
def nameAt? : List Char → Option String
  | c :: cs =>
    if isWordChar c && !isDecimalDigit c then some (String.ofList (c :: cs.takeWhile isWordChar))
    else none
  | [] => none

/-- What follows the keyword `kw` and the white space after it, if `cs` starts with the
keyword and at least one blank. -/
def afterKeyword? (kw : String) (cs : List Char) : Option (List Char) :=
  if kw.toList.isPrefixOf cs then
    match cs.drop kw.length with
    | c :: rest => if isBlank c then some (dropBlanks rest) else none
    | [] => none
  else none

/-- The name of the class a trimmed line declares. -/
def classHeader? (trimmed : List Char) : Option String :=
  (afterKeyword? "class" trimmed).bind nameAt?

/-- The name of the function a trimmed line declares, with or without `async`. -/
def defHeader? (trimmed : List Char) : Option String :=
  let afterDef := match afterKeyword? "async" trimmed with
    | some rest => afterKeyword? "def" rest
    | none => afterKeyword? "def" trimmed
  afterDef.bind nameAt?

/-- The name of the decorator a trimmed line applies. -/
def decorator? : List Char → Option String
  | '@' :: cs =>
    let name := (dropBlanks cs).takeWhile fun c => isWordChar c || c == '.'
    if name.isEmpty then none else some (String.ofList name)
  | _ => none

/-- A header of a class or a function, with its name. -/
inductive Header where
  | classDef (name : String)
  | function (name : String)
  deriving DecidableEq, Repr

/-- The header a trimmed line makes, a class header taking precedence. -/
def header? (trimmed : List Char) : Option Header :=
  match classHeader? trimmed with
  | some n => some (.classDef n)
  | none => (defHeader? trimmed).map .function

end Arbor.Outline
