import Arbor.Text.Blank
/-!
Physical lines and their kinds.
-/

namespace Arbor.Layout

open Arbor.Text

/-- Columns of leading white space, read from column `w`: a space adds one, a tab moves to
the next multiple of 8, a form feed goes back to column 0, and any other character stops. -/
def widthFrom : Nat → List Char → Nat
  | w, ' ' :: cs => widthFrom (w + 1) cs
  | w, '\t' :: cs => widthFrom ((w / 8 + 1) * 8) cs
  | _, '\x0c' :: cs => widthFrom 0 cs
  | w, _ => w

/-- The indentation of a line: the column its leading white space reaches. -/
def indentation (line : String) : Nat := widthFrom 0 line.toList

/-- What a physical line is, as far as structure goes. -/
inductive LineKind where
  | blank
  | comment (indent : Nat)
  | code (indent : Nat)
  | continuation
  deriving DecidableEq, Repr, Inhabited

/-- A list of characters cut after every line feed, the piece being read kept reversed in
`cur`: every piece but the last ends in its line feed, and there is no empty last piece. -/
def cutPieces (cur : List Char) : List Char → List (List Char)
  | [] => if cur.isEmpty then [] else [cur.reverse]
  | c :: cs => if c = '\n' then (c :: cur).reverse :: cutPieces [] cs else cutPieces (c :: cur) cs

/-- The pieces of a text, each a physical line with its terminator: the text cut after every
line feed. A text that ends in a line feed has no empty last piece. -/
def linePieces (text : String) : List String := (cutPieces [] text.toList).map String.ofList

/-- A piece without its line feed and then without its trailing carriage returns. -/
def pieceLine (piece : String) : String :=
  let cs := piece.toList.reverse
  let cs := match cs with
    | '\n' :: rest => rest
    | _ => cs
  String.ofList (cs.dropWhile (· == '\r')).reverse

/-- The physical lines of a text: its pieces, each without its line feed and then without its
trailing carriage returns. -/
def physicalLines (text : String) : List String := (linePieces text).map pieceLine

namespace Lexer

abbrev Quote := Char

/-- Lexical state carried from line to line. -/
structure State where
  triple : Option Quote := none
  depth : Nat := 0
  deriving DecidableEq, Repr, Inhabited

def State.inLogicalLine (s : State) : Bool := s.triple.isSome || s.depth > 0

/-- The rest of a line after a one-line string whose opening quote `q` has been read: the
string ends at the next `q` not escaped by a backslash, or at the end of the line. -/
def skipString (q : Char) : List Char → List Char
  | [] => []
  | ['\\'] => []
  | '\\' :: _ :: cs => skipString q cs
  | c :: cs => if c = q then cs else skipString q cs

theorem skipString_length_le (q : Char) (cs : List Char) :
    (skipString q cs).length ≤ cs.length := by
  fun_induction skipString q cs <;> simp <;> omega

/-- Advance the state over the characters of one line. Inside a triple-quoted string only
its closing quotes and backslash escapes matter; outside, a `#` ends the line, a quote opens
a string, and brackets change the depth (never below zero). -/
def feed : State → List Char → State
  | s, [] => s
  | ⟨some q, d⟩, a :: cs =>
    if a = q ∧ cs.take 2 = [q, q] then feed ⟨none, d⟩ (cs.drop 2)
    else if a = '\\' then feed ⟨some q, d⟩ (cs.drop 1)
    else feed ⟨some q, d⟩ cs
  | ⟨none, d⟩, c :: cs =>
    if c = '#' then ⟨none, d⟩
    else if c = '"' ∨ c = '\'' then
      if cs.take 2 = [c, c] then feed ⟨some c, d⟩ (cs.drop 2)
      else feed ⟨none, d⟩ (skipString c cs)
    else if c = '(' ∨ c = '[' ∨ c = '{' then feed ⟨none, d + 1⟩ cs
    else if c = ')' ∨ c = ']' ∨ c = '}' then feed ⟨none, d - 1⟩ cs
    else feed ⟨none, d⟩ cs
termination_by _ cs => cs.length
decreasing_by
  all_goals first
    | (simp; done)
    | (simp; omega)
    | (have h := skipString_length_le c cs; simp; omega)

end Lexer

/-- A `def`, `class` or `async def` header at the start of a trimmed line. -/
def startsHeader (trimmed : List Char) : Bool :=
  "def ".toList.isPrefixOf trimmed || "class ".toList.isPrefixOf trimmed ||
    "async def ".toList.isPrefixOf trimmed

/-- The kind of one line read in state `s`, and the state after it. -/
def step (s : Lexer.State) (line : String) : LineKind × Lexer.State :=
  let cs := line.toList
  let trimmed := dropBlanks cs
  let indent := widthFrom 0 cs
  let continues := s.inLogicalLine && !(s.triple.isNone && indent == 0 && startsHeader trimmed)
  let s := if continues then s else { s with depth := 0 }
  let kind :=
    if continues then LineKind.continuation
    else if trimmed.all isBlank then LineKind.blank
    else if trimmed.head? == some '#' then LineKind.comment indent
    else LineKind.code indent
  (kind, Lexer.feed s cs)

/-- The kinds of lines read one after another from state `s`. -/
def classifyFrom (s : Lexer.State) : List String → List LineKind
  | [] => []
  | line :: rest =>
    let (kind, s') := step s line
    kind :: classifyFrom s' rest

def classify (lines : List String) : List LineKind := classifyFrom {} lines

@[simp] theorem length_classifyFrom (s : Lexer.State) (lines : List String) :
    (classifyFrom s lines).length = lines.length := by
  induction lines generalizing s with
  | nil => rfl
  | cons line rest ih => simp [classifyFrom, ih]

@[simp] theorem length_classify (lines : List String) :
    (classify lines).length = lines.length := length_classifyFrom {} lines

end Arbor.Layout
