import Arbor.Regex.Syntax
import Arbor.Regex.Property
import Arbor.Regex.Interval
/-!
Reading a regular expression.
-/

namespace Arbor.Regex

open Arbor.Text

inductive Escape where
  | lit (c : Char)
  | set (s : CharSet)
  | look (l : Look)
  deriving Inhabited

def skipSpace (verbose : Bool) : List Char → List Char
  | c :: cs =>
    if verbose && isBlank c then skipSpace verbose cs
    else if verbose && c == '#' then skipSpace verbose (cs.dropWhile (· != '\n'))
    else c :: cs
  | [] => []
termination_by cs => cs.length
decreasing_by
  · simp
  · have h := (List.dropWhile_suffix (l := cs) (· != '\n')).length_le
    simp; omega

theorem length_skipSpace_le (v : Bool) (cs : List Char) : (skipSpace v cs).length ≤ cs.length := by
  fun_induction skipSpace v cs with
  | case1 c cs _ ih => simp; omega
  | case2 c cs _ _ ih =>
    have h := (List.dropWhile_suffix (l := cs) (· != '\n')).length_le
    simp; omega
  | case3 => simp
  | case4 => simp

def hexDigit? (c : Char) : Option Nat :=
  if '0' ≤ c ∧ c ≤ '9' then some (c.toNat - '0'.toNat)
  else if 'a' ≤ c ∧ c ≤ 'f' then some (c.toNat - 'a'.toNat + 10)
  else if 'A' ≤ c ∧ c ≤ 'F' then some (c.toNat - 'A'.toNat + 10)
  else none

def hexValue? (ds : List Char) : Option Nat :=
  ds.foldl (fun acc d => acc.bind fun v => (hexDigit? d).map (v * 16 + ·)) (some 0)

/-- The value of a run of decimal digits. -/
def decimalValue (ds : List Char) : Nat :=
  ds.foldl (fun v d => v * 10 + (d.toNat - '0'.toNat)) 0

def scalar? (n : Nat) : Option Char :=
  if n < 0xD800 ∨ (0xDFFF < n ∧ n ≤ 0x10FFFF) then some (Char.ofNat n) else none

def readHexDigits (v : Bool) : Nat → List Char → List Char → Except SyntaxError ((List Char) × List Char)
  | 0, acc, cs => .ok (acc.reverse, cs)
  | n + 1, acc, c :: cs =>
    if (hexDigit? c).isSome then readHexDigits v n (c :: acc) (if n = 0 then cs else skipSpace v cs)
    else .error .badEscape
  | _ + 1, _, [] => .error .badEscape

def untilBrace (v : Bool) (acc : List Char) : List Char → Option (List Char × List Char)
  | '}' :: cs => some (acc.reverse, cs)
  | c :: cs => untilBrace v (c :: acc) (skipSpace v cs)
  | [] => none
termination_by cs => cs.length
decreasing_by have h := length_skipSpace_le v cs; simp; omega

/-- Read a hexadecimal escape after `x`, `u` or `U`: a braced code point, or exactly
`digits` digits. -/
def readHex (v : Bool) (digits : Nat) (cs : List Char) : Except SyntaxError (Char × List Char) :=
  match skipSpace v cs with
  | '{' :: rest =>
    match untilBrace v [] (skipSpace v rest) with
    | none => .error .badEscape
    | some (ds, after) =>
      if ds.isEmpty || !ds.all (fun d => (hexDigit? d).isSome) then .error .badEscape
      else match (hexValue? ds).bind scalar? with
        | some c => .ok (c, skipSpace v after)
        | none => .error .badEscape
  | rest => do
    let (ds, after) ← readHexDigits v digits [] rest
    match (hexValue? ds).bind scalar? with
    | some c => .ok (c, skipSpace v after)
    | none => .error .badEscape

/-- The characters of a Unicode class written `\p{body}`, and whether the class is their
complement: a single name, or a name and a value split at the first `!=`, else the first `:`,
else the first `=`; `!=` asks for the complement. -/
def propertyClass? (body : String) : Option (CharSet × Bool) :=
  let cs := body.toList
  let split (i k : Nat) := (String.ofList (cs.take i), String.ofList (cs.drop (i + k)))
  match (cs.zip (cs.drop 1)).findIdx? (fun (a, b) => a == '!' && b == '=') with
  | some i => let (n, v) := split i 2; (valueClass? n v).map (·, true)
  | none =>
    match cs.findIdx? (· == ':') with
    | some i => let (n, v) := split i 1; (valueClass? n v).map (·, false)
    | none =>
      match cs.findIdx? (· == '=') with
      | some i => let (n, v) := split i 1; (valueClass? n v).map (·, false)
      | none => (namedClass? body).map (·, false)

/-- Read a Unicode class after `p` (or `P` when `negated`); only a pattern with Unicode may
name one. A case-insensitive pattern folds the class before taking its complement. -/
def readProperty (f : Flags) (negated : Bool) (cs : List Char) : Except SyntaxError (CharSet × List Char) :=
  let v := f.verbose
  let finish := fun (neg : Bool) (body : String) (rest : List Char) =>
    if !f.unicode then .error .unicodeNotAllowed else
    match propertyClass? body with
    | some (s, opposite) =>
      let s := if f.caseless then CharSet.folded s else s
      .ok (if neg != opposite then .compl s else s, rest)
    | none => .error .unknownProperty
  match skipSpace v cs with
  | '{' :: rest =>
    match untilBrace v [] (skipSpace v rest) with
    | none => .error .badEscape
    | some (body, after) => finish negated (String.ofList body) after
  | '\\' :: _ => .error .badEscape
  | c :: rest => finish negated (String.singleton c) (skipSpace v rest)
  | [] => .error .badEscape

def perlClass? (f : Flags) (c : Char) : Option CharSet :=
  let u := f.unicode
  match c with
  | 'd' => some (.digit u)
  | 'D' => some (.compl (.digit u))
  | 's' => some (.blank u)
  | 'S' => some (.compl (.blank u))
  | 'w' => some (.word u)
  | 'W' => some (.compl (.word u))
  | _ => none

def isMeta (c : Char) : Bool := "\\.+*?()|[]{}^$#&-~".toList.contains c

/-- ASCII punctuation and symbols other than angle brackets, which may be escaped
needlessly. -/
def isEscapable (c : Char) : Bool :=
  c.toNat < 0x80 && !c.isAlphanum && c != '<' && c != '>'

/-- Read the name of a special word boundary `\b{start}`, `\b{end}`, `\b{start-half}` or
`\b{end-half}` after the brace. -/
def readBoundaryName (v : Bool) (acc : List Char) : List Char → Option (List Char × List Char)
  | c :: cs =>
    if c.isAlpha || c == '-' then readBoundaryName v (c :: acc) (skipSpace v cs)
    else some (acc.reverse, c :: cs)
  | [] => some (acc.reverse, [])
termination_by cs => cs.length
decreasing_by have h := length_skipSpace_le v cs; simp; omega

/-- Read an escape sequence after its backslash. -/
def readEscape (f : Flags) (cs : List Char) : Except SyntaxError (Escape × List Char) :=
  let v := f.verbose
  let u := f.unicode
  match cs with
  | [] => .error .badEscape
  | c :: rest =>
    if c.isDigit then .error .unsupported
    else if c == 'x' then do
      let (ch, r) ← readHex v 2 rest
      -- without Unicode, a two-digit escape names a byte, which beyond ASCII is no UTF-8
      let braced := match skipSpace v rest with
        | '{' :: _ => true
        | _ => false
      if !u && !braced && ch.toNat > 0x7F then .error .invalidUtf8 else .ok (.lit ch, r)
    else if c == 'u' then (readHex v 4 rest).map fun (ch, r) => (.lit ch, r)
    else if c == 'U' then (readHex v 8 rest).map fun (ch, r) => (.lit ch, r)
    else if c == 'p' || c == 'P' then
      if f.unicode then (readProperty f (c == 'P') rest).map fun (s, r) => (.set s, r)
      else .error .unsupported
    else match perlClass? f c with
    | some s =>
      -- without Unicode, the complement of an ASCII class holds bytes beyond ASCII
      if !u && c.isUpper then .error .invalidUtf8 else .ok (.set s, skipSpace v rest)
    | none =>
      if isMeta c || isEscapable c then .ok (.lit c, rest)
      else match c with
        | 'a' => .ok (.lit '\x07', rest)
        | 'f' => .ok (.lit '\x0c', rest)
        | 't' => .ok (.lit '\t', rest)
        | 'n' => .ok (.lit '\n', rest)
        | 'r' => .ok (.lit '\r', rest)
        | 'v' => .ok (.lit '\x0b', rest)
        | 'A' => .ok (.look .textStart, rest)
        | 'z' => .ok (.look .textEnd, rest)
        | 'B' => .ok (.look (.notWordBoundary u), rest)
        | '<' => .ok (.look (.wordStart u), rest)
        | '>' => .ok (.look (.wordEnd u), rest)
        | 'b' =>
          match rest with
          | '{' :: inner =>
            match skipSpace v inner with
            | d :: _ =>
              if d.isAlpha || d == '-' then
                match readBoundaryName v [] (skipSpace v inner) with
                | some (name, '}' :: after) =>
                  match String.ofList name with
                  | "start" => .ok (.look (.wordStart u), after)
                  | "end" => .ok (.look (.wordEnd u), after)
                  | "start-half" => .ok (.look (.wordStartHalf u), after)
                  | "end-half" => .ok (.look (.wordEndHalf u), after)
                  | _ => .error .badEscape
                | _ => .error .badEscape
              else .ok (.look (.wordBoundary u), rest)
            | [] => .error .badEscape
          | _ => .ok (.look (.wordBoundary u), rest)
        | _ => .error .badEscape

/-- The ASCII class named in `[:name:]`. -/
def asciiClass? (name : String) : Option CharSet :=
  let r := fun (a b : Char) => CharSet.range a.toNat b.toNat
  match name with
  | "alnum" => some (CharSet.unionAll [r '0' '9', r 'A' 'Z', r 'a' 'z'])
  | "alpha" => some (CharSet.unionAll [r 'A' 'Z', r 'a' 'z'])
  | "ascii" => some (.range 0 0x7F)
  | "blank" => some (CharSet.unionAll [r '\t' '\t', r ' ' ' '])
  | "cntrl" => some (CharSet.unionAll [.range 0 0x1F, .range 0x7F 0x7F])
  | "digit" => some (r '0' '9')
  | "graph" => some (r '!' '~')
  | "lower" => some (r 'a' 'z')
  | "print" => some (r ' ' '~')
  | "punct" => some (CharSet.unionAll [r '!' '/', r ':' '@', r '[' '`', r '{' '~'])
  | "space" => some (CharSet.unionAll [r '\t' '\r', r ' ' ' '])
  | "upper" => some (r 'A' 'Z')
  | "word" => some (CharSet.unionAll [r '0' '9', r 'A' 'Z', r 'a' 'z', r '_' '_'])
  | "xdigit" => some (CharSet.unionAll [r '0' '9', r 'A' 'F', r 'a' 'f'])
  | _ => none

/-- Read an ASCII class `[:name:]` or `[:^name:]` after its opening bracket, if one stands
there: its set, and whether it asks for the complement. -/
def readAsciiClass? (cs : List Char) : Option ((CharSet × Bool) × List Char) :=
  match cs with
  | ':' :: rest =>
    let (negated, rest) := match rest with
      | '^' :: r => (true, r)
      | r => (false, r)
    let name := rest.takeWhile fun c => 'a' ≤ c ∧ c ≤ 'z'
    match rest.drop name.length with
    | ':' :: ']' :: after =>
      (asciiClass? (String.ofList name)).map fun s => ((s, negated), after)
    | _ => none
  | _ => none

inductive SetOp where
  | inter
  | diff
  | symmDiff
  deriving Inhabited

/-- Apply a set operation. -/
def SetOp.apply : SetOp → CharSet → CharSet → CharSet
  | .inter, a, b => .inter a b
  | .diff, a, b => .diff a b
  | .symmDiff, a, b => .symmDiff a b

/-- A literal of a class; without Unicode it must be ASCII. -/
def classLiteral (f : Flags) (c : Char) (rest : List Char) :
    Except SyntaxError ((Sum Char CharSet) × List Char) :=
  if !f.unicode && c.toNat > 0x7F then .error .unicodeNotAllowed else .ok (.inl c, rest)

/-- One item of a class: a literal or a set. -/
def classItem (f : Flags) (cs : List Char) : Except SyntaxError ((Sum Char CharSet) × List Char) :=
  match cs with
  | '\\' :: rest => do
    let (e, after) ← readEscape f rest
    match e with
    | .lit c => classLiteral f c after
    | .set s => .ok (.inr s, after)
    | .look _ => .error .badClass
  | c :: rest => classLiteral f c rest
  | [] => .error .unclosed

def classRange (f : Flags) (cs : List Char) : Except SyntaxError (CharSet × List Char) := do
  let v := f.verbose
  let (first, rest) ← classItem f cs
  let rest := skipSpace v rest
  match rest with
  | [] => .error .unclosed
  | '-' :: after =>
    match skipSpace v after with
    | ']' :: _ | '-' :: _ => .ok (single first, rest)
    | [] => .error .unclosed
    | next => do
      let (second, rest2) ← classItem f next
      match first, second with
      | .inl a, .inl b => if a ≤ b then .ok (.range a.toNat b.toNat, rest2) else .error .badClass
      | _, _ => .error .badClass
  | _ => .ok (single first, rest)
where
  single : Sum Char CharSet → CharSet
    | .inl c => CharSet.single c
    | .inr s => s

/-- A set folded as the flags say: by Unicode case, by ASCII case without Unicode, or not at
all when case matters. -/
def foldFor (f : Flags) (s : CharSet) : CharSet :=
  if !f.caseless then s else if f.unicode then .folded s else .asciiFolded s

def classUnion (f : Flags) (parts : List CharSet) : CharSet :=
  foldFor f (CharSet.unionAll parts.reverse)

/-- How deeply a sequence, an alternation or a union of parts nests: one level more than its
deepest part when it has two parts or more, as deep as its only part otherwise. -/
def nestOf : List Nat → Nat
  | [] => 0
  | [n] => n
  | ns => ns.foldl max 0 + 1

/-- Read a bracketed class after its `[`, with at most `fuel` steps: the set, how deeply the
class nests (one level for each bracket, union of two items or more and set operation on a
path) and the rest of the pattern. -/
def readClass (f : Flags) : Nat → List Char → Except SyntaxError (CharSet × Nat × List Char)
  | 0, _ => .error .tooLarge
  | fuel + 1, cs =>
    let v := f.verbose
    let (negated, cs) := match skipSpace v cs with
      | '^' :: r => (true, skipSpace v r)
      | r => (false, r)
    let (dashes, cs) := ((cs.takeWhile (· == '-')).length, cs.dropWhile (· == '-'))
    let cs := skipSpace v cs
    let (lead, cs) : List (CharSet × Nat) × List Char :=
      if dashes > 0 then (List.replicate dashes (CharSet.single '-', 0), cs)
      else match cs with
        | ']' :: r => ([(CharSet.single ']', 0)], skipSpace v r)
        | r => ([], r)
    let rec loop : Nat → List (CharSet × Nat) → Option (SetOp × CharSet × Nat) → List Char →
        Except SyntaxError (CharSet × Nat × List Char)
      | 0, _, _, _ => .error .tooLarge
      | n + 1, parts, pending, cs =>
        match skipSpace v cs with
        | [] => .error .unclosed
        | ']' :: rest =>
          let (body, nest) := combine parts pending
          let body := foldFor f body
          let body := if negated then .compl body else body
          -- without Unicode, a class must stay within ASCII
          if !f.unicode && !(body.intervals.all (·.2 ≤ 0x7F)) then .error .invalidUtf8
          else .ok (body, nest + 1, rest)
        | '[' :: rest =>
          match readAsciiClass? rest with
          | some ((s, negated), after) =>
            -- an ASCII class folds before it takes its complement
            let s := foldFor f s
            let s := if negated then .compl s else s
            if !f.unicode && !(s.intervals.all (·.2 ≤ 0x7F)) then .error .invalidUtf8
            else loop n ((s, 0) :: parts) pending after
          | none => do
            let (s, nest, after) ← readClass f n rest
            loop n ((s, nest) :: parts) pending after
        | '&' :: '&' :: rest => loop n [] (some (.inter, combine parts pending)) rest
        | '-' :: '-' :: rest => loop n [] (some (.diff, combine parts pending)) rest
        | '~' :: '~' :: rest => loop n [] (some (.symmDiff, combine parts pending)) rest
        | other => do
          let (s, after) ← classRange f other
          loop n ((s, 0) :: parts) pending after
    loop fuel lead none cs
where
  combine (parts : List (CharSet × Nat)) : Option (SetOp × CharSet × Nat) → CharSet × Nat
    | some (op, lhs, l) =>
      (op.apply lhs (classUnion f (parts.map (·.1))), max l (nestOf (parts.map (·.2))) + 1)
    | none => (classUnion f (parts.map (·.1)), nestOf (parts.map (·.2)))

/-- An item of a sequence: its expression, and how deeply it nests, counting one level for
each group, repetition, class, union, set operation, and sequence or alternation of two parts
or more on a path down from it. -/
structure Item where
  ast : Option Ast
  nest : Nat
  deriving Inhabited

def Item.seqOf (items : List Item) : Item :=
  ⟨some (Ast.seqAll (items.reverse.filterMap (·.ast))), nestOf (items.map (·.nest))⟩

/-- A group still open while its body is read: how to close it, and the state around it. -/
structure Frame where
  index : Option Nat
  outer : Flags
  seq : List Item
  alts : List Item
  deriving Inhabited

structure Reader where
  flags : Flags := {}
  seq : List Item := []
  alts : List Item := []
  frames : List Frame := []
  groups : Nat := 0
  names : List (String × Nat) := []
  deriving Inhabited

/-- The alternation of a group's branches, the finished ones and the current sequence, with
how deeply it nests. -/
def Reader.body (r : Reader) : Ast × Nat :=
  let branches := r.alts.reverse ++ [Item.seqOf r.seq]
  (Ast.altAll (branches.filterMap (·.ast)), nestOf (branches.map (·.nest)))

/-- One literal character, as the flags read it; without Unicode only ASCII letters fold. -/
def literal (f : Flags) (c : Char) : Ast :=
  .step (if f.unicode || c.toNat < 0x80 then foldFor f (CharSet.single c) else CharSet.single c)

def Reader.repeatLast (r : Reader) (lo : Nat) (hi : Option Nat) (greedy : Bool) :
    Except SyntaxError Reader :=
  match r.seq with
  | ⟨some a, nest⟩ :: rest =>
    let a := Ast.rep a lo hi (if r.flags.swapGreed then !greedy else greedy)
    .ok { r with seq := ⟨some a, nest + 1⟩ :: rest }
  | _ => .error .repetitionMissing

/-- Repetition counts are 32-bit numbers: they stay below `2^32`. -/
def countLimit : Nat := 4294967296

/-- Read a run of decimal digits with white space around it, as a counted repetition
does. -/
def readDecimal (v : Bool) (cs : List Char) : Except SyntaxError (Nat × List Char) :=
  let cs := cs.dropWhile isBlank
  let rec digits (acc : List Char) : List Char → List Char × List Char
    | c :: rest => if c.isDigit then digits (c :: acc) (skipSpace v rest) else (acc.reverse, c :: rest)
    | [] => (acc.reverse, [])
  termination_by cs => cs.length
  decreasing_by have h := length_skipSpace_le v rest; simp; omega
  let (ds, rest) := digits [] cs
  let rest := rest.dropWhile isBlank
  if ds.isEmpty then .error .badRepetition
  else
    let n := decimalValue ds
    if n < countLimit then .ok (n, rest) else .error .badRepetition

/-- Read a counted repetition after its `{`. -/
def Reader.counted (r : Reader) (cs : List Char) : Except SyntaxError (Reader × List Char) := do
  let v := r.flags.verbose
  match r.seq with
  | ⟨some _, _⟩ :: _ => pure ()
  | _ => throw .repetitionMissing
  let cs := skipSpace v cs
  if cs.isEmpty then throw .badRepetition
  let first := readDecimal v cs
  let (lo, hi, rest) ← match first with
    | .ok (lo, ',' :: rest) =>
      match skipSpace v rest with
      | '}' :: _ => pure (lo, none, skipSpace v rest)
      | [] => throw .badRepetition
      | more => do
        let (hi, after) ← readDecimal v more
        pure (lo, some hi, after)
    | .ok (lo, rest) => pure (lo, some lo, rest)
    | .error e => throw e
  match rest with
  | '}' :: after =>
    let (greedy, after) := match skipSpace v after with
      | '?' :: more => (false, more)
      | _ => (true, after)
    match hi with
    | some h => if h < lo then throw .badRepetition else pure ()
    | none => pure ()
    let r ← r.repeatLast lo hi greedy
    pure (r, after)
  | _ => throw .badRepetition

def isNameChar (first : Bool) (c : Char) : Bool :=
  c == '_' || (isWordChar c && !(isDecimalDigit c && first)) || (!first && (c == '.' || c == '[' || c == ']'))

/-- Read flags up to the `:` or `)` that ends them: the flags turned on and off, and the
character that ended them. -/
def readFlags (f : Flags) : List Char → List Char → Bool → Bool →
    Except SyntaxError (Flags × Bool × Char × List Char)
  | [], _, _, _ => .error .unclosed
  | c :: rest, seen, negating, any =>
    if c == ':' || c == ')' then
      if negating && seen.getLast? == some '-' then .error .badGroup
      else .ok (f, any, c, rest)
    else if c == '-' then
      if seen.contains '-' then .error .badGroup else readFlags f rest (seen ++ [c]) true true
    else if seen.contains c then .error .badGroup
    else
      let on := !negating
      let f' : Option Flags := match c with
        | 'i' => some { f with caseless := on }
        | 'm' => some { f with multiLine := on }
        | 's' => some { f with dotAll := on }
        | 'U' => some { f with swapGreed := on }
        | 'u' => some { f with unicode := on }
        | 'x' => some { f with verbose := on }
        | 'R' => some { f with crlf := on }
        | _ => none
      match f' with
      | some f' => readFlags f' rest (seen ++ [c]) negating true
      | none => .error .badGroup

/-- Read what follows an opening parenthesis: a flag group changes the flags in place;
any other group opens a frame. -/
def Reader.openGroup (r : Reader) (cs : List Char) : Except SyntaxError (Reader × List Char) := do
  let cs := skipSpace r.flags.verbose cs
  let push := fun (index : Option Nat) (inner : Flags) (r : Reader) =>
    { r with
      frames := ⟨index, r.flags, r.seq, r.alts⟩ :: r.frames
      flags := inner, seq := [], alts := [] }
  match cs with
  | '?' :: '=' :: _ | '?' :: '!' :: _ | '?' :: '<' :: '=' :: _ | '?' :: '<' :: '!' :: _ =>
    throw .unsupported
  | '?' :: 'P' :: '<' :: rest | '?' :: '<' :: rest =>
    let name := rest.takeWhile (· != '>')
    let after := rest.drop name.length
    match after with
    | '>' :: after =>
      let valid := match name with
        | c :: more => isNameChar true c && more.all (isNameChar false)
        | [] => false
      if !valid then throw .badGroup
      let n := String.ofList name
      if r.names.any (·.1 == n) then throw .badGroup
      let index := r.groups + 1
      pure (push (some index) r.flags { r with groups := index, names := r.names ++ [(n, index)] }, after)
    | _ => throw .badGroup
  | '?' :: rest =>
    let (f, any, ending, after) ← readFlags r.flags rest [] false false
    if ending == ')' then
      if !any then throw .repetitionMissing
      pure ({ r with flags := f, seq := ⟨none, 0⟩ :: r.seq }, after)
    else pure (push none f r, after)
  | _ =>
    let index := r.groups + 1
    pure (push (some index) r.flags { r with groups := index }, cs)

def Reader.closeGroup (r : Reader) : Except SyntaxError Reader :=
  match r.frames with
  | [] => .error .unopened
  | fr :: frames =>
    let (body, nest) := r.body
    .ok { r with
      flags := fr.outer, seq := ⟨some (.group fr.index body), nest + 1⟩ :: fr.seq, alts := fr.alts,
      frames }

/-- Read one step of a pattern: a group, an alternation bar, a repetition, a class or a
single item. -/
def Reader.step (r : Reader) (fuel : Nat) : List Char → Except SyntaxError (Reader × List Char)
  | [] => .ok (r, [])
  | c :: rest =>
    let f := r.flags
    let addNested := fun (a : Ast) (nest : Nat) (cs : List Char) =>
      Except.ok ({ r with seq := ⟨some a, nest⟩ :: r.seq }, cs)
    let add := fun (a : Ast) (cs : List Char) => addNested a 0 cs
    match c with
    | '(' => r.openGroup rest
    | ')' => (r.closeGroup).map (·, rest)
    | '|' => .ok ({ r with alts := Item.seqOf r.seq :: r.alts, seq := [] }, rest)
    | '*' | '+' | '?' =>
      let (lo, hi) : Nat × Option Nat := if c == '*' then (0, none) else if c == '+' then (1, none) else (0, some 1)
      let (greedy, after) := match rest with
        | '?' :: more => (false, more)
        | _ => (true, rest)
      (r.repeatLast lo hi greedy).map (·, after)
    | '{' => r.counted rest
    | '[' => do
      let (s, nest, after) ← readClass f fuel rest
      addNested (.step s) nest after
    | '.' =>
      -- without Unicode, a dot reads any byte, which need not be UTF-8
      if !f.unicode then .error .invalidUtf8
      else
        let s := if f.dotAll then CharSet.any
          else if f.crlf then .compl (.union (CharSet.single '\n') (CharSet.single '\r'))
          else .compl (CharSet.single '\n')
        add (.step s) rest
    | '^' =>
      add (.look (if !f.multiLine then .textStart else if f.crlf then .lineStartCrlf else .lineStart)) rest
    | '$' =>
      add (.look (if !f.multiLine then .textEnd else if f.crlf then .lineEndCrlf else .lineEnd)) rest
    | '\\' => do
      let (e, after) ← readEscape f rest
      match e with
      | .lit ch => add (literal f ch) after
      | .set s => add (.step s) after
      | .look l => add (.look l) after
    | _ => add (literal f c) rest

/-- Read steps until the pattern ends, at most `fuel` of them. -/
def Reader.run (total : Nat) : Nat → Reader → List Char → Except SyntaxError Reader
  | 0, _, _ => .error .tooLarge
  | fuel + 1, r, cs =>
    match skipSpace r.flags.verbose cs with
    | [] => .ok r
    | cs => do
      let (r, rest) ← r.step total cs
      Reader.run total fuel r rest

def maxDepth : Nat := 250

/-- A parsed pattern: its tree, its number of capturing groups and its group names. -/
structure Parsed where
  ast : Ast
  groups : Nat
  names : List (String × Nat)
  deriving Inhabited

/-- Read a whole pattern, with the given flags in force at its start. -/
def parsePattern (flags : Flags) (pattern : String) : Except SyntaxError Parsed := do
  let cs := pattern.toList
  let r ← Reader.run (cs.length + 1) (cs.length + 1) { flags } cs
  if !r.frames.isEmpty then throw .unclosed
  let (ast, nest) := r.body
  if nest > maxDepth then throw .tooLarge
  pure ⟨ast, r.groups, r.names⟩

end Arbor.Regex
