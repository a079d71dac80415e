/-!
Glob patterns.
-/

namespace Arbor.Glob

/-- One token of a glob. -/
inductive Token where
  | literal (c : Char)
  | any
  | zeroOrMore
  | recursivePrefix
  | recursiveSuffix
  | recursiveZeroOrMore
  | cls (negated : Bool) (ranges : List (Char × Char))
  | alternates (branches : List (List Token))
  deriving Inhabited, Repr

/-- Why a glob cannot be read. -/
inductive GlobError where
  | unclosedClass
  | invalidRange (lo hi : Char)
  | unopenedAlternates
  | unclosedAlternates
  | danglingEscape
  deriving DecidableEq, Repr

/-- The sentence shown for a glob that cannot be read. -/
def GlobError.message : GlobError → String
  | .unclosedClass => "unclosed character class; missing ']'"
  | .invalidRange lo hi => "invalid range; '" ++ lo.toString ++ "' > '" ++ hi.toString ++ "'"
  | .unopenedAlternates =>
    "unopened alternate group; missing '\x7b' (maybe escape '\x7d' with '[\x7d]'?)"
  | .unclosedAlternates =>
    "unclosed alternate group; missing '\x7d' (maybe escape '\x7b' with '[\x7b]'?)"
  | .danglingEscape => "dangling '\\'"

/-- The state of a glob being read: the branches still open (the last is the one tokens go to;
the first is the glob itself) and, for each open brace, where its branches start. -/
structure Reading where
  branches : Array (Array Token) := #[#[]]
  opened : List Nat := []
  prev : Option Char := none
  deriving Inhabited

namespace Reading

/-- Add a token to the current branch. -/
def push (r : Reading) (t : Token) : Reading :=
  { r with branches := r.branches.modify (r.branches.size - 1) (·.push t) }

def hasTokens (r : Reading) : Bool := !(r.branches.back?.map (·.isEmpty)).getD true

/-- Take the last token of the current branch off. -/
def pop (r : Reading) : Reading × Option Token :=
  match r.branches.back? with
  | some b => ({ r with branches := r.branches.modify (r.branches.size - 1) (·.pop) }, b.back?)
  | none => (r, none)

/-- Close the innermost brace: its branches become one token of the branch around it. -/
def close (r : Reading) : Except GlobError Reading :=
  match r.opened with
  | start :: rest =>
    let alts := (r.branches.extract start r.branches.size).toList.map (·.toList)
    .ok ({ r with branches := r.branches.extract 0 start, opened := rest }.push (.alternates alts))
  | [] => .error .unopenedAlternates

end Reading

/-- Read a class after its `[`: an optional negation, then ranges up to the closing `]`. -/
def readClass (cs : List Char) : Except GlobError (Token × List Char) :=
  let (negated, cs) := match cs with
    | '!' :: rest | '^' :: rest => (true, rest)
    | _ => (false, cs)
  let rec go : List Char → Bool → Bool → List (Char × Char) → Except GlobError (Token × List Char)
    | [], _, _, _ => .error .unclosedClass
    | c :: rest, first, inRange, ranges =>
      if c == ']' && !first then
        .ok (.cls negated (if inRange then ranges ++ [('-', '-')] else ranges), rest)
      else if c == '-' && !first && !inRange then go rest false true ranges
      else if inRange then
        match ranges.getLast? with
        | some (lo, _) =>
          if c < lo then .error (.invalidRange lo c)
          else go rest false false (ranges.dropLast ++ [(lo, c)])
        | none => go rest false false (ranges ++ [(c, c)])
      else go rest false false (ranges ++ [(c, c)])
  go cs true false []

def readDoubleStar (r : Reading) (prev : Option Char) (cs : List Char) : Reading × List Char :=
  let twoStars := ((r.push .zeroOrMore).push .zeroOrMore, cs)
  if !r.hasTokens then
    match cs with
    | '/' :: rest => (r.push .recursivePrefix, rest)
    | [] => (r.push .recursivePrefix, [])
    | _ => twoStars
  else if prev != some '/' && (r.opened.isEmpty || (prev != some ',' && prev != some '{')) then
    twoStars
  else
    let suffix? : Option (Bool × List Char) := match cs with
      | [] => some (true, [])
      | '/' :: rest => some (false, rest)
      | c :: _ => if (c == ',' || c == '}') && !r.opened.isEmpty then some (true, cs) else none
    match suffix? with
    | none => twoStars
    | some (isSuffix, rest) =>
      let (r', last) := r.pop
      match last with
      | some .recursivePrefix => (r'.push .recursivePrefix, rest)
      | some .recursiveSuffix => (r'.push .recursiveSuffix, rest)
      | _ => (r'.push (if isSuffix then .recursiveSuffix else .recursiveZeroOrMore), rest)

def readFrom : Nat → Reading → List Char → Except GlobError Reading
  | 0, r, _ => .ok r
  | _, r, [] => .ok r
  | fuel + 1, r, c :: rest =>
    let next := fun (last : Char) (r' : Reading) (rest' : List Char) =>
      readFrom fuel { r' with prev := some last } rest'
    match c with
    | '?' => next c (r.push .any) rest
    | '*' =>
      match rest with
      | '*' :: rest' =>
        let (r', rest'') := readDoubleStar r r.prev rest'
        next (if rest''.length < rest'.length then '/' else '*') r' rest''
      | _ => next c (r.push .zeroOrMore) rest
    | '[' => do
      let (t, rest') ← readClass rest
      next ']' (r.push t) rest'
    | '{' => next c { r with branches := r.branches.push #[], opened := r.branches.size :: r.opened } rest
    | '}' => do next c (← r.close) rest
    | ',' => if r.opened.isEmpty then next c (r.push (.literal ',')) rest
      else next c { r with branches := r.branches.push #[] } rest
    | '\\' =>
      match rest with
      | d :: rest' => next d (r.push (.literal d)) rest'
      | [] => .error .danglingEscape
    | _ => next c (r.push (.literal c)) rest

/-- The tokens of a glob, or why it cannot be read. -/
def tokens (pattern : String) : Except GlobError (List Token) := do
  let r ← readFrom (pattern.length + 1) {} pattern.toList
  if r.branches.size > 1 then throw .unclosedAlternates
  pure ((r.branches.getD 0 #[]).toList)

end Arbor.Glob
