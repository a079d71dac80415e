import Arbor.Toml.Value
/-!
Reading a settings document.
-/

namespace Arbor.Toml

/-- What a reader gives: a value and the input after it, or nothing when the input is not
what it reads. -/
abbrev Step (α : Type) := Option (α × List Char)

/-- A character that may not stand in a string or a comment: a control character other than
tab. -/
def isForbidden (c : Char) : Bool := (c.toNat < 0x20 && c != '\t') || c.toNat == 0x7F

def isBareKeyChar (c : Char) : Bool := c.isAlphanum || c == '_' || c == '-'

/-- Drop spaces and tabs. -/
def skipBlanks : List Char → List Char
  | ' ' :: rest => skipBlanks rest
  | '\t' :: rest => skipBlanks rest
  | cs => cs

/-- Drop a comment up to, not including, the end of its line; refuse control characters in
it. -/
def skipComment : List Char → Option (List Char)
  | [] => some []
  | '\n' :: rest => some ('\n' :: rest)
  | '\r' :: '\n' :: rest => some ('\r' :: '\n' :: rest)
  | c :: rest => if isForbidden c then none else skipComment rest

/-- The end of a line: blanks, perhaps a comment, then a line break or the end of the input;
the input after the line break. -/
def endOfLine (cs : List Char) : Option (List Char) := do
  let cs := skipBlanks cs
  let cs ← match cs with
    | '#' :: rest => skipComment rest
    | _ => some cs
  match cs with
  | [] => some []
  | '\n' :: rest => some rest
  | '\r' :: '\n' :: rest => some rest
  | _ => none

theorem skipBlanks_length_le (cs : List Char) : (skipBlanks cs).length ≤ cs.length := by
  fun_induction skipBlanks cs <;> simp_all <;> omega

theorem skipComment_length_le {cs r : List Char} (h : skipComment cs = some r) :
    r.length ≤ cs.length := by
  fun_induction skipComment cs generalizing r <;> simp_all
  -- left is a character of the comment, dropped before the rest is read
  omega

/-- Drop blanks, line breaks and comments, as they may stand between the items of an
array. -/
def skipGaps : List Char → Option (List Char)
  | ' ' :: rest | '\t' :: rest | '\n' :: rest => skipGaps rest
  | '\r' :: '\n' :: rest => skipGaps rest
  | '#' :: rest =>
    match h : skipComment rest with
    | some rest' =>
      have := skipComment_length_le h
      skipGaps rest'
    | none => none
  | cs => some cs
termination_by cs => cs.length

def hexValue (ds : List Char) : Option Nat :=
  ds.foldlM (fun acc d =>
    if '0' ≤ d && d ≤ '9' then some (acc * 16 + d.toNat - '0'.toNat)
    else if 'a' ≤ d && d ≤ 'f' then some (acc * 16 + d.toNat - 'a'.toNat + 10)
    else if 'A' ≤ d && d ≤ 'F' then some (acc * 16 + d.toNat - 'A'.toNat + 10)
    else none) 0

/-- A character from a code point given by `n` hexadecimal digits, if it is a scalar
value. -/
def escapedScalar (n : Nat) (cs : List Char) : Step Char :=
  if cs.length < n then none else
  match hexValue (cs.take n) with
  | some v => if v < 0xD800 || (0xDFFF < v && v ≤ 0x10FFFF) then some (Char.ofNat v, cs.drop n)
    else none
  | none => none

theorem escapedScalar_length_le {n : Nat} {cs r : List Char} {c : Char}
    (h : escapedScalar n cs = some (c, r)) : r.length ≤ cs.length := by
  unfold escapedScalar at h
  split at h
  · simp at h
  · split at h
    · split at h
      · simp at h; obtain ⟨_, rfl⟩ := h; simp
      · simp at h
    · simp at h

/-- The character an escape stands for, read after its backslash. -/
def readEscape : List Char → Step Char
  | 'b' :: rest => some ('\x08', rest)
  | 't' :: rest => some ('\t', rest)
  | 'n' :: rest => some ('\n', rest)
  | 'f' :: rest => some ('\x0c', rest)
  | 'r' :: rest => some ('\r', rest)
  | '"' :: rest => some ('"', rest)
  | '\\' :: rest => some ('\\', rest)
  | 'e' :: rest => some ('\x1b', rest)
  | 'x' :: rest => escapedScalar 2 rest
  | 'u' :: rest => escapedScalar 4 rest
  | 'U' :: rest => escapedScalar 8 rest
  | _ => none

theorem readEscape_length_lt {cs r : List Char} {c : Char} (h : readEscape cs = some (c, r)) :
    r.length < cs.length := by
  unfold readEscape at h
  split at h <;> simp_all
  -- left are the escapes of a code point, read by `escapedScalar`
  all_goals
    have := escapedScalar_length_le h
    omega

def readBasic (acc : List Char) : List Char → Step String
  | [] => none
  | '"' :: rest => some (String.ofList acc.reverse, rest)
  | '\\' :: rest =>
    match h : readEscape rest with
    | some (c, rest') =>
      have := readEscape_length_lt h
      readBasic (c :: acc) rest'
    | none => none
  | c :: rest => if isForbidden c then none else readBasic (c :: acc) rest
termination_by cs => cs.length

def readLiteral (acc : List Char) : List Char → Step String
  | [] => none
  | '\'' :: rest => some (String.ofList acc.reverse, rest)
  | c :: rest => if isForbidden c then none else readLiteral (c :: acc) rest

/-- The number of `q` characters a list starts with. -/
def runOf (q : Char) : List Char → Nat
  | c :: rest => if c == q then runOf q rest + 1 else 0
  | [] => 0

def dropFirstBreak : List Char → List Char
  | '\n' :: rest => rest
  | '\r' :: '\n' :: rest => rest
  | cs => cs

/-- After a backslash that ends a line in a multi-line basic string: the blanks before the
line break, and all blanks and line breaks after it, are dropped. -/
def lineEndingBackslash? (cs : List Char) : Option (List Char) :=
  match skipBlanks cs with
  | '\n' :: rest | '\r' :: '\n' :: rest =>
    some ((rest.dropWhile fun c => c == ' ' || c == '\t' || c == '\n' || c == '\r'))
  | _ => none

theorem lineEndingBackslash?_length_le {cs r : List Char} (h : lineEndingBackslash? cs = some r) :
    r.length ≤ cs.length := by
  unfold lineEndingBackslash? at h
  have hb := skipBlanks_length_le cs
  split at h <;> rename_i heq
  · rw [heq] at hb; simp at h; subst h
    exact Nat.le_trans (List.dropWhile_suffix _).length_le (by simp at hb; omega)
  · rw [heq] at hb; simp at h; subst h
    exact Nat.le_trans (List.dropWhile_suffix _).length_le (by simp at hb; omega)
  · simp at h

/-- The body of a multi-line string after its opening quotes, up to its closing quotes, for
quote character `q`; `escapes` says whether backslash escapes are read. Up to two quotes may
stand right before the closing three. -/
def readMulti (q : Char) (escapes : Bool) (acc : List Char) : List Char → Step String
  | [] => none
  | c :: rest =>
    if c == q then
      let n := runOf q (c :: rest)
      if n < 3 then readMulti q escapes (c :: acc) rest
      else if n ≤ 5 then
        some (String.ofList ((List.replicate (n - 3) q) ++ acc).reverse, (c :: rest).drop n)
      else none
    else if c == '\\' && escapes then
      match h : lineEndingBackslash? rest with
      | some rest' =>
        have := lineEndingBackslash?_length_le h
        readMulti q escapes acc rest'
      | none =>
        match h : readEscape rest with
        | some (e, rest') =>
          have := readEscape_length_lt h
          readMulti q escapes (e :: acc) rest'
        | none => none
    else if c == '\n' then readMulti q escapes (c :: acc) rest
    else if c == '\r' then
      match rest with
      | '\n' :: rest' => readMulti q escapes ('\n' :: '\r' :: acc) rest'
      | _ => none
    else if isForbidden c then none
    else readMulti q escapes (c :: acc) rest
termination_by cs => cs.length

/-- A string value in any of its four forms. -/
def readString : List Char → Step String
  | '"' :: '"' :: '"' :: rest => readMulti '"' true [] (dropFirstBreak rest)
  | '"' :: rest => readBasic [] rest
  | '\'' :: '\'' :: '\'' :: rest => readMulti '\'' false [] (dropFirstBreak rest)
  | '\'' :: rest => readLiteral [] rest
  | _ => none

/-- One part of a key: bare, or a basic or literal string on one line. -/
def readKeyPart : List Char → Step String
  | '"' :: rest => readBasic [] rest
  | '\'' :: rest => readLiteral [] rest
  | cs =>
    let name := cs.takeWhile isBareKeyChar
    if name.isEmpty then none else some (String.ofList name, cs.drop name.length)

/-- A dotted key: parts joined by dots, with blanks allowed around the dots. At most `fuel`
parts are read. -/
def readKey : Nat → List Char → Step (List String)
  | 0, _ => none
  | fuel + 1, cs =>
    match readKeyPart cs with
    | some (part, rest) =>
      match skipBlanks rest with
      | '.' :: rest' =>
        match readKey fuel (skipBlanks rest') with
        | some (parts, rest'') => some (part :: parts, rest'')
        | none => none
      | _ => some ([part], rest)
    | none => none

def lookupEntry (k : String) (entries : List (String × Node)) : Option Node :=
  (entries.find? (·.1 == k)).map (·.2)

def replaceEntry (k : String) (n : Node) (entries : List (String × Node)) : List (String × Node) :=
  entries.map fun (k', n') => if k' == k then (k', n) else (k', n')

/-- Set a dotted key in a table, making tables for its leading parts; a key already set, or a
leading part that names a value or a table not made by dotted keys, is refused. -/
def insertDotted (entries : List (String × Node)) : List String → Value → Option (List (String × Node))
  | [], _ => none
  | [k], v => if (lookupEntry k entries).isSome then none else some (entries ++ [(k, .leaf v)])
  | k :: rest, v =>
    match lookupEntry k entries with
    | none => do
      let sub ← insertDotted [] rest v
      pure (entries ++ [(k, .table sub .dotted)])
    | some (.table sub .dotted) => do
      let sub ← insertDotted sub rest v
      pure (replaceEntry k (.table sub .dotted) entries)
    | some _ => none

/-- Open a table by a header, making the tables on its way; a table opened before, made by
dotted keys, or a path through a value, is refused. -/
def openHeader (entries : List (String × Node)) : List String → Option (List (String × Node))
  | [] => none
  | [k] =>
    match lookupEntry k entries with
    | none => some (entries ++ [(k, .table [] .header)])
    | some (.table sub .implied) => some (replaceEntry k (.table sub .header) entries)
    | some _ => none
  | k :: rest =>
    match lookupEntry k entries with
    | none => do
      let sub ← openHeader [] rest
      pure (entries ++ [(k, .table sub .implied)])
    | some (.table sub origin) => do
      let sub ← openHeader sub rest
      pure (replaceEntry k (.table sub origin) entries)
    | some _ => none

/-- Set a dotted key in the table at a header's path. -/
def insertUnder (entries : List (String × Node)) : List String → List String → Value →
    Option (List (String × Node))
  | [], key, v => insertDotted entries key v
  | k :: rest, key, v =>
    match lookupEntry k entries with
    | some (.table sub origin) => do
      let sub ← insertUnder sub rest key v
      pure (replaceEntry k (.table sub origin) entries)
    | _ => none

end Arbor.Toml
