import Arbor.Toml.Read
/-!
Values and whole documents.
-/

namespace Arbor.Toml

mutual

def readValue : Nat → List Char → Step Value
  | 0, _ => none
  | fuel + 1, cs =>
    match cs with
    | 't' :: 'r' :: 'u' :: 'e' :: rest => some (.boolean true, rest)
    | 'f' :: 'a' :: 'l' :: 's' :: 'e' :: rest => some (.boolean false, rest)
    | '[' :: rest => readItems fuel rest []
    | '{' :: rest =>
      match skipGaps rest with
      | some ('}' :: rest') => some (.table [], rest')
      | some rest' => readEntries fuel rest' []
      | none => none
    | _ => (readString cs).map fun (s, r) => (.string s, r)

/-- The items of an array after its opening bracket or after a comma; `acc` holds the items
read so far, last first. -/
def readItems : Nat → List Char → List Value → Step Value
  | 0, _, _ => none
  | fuel + 1, cs, acc =>
    match skipGaps cs with
    | some (']' :: rest) => some (.array acc.reverse, rest)
    | some cs' =>
      match readValue fuel cs' with
      | some (v, rest) =>
        match skipGaps rest with
        | some (',' :: rest') => readItems fuel rest' (v :: acc)
        | some (']' :: rest') => some (.array (v :: acc).reverse, rest')
        | _ => none
      | none => none
    | none => none

/-- The entries of an inline table from a key on; `entries` holds those read so far. Line
breaks and comments may stand around the commas, and a comma may end the table. -/
def readEntries : Nat → List Char → List (String × Node) → Step Value
  | 0, _, _ => none
  | fuel + 1, cs, entries =>
    match readKey fuel cs with
    | some (key, rest) =>
      match skipBlanks rest with
      | '=' :: rest' =>
        match readValue fuel (skipBlanks rest') with
        | some (v, rest'') =>
          match insertDotted entries key v with
          | some entries' =>
            match skipGaps rest'' with
            | some (',' :: more) =>
              match skipGaps more with
              | some ('}' :: more') => some (.table (entriesToValue entries'), more')
              | some more' => readEntries fuel more' entries'
              | none => none
            | some ('}' :: more) => some (.table (entriesToValue entries'), more)
            | _ => none
          | none => none
        | none => none
      | _ => none
    | none => none

end

/-- The lines of a document from `cs` on, setting keys in `root`; `current` is the path of the
table the last header opened. -/
def readLines : Nat → List Char → List (String × Node) → List String → Option (List (String × Node))
  | 0, _, _, _ => none
  | fuel + 1, cs, root, current =>
    match skipBlanks cs with
    | [] => some root
    | '\n' :: rest => readLines fuel rest root current
    | '\r' :: '\n' :: rest => readLines fuel rest root current
    | '#' :: rest => do
      let rest ← endOfLine ('#' :: rest)
      readLines fuel rest root current
    | '[' :: '[' :: _ => none
    | '[' :: rest => do
      let (path, rest) ← readKey fuel (skipBlanks rest)
      match skipBlanks rest with
      | ']' :: rest' =>
        let rest'' ← endOfLine rest'
        let root' ← openHeader root path
        readLines fuel rest'' root' path
      | _ => none
    | line => do
      let (key, rest) ← readKey fuel line
      match skipBlanks rest with
      | '=' :: rest' =>
        let (v, rest'') ← readValue fuel (skipBlanks rest')
        let rest3 ← endOfLine rest''
        let root' ← insertUnder root current key v
        readLines fuel rest3 root' current
      | _ => none

/-- A whole document as a table, or nothing when the text is not a document this reader
takes. -/
def readDocument (text : String) : Option Value :=
  (readLines (text.length + 1) text.toList [] []).map fun entries => .table (entriesToValue entries)

end Arbor.Toml
