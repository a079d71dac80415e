import Arbor.Text.Hex
/-!
JSON values and their indented text.
-/

namespace Arbor.Text

/-- A JSON value. -/
inductive JsonValue where
  | null
  | bool (b : Bool)
  | num (n : Nat)
  | str (s : String)
  | arr (items : List JsonValue)
  | obj (fields : List (String × JsonValue))
  deriving Inhabited

def jsonChar (c : Char) : String :=
  match c with
  | '"' => "\\\""
  | '\\' => "\\\\"
  | '\n' => "\\n"
  | '\r' => "\\r"
  | '\t' => "\\t"
  | '\x08' => "\\b"
  | '\x0c' => "\\f"
  | c => if c.toNat < 0x20 then "\\u00" ++ hexByte c.toNat.toUInt8 else c.toString

def jsonString (s : String) : String := "\"" ++ String.join (s.toList.map jsonChar) ++ "\""

def indentOf (level : Nat) : String := String.join (List.replicate level "  ")

mutual

/-- The indented text of a value at a nesting level. -/
def JsonValue.pretty (level : Nat) : JsonValue → String
  | .null => "null"
  | .bool b => toString b
  | .num n => toString n
  | .str s => jsonString s
  | .arr [] => "[]"
  | .arr items => "[\n" ++ prettyItems (level + 1) items ++ "\n" ++ indentOf level ++ "]"
  | .obj [] => "\x7b\x7d"
  | .obj fields => "\x7b\n" ++ prettyFields (level + 1) fields ++ "\n" ++ indentOf level ++ "\x7d"

def prettyItems (level : Nat) : List JsonValue → String
  | [] => ""
  | [v] => indentOf level ++ v.pretty level
  | v :: rest => indentOf level ++ v.pretty level ++ ",\n" ++ prettyItems level rest

def prettyFields (level : Nat) : List (String × JsonValue) → String
  | [] => ""
  | [(k, v)] => indentOf level ++ jsonString k ++ ": " ++ v.pretty level
  | (k, v) :: rest => indentOf level ++ jsonString k ++ ": " ++ v.pretty level ++ ",\n" ++
      prettyFields level rest

end

end Arbor.Text
