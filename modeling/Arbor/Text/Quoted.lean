import Arbor.Text.Unprintable
/-!
Texts quoted for error messages.
-/

namespace Arbor.Text

def hexDigits (n : Nat) : String :=
  String.ofList ((Nat.toDigits 16 n).map fun c => c.toLower)

def quoteChar (c : Char) : List Char :=
  match c with
  | '\x00' => ['\\', '0']
  | '\t' => ['\\', 't']
  | '\r' => ['\\', 'r']
  | '\n' => ['\\', 'n']
  | '\\' => ['\\', '\\']
  | '"' => ['\\', '"']
  | _ => if showsAsEscape c then ("\\u\x7b" ++ hexDigits c.toNat ++ "\x7d").toList else [c]

def quoted (s : String) : String := String.ofList ('"' :: s.toList.flatMap quoteChar ++ ['"'])

end Arbor.Text
