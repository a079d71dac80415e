/-!
Values of a settings document.
-/

namespace Arbor.Toml

/-- A value of a settings document. -/
inductive Value where
  | string (s : String)
  | boolean (b : Bool)
  | array (items : List Value)
  | table (entries : List (String × Value))
  deriving Inhabited, Repr

/-- How a table came to be while a document is read: opened by a header, made by the dotted
keys of a key/value line, or only named on the way to a deeper header. -/
inductive Origin where
  | header
  | dotted
  | implied
  deriving DecidableEq, Repr

/-- A node of a document while it is read: a finished value (a scalar, an array, or a table
written inline, none of which may be added to), or a table that later lines may add to. -/
inductive Node where
  | leaf (v : Value)
  | table (entries : List (String × Node)) (origin : Origin)
  deriving Inhabited

mutual

def Node.toValue : Node → Value
  | .leaf v => v
  | .table entries _ => .table (entriesToValue entries)

/-- The values finished entries stand for. -/
def entriesToValue : List (String × Node) → List (String × Value)
  | [] => []
  | (k, n) :: rest => (k, n.toValue) :: entriesToValue rest

end

end Arbor.Toml
