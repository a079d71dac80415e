import Arbor.Tree.Basic
import Arbor.Text.Similarity
/-!
Finding nodes by path.
-/

namespace Arbor

open Arbor.Outline Arbor.Text

/-- A name without a trailing `()`. -/
def dropCallParens (s : String) : String :=
  if s.endsWith "()" then String.ofList (s.toList.take (s.length - 2)) else s

/-- The pieces of a list of characters between the characters that satisfy `sep`; two
separators in a row leave an empty piece between them. -/
def splitWhere (sep : Char → Bool) : List Char → List (List Char)
  | [] => [[]]
  | c :: cs =>
    if sep c then [] :: splitWhere sep cs
    else match splitWhere sep cs with
      | first :: rest => (c :: first) :: rest
      | [] => [[c]]

namespace Tree

/-- The last child of a node that is not content and has the given name. -/
def findChild? (t : Tree) (id : NodeId) (name : String) : Option NodeId :=
  (t.children id).reverse.find? fun c => t.kind c != .content && t.name c == name

/-- The longest run of two or more dot-separated names, starting at `first`, that names a
child of `id`, with the position of its last name. -/
def findDottedChild? (t : Tree) (id : NodeId) (segments : Array String) (dotted : Array Bool)
    (first : Nat) : Option (NodeId × Nat) :=
  let rec lastOfRun (fuel i : Nat) : Nat :=
    match fuel with
    | 0 => i
    | fuel + 1 =>
      if dotted.getD i false && !(segments.getD (i + 1) "").isEmpty then lastOfRun fuel (i + 1) else i
  let last := lastOfRun dotted.size first
  ((List.range (last - first)).reverse.map (first + 1 + ·)).findSome? fun stop =>
    let joined := ".".intercalate ((segments.extract first (stop + 1)).toList)
    (t.findChild? id (dropCallParens joined)).map (·, stop)

def closestChildName? (t : Tree) (id : NodeId) (segment : String) : Option String :=
  let scored := ((t.children id).map t.name).filter (!·.isEmpty) |>.map fun n => (jaroWinkler n segment, n)
  let best := scored.foldl (fun (acc : Option (Float × String)) (s, n) =>
    if s ≥ 0.8 then
      match acc with
      | some (b, _) => if s ≥ b then some (s, n) else acc
      | none => some (s, n)
    else acc) none
  best.map (·.2)

/-- Follow the names of a path from node `cur`, reading from position `idx` on. -/
def resolveSegments (t : Tree) (expr : String) (segments : Array String) (dotted : Array Bool) :
    Nat → NodeId → Nat → Except TreeError NodeId
  | 0, cur, _ => .ok cur
  | fuel + 1, cur, idx =>
    if h : idx < segments.size then
      let raw := segments[idx]
      if raw.isEmpty then
        if idx + 1 = segments.size then .ok cur
        else match t.parent? cur with
          | some p => resolveSegments t expr segments dotted fuel p (idx + 1)
          | none => .error (.notFound expr ".." (t.absoluteName cur) none)
      else
        match t.findDottedChild? cur segments dotted idx with
        | some (child, last) => resolveSegments t expr segments dotted fuel child (last + 1)
        | none =>
          let segment := dropCallParens raw
          match t.findChild? cur segment with
          | some child => resolveSegments t expr segments dotted fuel child (idx + 1)
          | none =>
            if t.name cur == segment then resolveSegments t expr segments dotted fuel cur (idx + 1)
            else .error (.notFound expr segment (t.absoluteName cur) (t.closestChildName? cur segment))
    else .ok cur

/-- Resolve a path relative to node `start`. -/
def resolveFrom (t : Tree) (start : NodeId) (expr : String) : Except TreeError NodeId :=
  let normalized := expr.toList.map fun c => if c == '\\' then '/' else c
  let segments := (splitWhere (fun c => c == '.' || c == '/') normalized).map String.ofList
  let dotted := (normalized.filter fun c => c == '.' || c == '/').map (· == '.')
  resolveSegments t expr segments.toArray dotted.toArray (segments.length + 1) start 0

def resolve (t : Tree) (expr : String) : Except TreeError NodeId := t.resolveFrom t.root expr

end Tree

end Arbor
