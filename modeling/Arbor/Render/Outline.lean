import Arbor.Tree.Basic
import Arbor.Render.Style
/-!
Outlines: the named nodes of a subtree, one per line, indented two spaces per level.
-/

namespace Arbor.Render

open Arbor Arbor.Outline

/-- The outline of the subtree at `root`. -/
def outline (t : Tree) (root : NodeId) (style : Style) : String :=
  let base := (t.track root).length
  String.join <| (t.descendants root).filterMap fun id =>
    let kind := t.kind id
    if kind = .content then none else
      let depth := (t.track id).length - base
      let label := match style.scheme with
        | .dark => blue style.ansi kind.label
        | .noColor => kind.label
      let name := t.name id
      let name := if (kind = .directory ∨ kind = .file) ∧ name.isEmpty then "<text>" else name
      let span := match t.span? id with
        | some s => if style.lineNumbers ∧ kind.isStructural then " (" ++ s.render ++ ")" else ""
        | none => ""
      some (String.join (List.replicate depth "  ") ++ label ++ " " ++ name ++ span ++ "\n")

end Arbor.Render
