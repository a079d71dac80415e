import Arbor.Render.Match
import Arbor.Edit.Session
/-!
Planned sessions, one line per matched line.
-/

namespace Arbor.Render

open Arbor.Edit

/-- Every planned change of a session, one line per matched line. -/
def renderPlan (style : Style) (s : Session) : String :=
  String.join (s.files.flatMap fun f =>
    (f.found.zip f.replacements).map fun (m, rs) => renderReplacement style m rs ++ "\n")

end Arbor.Render
