import Arbor.Search
import Arbor.Render.Style
/-!
Matches and planned replacements, one line each.
-/

namespace Arbor.Render

open Arbor Arbor.Text

/-- The location of a match, painted cyan in the dark scheme. -/
def location (style : Style) (m : LineMatch) : String :=
  let loc := if style.lineNumbers then m.file ++ ":" ++ toString m.line else m.file
  match style.scheme with
  | .dark => cyan style.ansi loc
  | .noColor => loc

def spliceSpans (text : String) (spans : List (Nat × Nat)) (mark : Nat → String → String) : String :=
  let (out, cursor, _) := spans.foldl (fun (acc : String × Nat × Nat) (a, b) =>
    let (out, cursor, i) := acc
    (out ++ sliceBytes text cursor a ++ mark i (sliceBytes text a b), b, i + 1)) ("", 0, 0)
  out ++ suffixBytes text cursor

/-- One match with its matched text marked. -/
def renderMatch (style : Style) (m : LineMatch) : String :=
  let marked := match style.scheme with
    | .noColor => m.marked "<" ">"
    | .dark => spliceSpans m.text m.spans fun _ s => highlighted style.ansi s
  let owner := match style.scheme with
    | .dark => dimmed style.ansi m.owner
    | .noColor => m.owner
  if m.owner.isEmpty then location style m ++ ": '" ++ marked ++ "'"
  else location style m ++ ": '" ++ marked ++ "' (" ++ owner ++ ")"

/-- One matched line with each match shown as old and new text. -/
def renderReplacement (style : Style) (m : LineMatch) (replacements : List String) : String :=
  let marked := spliceSpans m.text m.spans fun i old =>
    let new := replacements.getD i ""
    match style.scheme with
    | .noColor => "<" ++ old ++ "/" ++ new ++ ">"
    | .dark => struck style.ansi old ++ green style.ansi new
  location style m ++ ": '" ++ marked ++ "'"

end Arbor.Render
