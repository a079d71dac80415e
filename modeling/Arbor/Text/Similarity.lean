/-!
Jaro-Winkler similarity of two texts, in double-precision arithmetic.
-/

namespace Arbor.Text

/-- Mark the partners of each character of `a` in `b`, within `range` positions: the flags
of `a`, the flags of `b`, and the number of matches. -/
def jaroMatches (a b : Array Char) (range : Nat) : Array Bool × Array Bool × Nat :=
  (List.range a.size).foldl (fun (acc : Array Bool × Array Bool × Nat) i =>
    let (af, bf, m) := acc
    let lo := i - range
    let hi := min b.size (i + range + 1)
    match (List.range (hi - lo)).find? (fun k => let j := lo + k; a[i]? == b[j]? && !bf.getD j true) with
    | some k => (af.modify i (fun _ => true), bf.modify (lo + k) (fun _ => true), m + 1)
    | none => (af, bf, m)) (Array.replicate a.size false, Array.replicate b.size false, 0)

/-- The Jaro similarity of two texts. -/
def jaro (s t : String) : Float :=
  let a := s.toList.toArray
  let b := t.toList.toArray
  if a.size = 0 ∧ b.size = 0 then 1.0
  else if a.size = 0 ∨ b.size = 0 then 0.0
  else
    let range := max a.size b.size / 2 - 1
    let (af, bf, m) := jaroMatches a b range
    if m = 0 then 0.0
    else
      let ca := (a.toList.zip af.toList).filterMap fun (c, f) => if f then some c else none
      let cb := (b.toList.zip bf.toList).filterMap fun (c, f) => if f then some c else none
      let t := ((ca.zip cb).filter fun (x, y) => x != y).length / 2
      (m.toFloat / a.size.toFloat + m.toFloat / b.size.toFloat + (m - t).toFloat / m.toFloat) / 3.0

/-- The Jaro-Winkler similarity of two texts. -/
def jaroWinkler (s t : String) : Float :=
  let sim := jaro s t
  if sim > 0.7 then
    let common := (((s.toList.take 4).zip t.toList).takeWhile fun (x, y) => x == y).length
    sim + 0.1 * common.toFloat * (1.0 - sim)
  else sim

end Arbor.Text
