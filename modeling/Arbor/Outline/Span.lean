/-!
Line spans: inclusive ranges of 1-based line numbers.
-/

namespace Arbor.Outline

/-- An inclusive range of 1-based line numbers; empty when `last < first`. -/
structure Span where
  first : Nat
  last : Nat
  deriving DecidableEq, Repr, Inhabited

namespace Span

def empty : Span := ⟨1, 0⟩

def isEmpty (s : Span) : Bool := s.last < s.first

def length (s : Span) : Nat := s.last + 1 - s.first

def contains (s : Span) (l : Nat) : Bool := s.first ≤ l && l ≤ s.last

def lines (s : Span) : List Nat := (List.range s.length).map (· + s.first)

/-- The text of a span: `first-last`, or `first:empty` for an empty one. -/
def render (s : Span) : String :=
  if s.isEmpty then toString s.first ++ ":empty" else toString s.first ++ "-" ++ toString s.last

theorem length_eq_zero_iff (s : Span) : s.length = 0 ↔ s.isEmpty = true := by
  simp [length, isEmpty]
  omega

@[simp] theorem length_lines (s : Span) : s.lines.length = s.length := by simp [lines]

end Span

end Arbor.Outline
