import Arbor.Search
import Arbor.Proofs.Outline.Tiles
import Mathlib.Data.List.TakeWhile
/-!
The cursor over delegated spans.
-/

namespace Arbor.Outline

/-- Spans in order: each ends before any later one starts. -/
def InOrder (spans : List Span) : Prop := spans.Pairwise fun a b => a.last < b.first

theorem any_contains_eq_head {spans : List Span} (hord : InOrder spans) (l : Nat) :
    spans.any (·.contains l) =
      match spans.dropWhile (·.last < l) with
      | s :: _ => s.contains l
      | [] => false := by
  have hpre : ∀ s ∈ spans.takeWhile (·.last < l), s.contains l = false := fun s hs => by
    have := List.mem_takeWhile_imp hs
    simp only [decide_eq_true_eq] at this
    simp only [Span.contains, Bool.and_eq_false_iff, decide_eq_false_iff_not]
    exact .inr (by omega)
  have hsplit := (List.takeWhile_append_dropWhile (p := fun s : Span => decide (s.last < l))
    (l := spans)).symm
  have hahead : InOrder (spans.dropWhile (·.last < l)) := hord.sublist (List.dropWhile_sublist _)
  generalize hah : spans.dropWhile (·.last < l) = ahead at hsplit hahead
  rw [hsplit, List.any_append]
  have hnone : (spans.takeWhile (·.last < l)).any (·.contains l) = false := by
    simpa only [List.any_eq_false, Bool.not_eq_true] using hpre
  rw [hnone, Bool.false_or]
  cases ahead with
  | nil => rfl
  | cons s rest =>
    -- the head ends at or after `l`, and every later span starts after the head ends
    have hs : ¬ s.last < l := by
      have := List.head_dropWhile_not (fun s : Span => decide (s.last < l)) (l := spans)
        (by simp [hah])
      simp only [hah, List.head_cons, decide_eq_false_iff_not] at this
      exact this
    have hlater : rest.any (·.contains l) = false := by
      simp only [List.any_eq_false, Span.contains, Bool.and_eq_true, decide_eq_true_eq, not_and,
        Nat.not_le]
      intro r hr hfirst
      have := List.rel_of_pairwise_cons hahead hr
      omega
    rw [List.any_cons, hlater, Bool.or_false]

theorem any_contains_dropWhile {spans : List Span} {l l' : Nat} (hll' : l < l') :
    (spans.dropWhile (·.last < l)).any (·.contains l') = spans.any (·.contains l') := by
  conv => rhs; rw [← List.takeWhile_append_dropWhile (p := fun s : Span => decide (s.last < l))
    (l := spans)]
  have hnone : (spans.takeWhile (·.last < l)).any (·.contains l') = false := by
    simp only [List.any_eq_false, Span.contains, Bool.and_eq_true, decide_eq_true_eq, not_and,
      Nat.not_le]
    intro s hs _
    have := List.mem_takeWhile_imp hs
    simp only [decide_eq_true_eq] at this
    omega
  rw [List.any_append, hnone, Bool.false_or]

/-- The cursor keeps exactly the lines that no span holds, when the spans are in order and the
lines increase. -/
theorem ownLines_eq_filter {lines : List Nat} (hlines : lines.Pairwise (· < ·)) :
    ∀ {spans : List Span}, InOrder spans →
      ownLines spans lines = lines.filter fun l => !spans.any (·.contains l) := by
  induction lines with
  | nil => intro _ _; rfl
  | cons l rest ih =>
    intro spans hord
    have hahead : InOrder (spans.dropWhile (·.last < l)) := hord.sublist (List.dropWhile_sublist _)
    -- the later lines see the same spans through the moved cursor
    have hrest : ownLines (spans.dropWhile (·.last < l)) rest =
        rest.filter fun l' => !spans.any (·.contains l') := by
      rw [ih (List.pairwise_cons.mp hlines).2 hahead]
      refine List.filter_congr fun l' hl' => ?_
      rw [any_contains_dropWhile ((List.pairwise_cons.mp hlines).1 l' hl')]
    have hhead := any_contains_eq_head hord l
    rw [ownLines, List.filter_cons]
    -- the line is kept exactly when the span at the cursor does not hold it
    cases hah : spans.dropWhile (·.last < l) with
    | nil =>
      rw [hah] at hrest hhead
      simp [hhead, hrest]
    | cons s more =>
      rw [hah] at hrest hhead
      rw [hhead]
      by_cases hs : s.contains l <;> simp [hs, hrest]

/-- The lines of a span increase. -/
theorem Span.lines_increasing (s : Span) : s.lines.Pairwise (· < ·) := by
  rw [Covers.lines_range]
  exact List.pairwise_lt_range'

theorem Covers.inOrder {lo next : Nat} : {spans : List Span} → Covers lo spans next → InOrder spans
  | [], _ => List.Pairwise.nil
  | s :: rest, ⟨_, _, h⟩ => by
    refine List.Pairwise.cons (fun r hr => ?_) (Covers.inOrder h)
    have := h.within hr
    omega

theorem Covers.sorted_first {lo next : Nat} {spans : List Span} (h : Covers lo spans next) :
    spans.Pairwise fun a b => decide (a.first ≤ b.first) := by
  have hne : ∀ s ∈ spans, s.first ≤ s.last := fun s hs => by
    induction spans generalizing lo with
    | nil => simp at hs
    | cons t rest ih =>
      obtain ⟨_, ht, hr⟩ := h
      rcases List.mem_cons.mp hs with rfl | hs
      · exact ht
      · exact ih hr hs
  refine h.inOrder.imp_of_mem fun {a b} ha _ hab => ?_
  have := hne a ha
  simp only [decide_eq_true_eq]
  omega

theorem Span.mem_lines {s : Span} {l : Nat} : l ∈ s.lines ↔ s.contains l := by
  rw [Covers.lines_range, List.mem_range'_1]
  simp only [Span.contains, Span.length, Bool.and_eq_true, decide_eq_true_eq]
  omega

namespace IsOutline

variable {total : Nat} {nodes : Array Node}

/-- The children of a node come after it in the table. -/
theorem child_lt (h : IsOutline total nodes) {p c : Nat} (hp : p < nodes.size)
    (hc : c ∈ (entry nodes p).children) : p < c ∧ c < nodes.size := by
  obtain ⟨hcs, hcp⟩ := h.child_parent p c hp hc
  have hc0 : 0 < c := by
    rcases Nat.eq_zero_or_pos c with rfl | hpos
    · simp [h.root.2.2.2] at hcp
    · exact hpos
  obtain ⟨q, hq, hqc, -⟩ := h.parent_listed c hc0 hcs
  rw [hcp, Option.some_inj] at hq
  exact ⟨hq ▸ hqc, hcs⟩

/-- A node with children whose children need not tile it is the file node of an empty file. -/
theorem empty_of_not_tiled {j : Nat} (hne : (entry nodes j).children ≠ #[])
    (hcase : ¬ (j = 0 ∧ 0 < total ∨ 0 < j ∧ (entry nodes j).children ≠ #[])) :
    j = 0 ∧ total = 0 := by
  have hj0 : j = 0 := by
    by_contra hj0
    exact hcase (.inr ⟨by omega, hne⟩)
  exact ⟨hj0, by by_contra ht; exact hcase (.inl ⟨hj0, by omega⟩)⟩

/-- The lines of a node's children, one child after the other, are the node's lines. -/
theorem children_lines (h : IsOutline total nodes) {j : Nat} (hj : j < nodes.size)
    (hne : (entry nodes j).children ≠ #[]) :
    (entry nodes j).children.toList.flatMap (fun c => (entry nodes c).span.lines) =
      (entry nodes j).span.lines := by
  by_cases hcase : j = 0 ∧ 0 < total ∨ 0 < j ∧ (entry nodes j).children ≠ #[]
  · have htiles := h.children_tile j hj hcase
    have := Covers.flatMap_lines htiles
    rw [childSpans, List.flatMap_map] at this
    change (entry nodes j).children.toList.flatMap (fun c => (spanAt nodes c).lines) = _
    rw [this, Covers.lines_range, Span.length]
  · -- only the file node of an empty file is left: one empty content child
    obtain ⟨rfl, htotal⟩ := empty_of_not_tiled hne hcase
    obtain ⟨c, hc, -, hspan⟩ := h.empty_file htotal
    rw [hc, h.root.2.2.1, htotal]
    simp [hspan, Span.empty, Span.lines, Span.length]

/-- Every line of every node lies in the file. -/
theorem lines_within (h : IsOutline total nodes) :
    ∀ i, i < nodes.size → ∀ l ∈ (entry nodes i).span.lines, 1 ≤ l ∧ l ≤ total := by
  intro i
  induction i using Nat.strong_induction_on with
  | _ i ih =>
    intro hi l hl
    rcases Nat.eq_zero_or_pos i with rfl | hi0
    · rw [h.root.2.2.1, Span.mem_lines] at hl
      simpa [Span.contains] using hl
    · -- a line of a child is a line of its parent
      obtain ⟨p, hp, hpi, hcount⟩ := h.parent_listed i hi0 hi
      have hmem : i ∈ (entry nodes p).children := by
        rw [← Array.count_pos_iff, hcount]
        exact Nat.one_pos
      have hne : (entry nodes p).children ≠ #[] := fun he => by simp [he] at hmem
      refine ih p hpi (by omega) l ?_
      rw [← h.children_lines (by omega) hne, List.mem_flatMap]
      exact ⟨i, by simpa using hmem, hl⟩

/-- Two leaves holding the same line of the file are one node. -/
theorem leaf_unique (h : IsOutline total nodes) {l i k : Nat} (h1 : 1 ≤ l) (h2 : l ≤ total)
    (hi : i < nodes.size) (hileaf : (entry nodes i).children = #[])
    (hil : (entry nodes i).span.contains l) (hk : k < nodes.size)
    (hkleaf : (entry nodes k).children = #[]) (hkl : (entry nodes k).span.contains l) : i = k := by
  obtain ⟨a, ha⟩ := Finset.card_eq_one.mp (h.leaves_partition h1 h2)
  have hia : i ∈ ({a} : Finset Nat) := by
    rw [← ha]
    simp [hi, hileaf, hil]
  have hka : k ∈ ({a} : Finset Nat) := by
    rw [← ha]
    simp [hk, hkleaf, hkl]
  rw [Finset.mem_singleton] at hia hka
  rw [hia, hka]

/-- A node with children leaves none of its lines to itself. -/
theorem ownLines_eq_nil (h : IsOutline total nodes) {j : Nat} (hj : j < nodes.size)
    (hne : (entry nodes j).children ≠ #[]) :
    ownLines ((childSpans nodes (entry nodes j)).mergeSort fun a b => a.first ≤ b.first)
      (entry nodes j).span.lines = [] := by
  by_cases hcase : j = 0 ∧ 0 < total ∨ 0 < j ∧ (entry nodes j).children ≠ #[]
  · have htiles := h.children_tile j hj hcase
    rw [List.mergeSort_of_pairwise htiles.sorted_first,
      ownLines_eq_filter (Span.lines_increasing _) htiles.inOrder, List.filter_eq_nil_iff]
    -- every line of the node lies in a child
    intro l hl
    have hone := h.one_child_contains hj hcase (Span.mem_lines.mp hl)
    obtain ⟨s, hs⟩ := List.length_pos_iff_exists_mem.mp
      (by rw [hone]; exact Nat.one_pos :
        0 < ((childSpans nodes (entry nodes j)).filter (·.contains l)).length)
    rw [List.mem_filter] at hs
    simp only [Bool.not_eq_true', List.any_eq_false, not_forall, not_not]
    exact ⟨s, hs.1, hs.2⟩
  · obtain ⟨rfl, htotal⟩ := empty_of_not_tiled hne hcase
    rw [h.root.2.2.1, htotal]
    rfl

end IsOutline

end Arbor.Outline
