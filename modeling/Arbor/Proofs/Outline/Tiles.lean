import Arbor.Outline.Parse
import Mathlib.Data.List.Nodup
import Mathlib.Algebra.BigOperators.Group.Finset.Piecewise
/-!
Spans that tile a range of lines, and node tables whose children tile their parents.
-/

namespace Arbor.Outline

/-- The node at position `i` of a table; the default node past its end. -/
def entry (nodes : Array Node) (i : Nat) : Node := nodes.getD i default

theorem entry_push (nodes : Array Node) (x : Node) (i : Nat) :
    entry (nodes.push x) i =
      if i < nodes.size then entry nodes i else if i = nodes.size then x else default := by
  simp only [entry, Array.getD_eq_getD_getElem?, Array.getElem?_push]
  by_cases h : i < nodes.size
  · simp [h, Nat.ne_of_lt h]
  · by_cases he : i = nodes.size
    · simp [he]
    · simp [h, he]

@[simp] theorem entry_push_lt {nodes : Array Node} {x : Node} {i : Nat} (h : i < nodes.size) :
    entry (nodes.push x) i = entry nodes i := by
  simp [entry_push, h]

@[simp] theorem entry_push_size (nodes : Array Node) (x : Node) :
    entry (nodes.push x) nodes.size = x := by
  simp [entry_push]

theorem entry_modify (nodes : Array Node) (j i : Nat) (f : Node → Node) :
    entry (nodes.modify j f) i =
      if j = i ∧ i < nodes.size then f (entry nodes i) else entry nodes i := by
  simp only [entry, Array.getD_eq_getD_getElem?, Array.getElem?_modify]
  by_cases hj : j = i
  · subst hj
    by_cases h : j < nodes.size
    · simp [h]
    · simp [h]
  · simp [hj]

theorem entry_modify_ne (nodes : Array Node) {j i : Nat} (f : Node → Node) (h : j ≠ i) :
    entry (nodes.modify j f) i = entry nodes i := by
  simp [entry_modify, h]

theorem entry_modify_self (nodes : Array Node) {i : Nat} (f : Node → Node) (h : i < nodes.size) :
    entry (nodes.modify i f) i = f (entry nodes i) := by
  simp [entry_modify, h]

/-- Spans that cover the lines from `lo` up to, not including, `next`, in order: each span is
non-empty and starts on the line after the one before it ends. -/
def Covers : Nat → List Span → Nat → Prop
  | lo, [], next => lo = next
  | lo, s :: rest, next => s.first = lo ∧ s.first ≤ s.last ∧ Covers (s.last + 1) rest next

instance decCovers : (lo : Nat) → (spans : List Span) → (next : Nat) → Decidable (Covers lo spans next)
  | lo, [], next => inferInstanceAs (Decidable (lo = next))
  | lo, s :: rest, next =>
    have := decCovers (s.last + 1) rest next
    inferInstanceAs (Decidable (s.first = lo ∧ s.first ≤ s.last ∧ Covers (s.last + 1) rest next))

/-- Spans that tile the lines from `lo` to `hi`: non-empty, contiguous, the first starting at
`lo` and the last ending at `hi`. -/
def Tiles (lo : Nat) (spans : List Span) (hi : Nat) : Prop := Covers lo spans (hi + 1)

instance (lo : Nat) (spans : List Span) (hi : Nat) : Decidable (Tiles lo spans hi) :=
  inferInstanceAs (Decidable (Covers lo spans (hi + 1)))

example : Tiles 1 [⟨1, 2⟩, ⟨3, 3⟩, ⟨4, 7⟩] 7 := by decide

example : ¬ Tiles 1 [⟨1, 2⟩, ⟨4, 7⟩] 7 := by decide

namespace Covers

theorem le {lo next : Nat} : {spans : List Span} → Covers lo spans next → lo ≤ next
  | [], h => Nat.le_of_eq h
  | s :: rest, ⟨hf, hne, h⟩ => by
    have := le h
    omega

theorem lines_range (s : Span) : s.lines = List.range' s.first s.length := by
  simp [Span.lines, List.range'_eq_map_range, Nat.add_comm]

/-- The lines of covering spans, one span after the other, are the covered lines in order. -/
theorem flatMap_lines {lo next : Nat} :
    {spans : List Span} → Covers lo spans next →
      spans.flatMap Span.lines = List.range' lo (next - lo)
  | [], h => by
    simp only [Covers] at h
    simp [h]
  | s :: rest, ⟨hf, hne, h⟩ => by
    have hle := h.le
    have hsplit : next - lo = s.length + (next - (s.last + 1)) := by
      simp only [Span.length]
      omega
    have hnext : s.last + 1 = s.first + s.length := by
      simp only [Span.length]
      omega
    rw [List.flatMap_cons, flatMap_lines h, lines_range, hsplit, hnext, List.range'_append_1, hf]

theorem count_contains {lo next : Nat} {spans : List Span} (h : Covers lo spans next) (l : Nat) :
    (spans.filter (·.contains l)).length = if lo ≤ l ∧ l < next then 1 else 0 := by
  induction spans generalizing lo with
  | nil =>
    simp only [Covers] at h
    subst h
    simp
  | cons s rest ih =>
    obtain ⟨hf, hne, hr⟩ := h
    have hle := hr.le
    by_cases hl : s.contains l = true
    · simp only [List.filter_cons, hl, ↓reduceIte, List.length_cons, ih hr]
      simp only [Span.contains, Bool.and_eq_true, decide_eq_true_eq] at hl
      split <;> split <;> omega
    · simp only [List.filter_cons, hl, Bool.false_eq_true, ↓reduceIte, ih hr]
      simp only [Span.contains, Bool.and_eq_true, decide_eq_true_eq, not_and_or,
        Nat.not_le] at hl
      split <;> split <;> omega

/-- Every covering span lies inside the covered lines. -/
theorem within {lo next : Nat} {spans : List Span} (h : Covers lo spans next) {s : Span}
    (hs : s ∈ spans) : lo ≤ s.first ∧ s.last < next := by
  induction spans generalizing lo with
  | nil => simp at hs
  | cons t rest ih =>
    obtain ⟨hf, hne, hr⟩ := h
    have hle := hr.le
    rcases List.mem_cons.mp hs with rfl | hs
    · omega
    · have := ih hr hs
      omega

end Covers

def spanAt (nodes : Array Node) (i : Nat) : Span := (entry nodes i).span

def childSpans (nodes : Array Node) (n : Node) : List Span := n.children.toList.map (spanAt nodes)

/-- A node table that is the outline of a file of `total` lines: a tree rooted at the file node
whose children tile their parents' spans. -/
structure IsOutline (total : Nat) (nodes : Array Node) : Prop where
  root : 0 < nodes.size ∧ (entry nodes 0).kind = .file ∧ (entry nodes 0).span = ⟨1, total⟩ ∧
    (entry nodes 0).parent = none
  parent_listed : ∀ i, 0 < i → i < nodes.size →
    ∃ p, (entry nodes i).parent = some p ∧ p < i ∧ (entry nodes p).children.count i = 1
  child_parent : ∀ p c, p < nodes.size → c ∈ (entry nodes p).children →
    c < nodes.size ∧ (entry nodes c).parent = some p
  children_tile : ∀ i, i < nodes.size →
    (i = 0 ∧ 0 < total ∨ 0 < i ∧ (entry nodes i).children ≠ #[]) →
    Tiles (entry nodes i).span.first (childSpans nodes (entry nodes i)) (entry nodes i).span.last
  empty_file : total = 0 → ∃ c, (entry nodes 0).children = #[c] ∧
    (entry nodes c).kind = .content ∧ (entry nodes c).span = Span.empty
  content_leaf : ∀ i, i < nodes.size → (entry nodes i).kind = .content →
    (entry nodes i).children = #[]

namespace IsOutline

variable {total : Nat} {nodes : Array Node}

/-- The children lists of an outline have no repeats. -/
theorem children_nodup (h : IsOutline total nodes) {p : Nat} (hp : p < nodes.size) :
    (entry nodes p).children.toList.Nodup := by
  refine List.nodup_iff_count_le_one.mpr fun c => ?_
  by_cases hc : c ∈ (entry nodes p).children
  · obtain ⟨hcs, hcp⟩ := h.child_parent p c hp hc
    have hc0 : 0 < c := by
      rcases Nat.eq_zero_or_pos c with rfl | hpos
      · simp [h.root.2.2.2] at hcp
      · exact hpos
    obtain ⟨q, hq, -, hcount⟩ := h.parent_listed c hc0 hcs
    rw [hcp, Option.some_inj] at hq
    subst hq
    simp [hcount]
  · have : (entry nodes p).children.toList.count c = 0 :=
      List.count_eq_zero.mpr (by simpa using hc)
    omega

/-- A line of a node whose children tile it lies in exactly one child. -/
theorem one_child_contains (h : IsOutline total nodes) {i l : Nat} (hi : i < nodes.size)
    (hc : i = 0 ∧ 0 < total ∨ 0 < i ∧ (entry nodes i).children ≠ #[])
    (hl : (entry nodes i).span.contains l) :
    ((childSpans nodes (entry nodes i)).filter (·.contains l)).length = 1 := by
  rw [Covers.count_contains (h.children_tile i hi hc)]
  simp only [Span.contains, Bool.and_eq_true, decide_eq_true_eq] at hl
  simp [hl.1, Nat.lt_succ_of_le hl.2]

theorem child_within (h : IsOutline total nodes) {p c : Nat} (hp : p < nodes.size)
    (hc : c ∈ (entry nodes p).children) (hne : p = 0 → 0 < total) :
    (entry nodes p).span.first ≤ (entry nodes c).span.first ∧
      (entry nodes c).span.last ≤ (entry nodes p).span.last := by
  have htiles := h.children_tile p hp (by
    rcases Nat.eq_zero_or_pos p with rfl | hpos
    · exact .inl ⟨rfl, hne rfl⟩
    · exact .inr ⟨hpos, fun he => by simp [he] at hc⟩)
  have hmem : (entry nodes c).span ∈ childSpans nodes (entry nodes p) :=
    List.mem_map.mpr ⟨c, by simpa using hc, rfl⟩
  have := Covers.within htiles hmem
  omega

/-- The nodes of a table whose span holds line `l`. -/
def holding (nodes : Array Node) (l : Nat) : Finset Nat :=
  (Finset.range nodes.size).filter fun i => (entry nodes i).span.contains l

/-- The children of node `i` whose span holds line `l`. -/
def childrenHolding (nodes : Array Node) (l i : Nat) : Finset Nat :=
  (entry nodes i).children.toList.toFinset.filter fun c => (entry nodes c).span.contains l

theorem holding_erase_root (h : IsOutline total nodes) {l : Nat} (hl : 0 < total) :
    (holding nodes l).erase 0 = (holding nodes l).biUnion (childrenHolding nodes l) := by
  ext j
  simp only [Finset.mem_erase, holding, Finset.mem_filter, Finset.mem_range, Finset.mem_biUnion,
    childrenHolding, List.mem_toFinset, Array.mem_toList_iff]
  constructor
  · rintro ⟨hj0, hjs, hjl⟩
    obtain ⟨p, hp, hpj, hcount⟩ := h.parent_listed j (Nat.pos_of_ne_zero hj0) hjs
    have hmem : j ∈ (entry nodes p).children := Array.count_pos_iff.mp (by omega)
    have hps : p < nodes.size := by omega
    have hw := h.child_within hps hmem fun _ => hl
    refine ⟨p, ⟨hps, ?_⟩, hmem, hjl⟩
    simp only [Span.contains, Bool.and_eq_true, decide_eq_true_eq] at hjl ⊢
    omega
  · rintro ⟨i, ⟨his, -⟩, hmem, hjl⟩
    obtain ⟨hjs, hjp⟩ := h.child_parent i j his hmem
    refine ⟨fun hj0 => ?_, hjs, hjl⟩
    subst hj0
    simp [h.root.2.2.2] at hjp

theorem childrenHolding_disjoint (h : IsOutline total nodes) (l : Nat) :
    ((holding nodes l : Set Nat)).PairwiseDisjoint (childrenHolding nodes l) := by
  intro i hi i' hi' hne
  refine Finset.disjoint_left.mpr fun c hc hc' => hne ?_
  simp only [childrenHolding, Finset.mem_filter, List.mem_toFinset, Array.mem_toList_iff] at hc hc'
  simp only [holding, Finset.coe_filter, Finset.mem_range, Set.mem_ofPred_eq] at hi hi'
  have h1 := (h.child_parent i c hi.1 hc.1).2
  have h2 := (h.child_parent i' c hi'.1 hc'.1).2
  rw [h1, Option.some_inj] at h2
  exact h2

theorem card_childrenHolding (h : IsOutline total nodes) {l i : Nat} (hl : 0 < total)
    (hi : i ∈ holding nodes l) :
    (childrenHolding nodes l i).card = if (entry nodes i).children = #[] then 0 else 1 := by
  simp only [holding, Finset.mem_filter, Finset.mem_range] at hi
  split
  · rename_i hleaf
    simp [childrenHolding, hleaf]
  · rename_i hkids
    have hone := h.one_child_contains hi.1 (by
      rcases Nat.eq_zero_or_pos i with rfl | hpos
      · exact .inl ⟨rfl, hl⟩
      · exact .inr ⟨hpos, hkids⟩) hi.2
    have hnodup := (h.children_nodup hi.1).filter fun c => (entry nodes c).span.contains l
    rw [childrenHolding, ← List.toFinset_filter, List.toFinset_card_of_nodup hnodup,
      ← hone, childSpans, List.filter_map, List.length_map]
    rfl

/-- The leaves of an outline partition the lines of the file: each line from 1 to `total` lies
in exactly one node that has no children. -/
theorem leaves_partition (h : IsOutline total nodes) {l : Nat} (h1 : 1 ≤ l) (hl : l ≤ total) :
    ((Finset.range nodes.size).filter fun i =>
      (entry nodes i).children = #[] ∧ (entry nodes i).span.contains l).card = 1 := by
  have htotal : 0 < total := by omega
  have hroot : 0 ∈ holding nodes l := by
    simp only [holding, Finset.mem_filter, Finset.mem_range, h.root.2.2.1, Span.contains,
      Bool.and_eq_true, decide_eq_true_eq]
    exact ⟨h.root.1, h1, hl⟩
  -- every node holding the line but the root is counted once, under its parent
  have hcount : (holding nodes l).card - 1 =
      ((holding nodes l).filter fun i => ¬ (entry nodes i).children = #[]).card := by
    rw [← Finset.card_erase_of_mem hroot, h.holding_erase_root htotal,
      Finset.card_biUnion (h.childrenHolding_disjoint l), Finset.card_filter]
    refine Finset.sum_congr rfl fun i hi => ?_
    rw [h.card_childrenHolding htotal hi]
    split <;> simp_all
  have hsplit := Finset.card_filter_add_card_filter_not
    (s := holding nodes l) (fun i => (entry nodes i).children = #[])
  have hpos : 0 < (holding nodes l).card := Finset.card_pos.mpr ⟨0, hroot⟩
  have heq : ((Finset.range nodes.size).filter fun i =>
      (entry nodes i).children = #[] ∧ (entry nodes i).span.contains l) =
      (holding nodes l).filter fun i => (entry nodes i).children = #[] := by
    ext i
    simp only [holding, Finset.mem_filter, Finset.mem_range]
    tauto
  rw [heq]
  omega

end IsOutline

end Arbor.Outline
