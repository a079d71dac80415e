import Arbor.Proofs.Outline.Tiles
/-!
Filling in content nodes.
-/

namespace Arbor.Outline

/-- Spans in order from line `lo` and before line `next`: each non-empty and starting after the
one before it ends. -/
def Fits : Nat → List Span → Nat → Prop
  | lo, [], next => lo ≤ next
  | lo, s :: rest, next => lo ≤ s.first ∧ s.first ≤ s.last ∧ Fits (s.last + 1) rest next

theorem Covers.append {lo mid next : Nat} :
    {xs ys : List Span} → Covers lo xs mid → Covers mid ys next → Covers lo (xs ++ ys) next
  | [], _, hx, hy => by
    simp only [Covers] at hx
    subst hx
    exact hy
  | _ :: _, _, ⟨hf, hne, hx⟩, hy => ⟨hf, hne, Covers.append hx hy⟩

theorem Covers.first_le {lo next : Nat} {s : Span} {rest : List Span}
    (h : Covers lo (s :: rest) next) : lo < next := by
  obtain ⟨hf, hne, hr⟩ := h
  have := hr.le
  omega

theorem entry_append (a b : Array Node) (i : Nat) :
    entry (a ++ b) i = if i < a.size then entry a i else entry b (i - a.size) := by
  simp only [entry, Array.getD_eq_getD_getElem?, Array.getElem?_append]
  split <;> rfl

@[simp] theorem entry_append_lt {a b : Array Node} {i : Nat} (h : i < a.size) :
    entry (a ++ b) i = entry a i := by
  simp [entry_append, h]

/-- The content node `pushContent` makes. -/
def contentNode (parent first last : Nat) : Node :=
  { kind := .content, name := "", span := ⟨first, last⟩, indent := 0, parent := some parent }

theorem pushContent_eq (parent first last : Nat) (nodes : Array Node) :
    pushContent parent first last nodes = (nodes.size, nodes.push (contentNode parent first last)) :=
  rfl

theorem push_append_toArray (nodes : Array Node) (x : Node) (C : List Node) :
    nodes.push x ++ C.toArray = nodes ++ (x :: C).toArray := by
  apply Array.toList_inj.mp
  simp

/-- One round of `fillNode`'s loop over the children of node `idx`: a content node for the gap
before the child, if there is one, then the child. -/
def fillStep (idx : Nat) (acc : Array Nat × Nat × Array Node) (child : Nat) :
    Array Nat × Nat × Array Node :=
  let (filled, cursor, nodes) := acc
  let span := (nodes.getD child default).span
  let (filled, nodes) :=
    if span.first > cursor then
      let (id, nodes) := pushContent idx cursor (span.first - 1) nodes
      (filled.push id, nodes)
    else (filled, nodes)
  (filled.push child, span.last + 1, nodes)

theorem fillStep_gap {idx cursor c : Nat} {filled : Array Nat} {nodes : Array Node}
    (h : (spanAt nodes c).first > cursor) :
    fillStep idx (filled, cursor, nodes) c =
      ((filled.push nodes.size).push c, (spanAt nodes c).last + 1,
        nodes.push (contentNode idx cursor ((spanAt nodes c).first - 1))) := by
  simp only [spanAt, entry] at h
  simp only [fillStep, h, ↓reduceIte, pushContent_eq, spanAt, entry]

theorem fillStep_at {idx cursor c : Nat} {filled : Array Nat} {nodes : Array Node}
    (h : ¬ (spanAt nodes c).first > cursor) :
    fillStep idx (filled, cursor, nodes) c = (filled.push c, (spanAt nodes c).last + 1, nodes) := by
  simp only [spanAt, entry] at h
  simp only [fillStep, h, ↓reduceIte, spanAt, entry]

/-- What `fillNode` does after its loop: a content node after the last child if lines are left,
one empty content node if there is nothing at all, and the new children list. -/
def fillFinish (idx last : Nat) (acc : Array Nat × Nat × Array Node) : Array Node :=
  let (filled, cursor, nodes) := acc
  let (filled, nodes) :=
    if cursor ≤ last then
      let (id, nodes) := pushContent idx cursor last nodes
      (filled.push id, nodes)
    else (filled, nodes)
  let (filled, nodes) :=
    if filled.isEmpty then
      let (id, nodes) := pushContent idx 1 0 nodes
      (filled.push id, nodes)
    else (filled, nodes)
  nodes.modify idx fun n => { n with children := filled }

theorem fillNode_eq (nodes : Array Node) (idx : Nat) :
    fillNode nodes idx =
      if idx ≠ 0 ∧ (entry nodes idx).children.isEmpty then nodes
      else fillFinish idx (entry nodes idx).span.last
        ((entry nodes idx).children.foldl (fillStep idx)
          (#[], (entry nodes idx).span.first, nodes)) := rfl

theorem foldl_fillStep (idx next : Nat) :
    (cs : List Nat) → (filled : Array Nat) → (cursor : Nat) → (nodes : Array Node) →
    (∀ c ∈ cs, c < nodes.size) → cs.Nodup → Fits cursor (cs.map (spanAt nodes)) next →
    ∃ (F : List Nat) (C : List Node) (stop : Nat), cs.foldl (fillStep idx) (filled, cursor, nodes) =
        (filled ++ F.toArray, stop, nodes ++ C.toArray) ∧
      stop ≤ next ∧
      Covers cursor (F.map (spanAt (nodes ++ C.toArray))) stop ∧
      (∀ x, x ∈ F ↔ x ∈ cs ∨ nodes.size ≤ x ∧ x < nodes.size + C.length) ∧
      F.Nodup ∧
      ∀ y ∈ C, ∃ a b, y = contentNode idx a b
  | [], filled, cursor, nodes, _, _, hfits => by
    refine ⟨[], [], cursor, by simp, hfits, rfl, by simp, by simp, by simp⟩
  | c :: rest, filled, cursor, nodes, hvalid, hnodup, hfits => by
    obtain ⟨hlo, hne, hrest⟩ := hfits
    have hc : c < nodes.size := hvalid c (by simp)
    by_cases hgap : (spanAt nodes c).first > cursor
    · -- a content node for the gap, then the child
      obtain ⟨gap, hgapdef⟩ : ∃ g, g = contentNode idx cursor ((spanAt nodes c).first - 1) :=
        ⟨_, rfl⟩
      have hvalid' : ∀ x ∈ rest, x < (nodes.push gap).size := fun x hx => by
        have := hvalid x (by simp [hx])
        simp only [Array.size_push]
        omega
      have hrest' : Fits ((spanAt nodes c).last + 1) (rest.map (spanAt (nodes.push gap))) next := by
        have : rest.map (spanAt (nodes.push gap)) = rest.map (spanAt nodes) :=
          List.map_congr_left fun x hx => by
            simp only [spanAt, entry_push_lt (hvalid x (by simp [hx]))]
        rw [this]
        exact hrest
      obtain ⟨F, C, stop, hfold, hstop, hcov, hmem, hnd, hC⟩ :=
        foldl_fillStep idx next rest ((filled.push nodes.size).push c) ((spanAt nodes c).last + 1)
          (nodes.push gap) hvalid' (List.nodup_cons.mp hnodup).2 hrest'
      rw [push_append_toArray] at hfold hcov
      simp only [Array.size_push] at hmem
      refine ⟨nodes.size :: c :: F, gap :: C, stop, ?_, hstop, ?_, ?_, ?_, ?_⟩
      · rw [List.foldl_cons, fillStep_gap hgap, ← hgapdef, hfold]
        simp
      · have hgapAt : spanAt (nodes ++ (gap :: C).toArray) nodes.size = gap.span := by
          simp [spanAt, entry]
        have hcAt : spanAt (nodes ++ (gap :: C).toArray) c = spanAt nodes c := by
          simp only [spanAt, entry_append_lt hc]
        rw [List.map_cons, List.map_cons, hgapAt, hcAt]
        subst hgapdef
        exact ⟨rfl, by simp only [contentNode]; omega, by simp only [contentNode]; omega, hne, hcov⟩
      · intro x
        rw [List.mem_cons, List.mem_cons, hmem x, List.mem_cons, List.length_cons]
        constructor
        · rintro (hx | hx | hx | hx)
          · exact .inr (by omega)
          · exact .inl (.inl hx)
          · exact .inl (.inr hx)
          · exact .inr (by omega)
        · rintro ((hx | hx) | hx)
          · exact .inr (.inl hx)
          · exact .inr (.inr (.inl hx))
          · by_cases he : x = nodes.size
            · exact .inl he
            · exact .inr (.inr (.inr (by omega)))
      · refine List.nodup_cons.mpr ⟨fun hx => ?_, List.nodup_cons.mpr ⟨fun hx => ?_, hnd⟩⟩
        · rcases List.mem_cons.mp hx with hx | hx
          · omega
          · rcases (hmem _).mp hx with hr | hr
            · have := hvalid nodes.size (by simp [hr])
              omega
            · omega
        · rcases (hmem _).mp hx with hr | hr
          · exact (List.nodup_cons.mp hnodup).1 hr
          · omega
      · intro y hy
        rcases List.mem_cons.mp hy with rfl | hy
        · exact ⟨_, _, hgapdef⟩
        · exact hC y hy
    · -- the child starts at the cursor
      obtain ⟨F, C, stop, hfold, hstop, hcov, hmem, hnd, hC⟩ :=
        foldl_fillStep idx next rest (filled.push c) ((spanAt nodes c).last + 1) nodes
          (fun x hx => hvalid x (by simp [hx])) (List.nodup_cons.mp hnodup).2 hrest
      refine ⟨c :: F, C, stop, ?_, hstop, ?_, ?_, ?_, hC⟩
      · rw [List.foldl_cons, fillStep_at hgap, hfold]
        simp
      · have hcAt : spanAt (nodes ++ C.toArray) c = spanAt nodes c := by
          simp only [spanAt, entry_append_lt hc]
        rw [List.map_cons, hcAt]
        exact ⟨by omega, hne, hcov⟩
      · intro x
        rw [List.mem_cons, hmem x, List.mem_cons]
        tauto
      · refine List.nodup_cons.mpr ⟨fun hx => ?_, hnd⟩
        rcases (hmem _).mp hx with hr | hr
        · exact (List.nodup_cons.mp hnodup).1 hr
        · omega

theorem fillNode_spec (nodes : Array Node) (idx : Nat)
    (hnot : ¬ (idx ≠ 0 ∧ (entry nodes idx).children.isEmpty))
    (hvalid : ∀ c ∈ (entry nodes idx).children, c < nodes.size)
    (hnodup : (entry nodes idx).children.toList.Nodup)
    (hfits : Fits (entry nodes idx).span.first (childSpans nodes (entry nodes idx))
      ((entry nodes idx).span.last + 1)) :
    ∃ (F : List Nat) (C : List Node),
      fillNode nodes idx = (nodes ++ C.toArray).modify idx (fun n => { n with children := F.toArray }) ∧
      (∀ y ∈ C, ∃ a b, y = contentNode idx a b) ∧
      (∀ x, x ∈ F ↔ x ∈ (entry nodes idx).children ∨ nodes.size ≤ x ∧ x < nodes.size + C.length) ∧
      F.Nodup ∧
      ((entry nodes idx).span.first ≤ (entry nodes idx).span.last →
        Tiles (entry nodes idx).span.first (F.map (spanAt (nodes ++ C.toArray)))
          (entry nodes idx).span.last) ∧
      ((entry nodes idx).span.last < (entry nodes idx).span.first →
        F = [nodes.size] ∧ C = [contentNode idx 1 0]) := by
  rw [fillNode_eq, if_neg hnot]
  generalize hlo : (entry nodes idx).span.first = lo at hfits ⊢
  generalize hhi : (entry nodes idx).span.last = hi at hfits ⊢
  obtain ⟨F0, C0, stop, hfold, hstop, hcov, hmem, hnd, hC⟩ :=
    foldl_fillStep idx (hi + 1) (entry nodes idx).children.toList #[] lo nodes
      (fun c hc => hvalid c (by simpa using hc)) hnodup hfits
  rw [Array.foldl_toList] at hfold
  rw [hfold]
  simp only [Array.mem_toList_iff] at hmem
  by_cases hleft : stop ≤ hi
  · -- the lines after the last child get a content node of their own
    refine ⟨F0 ++ [nodes.size + C0.length], C0 ++ [contentNode idx stop hi], ?_, ?_, ?_, ?_, ?_, ?_⟩
    · simp [fillFinish, hleft, pushContent_eq]
    · intro y hy
      rcases List.mem_append.mp hy with hy | hy
      · exact hC y hy
      · exact ⟨_, _, List.mem_singleton.mp hy⟩
    · intro x
      rw [List.mem_append, hmem x, List.mem_singleton, List.length_append, List.length_singleton]
      constructor
      · rintro ((hx | hx) | hx)
        · exact .inl hx
        · exact .inr (by omega)
        · exact .inr (by omega)
      · rintro (hx | hx)
        · exact .inl (.inl hx)
        · by_cases he : x = nodes.size + C0.length
          · exact .inr he
          · exact .inl (.inr (by omega))
    · refine List.nodup_append.mpr ⟨hnd, List.nodup_singleton _, ?_⟩
      intro a ha b hb hab
      rw [List.mem_singleton] at hb
      subst hb hab
      rcases (hmem _).mp ha with hr | hr
      · have := hvalid _ hr
        omega
      · omega
    · intro _
      have hlook : ∀ x ∈ F0, spanAt (nodes ++ (C0 ++ [contentNode idx stop hi]).toArray) x =
          spanAt (nodes ++ C0.toArray) x := fun x hx => by
        have hx : x < (nodes ++ C0.toArray).size := by
          rcases (hmem x).mp hx with hr | hr
          · have := hvalid x hr
            simp only [Array.size_append, List.size_toArray]
            omega
          · simp only [Array.size_append, List.size_toArray]
            omega
        simp only [spanAt, ← List.append_toArray, ← Array.append_assoc, entry_append_lt hx]
      have hlast : spanAt (nodes ++ (C0 ++ [contentNode idx stop hi]).toArray)
          (nodes.size + C0.length) = ⟨stop, hi⟩ := by
        simp [spanAt, entry, contentNode]
      rw [List.map_append, List.map_congr_left hlook, List.map_singleton, hlast]
      exact Covers.append hcov ⟨rfl, hleft, rfl⟩
    · intro hlt
      have := hcov.le
      omega
  · have hstop' : stop = hi + 1 := by omega
    by_cases hF : F0 = []
    · -- nothing at all: one empty content node
      subst hF
      have hC0 : C0 = [] := by
        cases C0 with
        | nil => rfl
        | cons y ys =>
          have := (hmem nodes.size).mpr (.inr ⟨le_refl _, by simp⟩)
          simp at this
      subst hC0
      refine ⟨[nodes.size], [contentNode idx 1 0], ?_, ?_, ?_, ?_, ?_, ?_⟩
      · simp [fillFinish, hleft, pushContent_eq]
      · simp
      · intro x
        have hkids : ∀ c, c ∉ (entry nodes idx).children := fun c hc =>
          by simpa using (hmem c).mpr (.inl hc)
        simp only [List.mem_singleton, List.length_singleton, List.length_nil, Nat.add_zero] at hmem ⊢
        constructor
        · intro hx
          exact .inr (by omega)
        · rintro (hx | hx)
          · exact absurd hx (hkids x)
          · omega
      · simp
      · intro hle
        simp only [List.map_nil, Covers] at hcov
        omega
      · intro _
        exact ⟨rfl, rfl⟩
    · -- the last child ends on the last line
      refine ⟨F0, C0, ?_, hC, hmem, hnd, ?_, ?_⟩
      · simp [fillFinish, hleft, hF]
      · intro _
        rw [Tiles, ← hstop']
        exact hcov
      · intro hlt
        obtain ⟨y, ys, rfl⟩ := List.exists_cons_of_ne_nil hF
        have := Covers.first_le (hcov : Covers lo (spanAt (nodes ++ C0.toArray) y ::
          ys.map (spanAt (nodes ++ C0.toArray))) stop)
        omega

/-- The node table the parser builds before content is filled in: a tree of header nodes under
the file node, each node's children listed in table order, with spans that are non-empty, lie
inside the parent's span and come in order among siblings. -/
structure Nested (total : Nat) (nodes : Array Node) : Prop where
  root : 0 < nodes.size ∧ (entry nodes 0).kind = .file ∧ (entry nodes 0).span = ⟨1, total⟩ ∧
    (entry nodes 0).parent = none
  parent_lt : ∀ i, 0 < i → i < nodes.size → ∃ p, (entry nodes i).parent = some p ∧ p < i
  not_content : ∀ i, i < nodes.size → (entry nodes i).kind ≠ .content
  children_eq : ∀ p, p < nodes.size → (entry nodes p).children.toList =
    (List.range nodes.size).filter fun j => (entry nodes j).parent == some p
  nonempty : ∀ i, 0 < i → i < nodes.size →
    (entry nodes i).span.first ≤ (entry nodes i).span.last
  within : ∀ c p, 0 < c → c < nodes.size → (entry nodes c).parent = some p →
    (entry nodes p).span.first ≤ (entry nodes c).span.first ∧
      (entry nodes c).span.last ≤ (entry nodes p).span.last
  ordered : ∀ c c', 0 < c → c < c' → c' < nodes.size →
    (entry nodes c).parent = (entry nodes c').parent →
      (entry nodes c).span.last < (entry nodes c').span.first

theorem fits_of_sorted (nodes : Array Node) (hi : Nat) :
    (cs : List Nat) → (lo : Nat) → cs.Pairwise (· < ·) →
    (∀ c ∈ cs, lo ≤ (spanAt nodes c).first ∧ (spanAt nodes c).first ≤ (spanAt nodes c).last ∧
      (spanAt nodes c).last ≤ hi) →
    (∀ c ∈ cs, ∀ c' ∈ cs, c < c' → (spanAt nodes c).last < (spanAt nodes c').first) →
    lo ≤ hi + 1 → Fits lo (cs.map (spanAt nodes)) (hi + 1)
  | [], _, _, _, _, hbase => hbase
  | c :: rest, lo, hsorted, hspans, hord, _ => by
    obtain ⟨hlo, hne, hhi⟩ := hspans c (by simp)
    refine ⟨hlo, hne, fits_of_sorted nodes hi rest _ (List.pairwise_cons.mp hsorted).2
      (fun c' hc' => ?_) (fun a ha b hb => hord a (by simp [ha]) b (by simp [hb])) (by omega)⟩
    obtain ⟨-, hne', hhi'⟩ := hspans c' (by simp [hc'])
    have := hord c (by simp) c' (by simp [hc']) ((List.pairwise_cons.mp hsorted).1 c' hc')
    omega

namespace Nested

variable {total : Nat} {nodes : Array Node}

theorem child_lt (h : Nested total nodes) {p c : Nat} (hp : p < nodes.size)
    (hc : c ∈ (entry nodes p).children) :
    c < nodes.size ∧ (entry nodes c).parent = some p := by
  have hc' : c ∈ (entry nodes p).children.toList := by simpa using hc
  rw [h.children_eq p hp, List.mem_filter, List.mem_range, beq_iff_eq] at hc'
  exact hc'

/-- The children of a node fit its span. -/
theorem fits (h : Nested total nodes) {p : Nat} (hp : p < nodes.size) :
    Fits (entry nodes p).span.first (childSpans nodes (entry nodes p))
      ((entry nodes p).span.last + 1) := by
  have hparent : ∀ c ∈ (entry nodes p).children.toList, 0 < c ∧ c < nodes.size ∧
      (entry nodes c).parent = some p := fun c hc => by
    obtain ⟨hcs, hcp⟩ := h.child_lt hp (by simpa using hc)
    refine ⟨Nat.pos_of_ne_zero fun hc0 => ?_, hcs, hcp⟩
    subst hc0
    simp [h.root.2.2.2] at hcp
  refine fits_of_sorted nodes _ _ _ ?_ (fun c hc => ?_) (fun c hc c' hc' hlt => ?_) ?_
  · rw [h.children_eq p hp]
    exact (List.pairwise_lt_range).filter _
  · obtain ⟨hc0, hcs, hcp⟩ := hparent c hc
    have := h.within c p hc0 hcs hcp
    exact ⟨this.1, h.nonempty c hc0 hcs, this.2⟩
  · obtain ⟨hc0, -, hcp⟩ := hparent c hc
    obtain ⟨-, hcs', hcp'⟩ := hparent c' hc'
    exact h.ordered c c' hc0 hlt hcs' (by rw [hcp, hcp'])
  · rcases Nat.eq_zero_or_pos p with rfl | hpos
    · simp [h.root.2.2.1]
    · have := h.nonempty p hpos hp
      omega

end Nested

section Extend

variable {cur : Array Node} {C : List Node} {j i : Nat} {g : Node → Node}

theorem entry_extend_lt (hi : i < cur.size) (hij : i ≠ j) :
    entry ((cur ++ C.toArray).modify j g) i = entry cur i := by
  rw [entry_modify_ne _ _ (Ne.symm hij), entry_append_lt hi]

theorem entry_extend_self (hj : j < cur.size) :
    entry ((cur ++ C.toArray).modify j g) j = g (entry cur j) := by
  rw [entry_modify_self _ _ (by simp; omega), entry_append_lt hj]

theorem entry_extend_added (hj : j < cur.size) (hi : cur.size ≤ i) (hi' : i < cur.size + C.length) :
    entry ((cur ++ C.toArray).modify j g) i ∈ C := by
  rw [entry_modify_ne _ _ (by omega), entry_append, if_neg (by omega)]
  simp only [entry, Array.getD_eq_getD_getElem?, List.getElem?_toArray]
  rw [List.getElem?_eq_getElem (by omega), Option.getD_some]
  exact List.getElem_mem _

theorem entry_extend_of_lt {F : Array Nat} (hi : i < cur.size) :
    entry ((cur ++ C.toArray).modify j fun n => { n with children := F }) i =
      { entry cur i with children := if i = j then F else (entry cur i).children } := by
  by_cases hij : i = j
  · subst hij
    rw [entry_extend_self hi, if_pos rfl]
  · rw [entry_extend_lt hi hij, if_neg hij]

end Extend

/-- What holds of node `p` once it is filled: its children are the table's own nodes under it
and the content nodes added under it, each once, and they tile its span; a node with an empty
span has one empty content child. -/
structure Filled (orig cur : Array Node) (p : Nat) : Prop where
  mem : ∀ x, x ∈ (entry cur p).children ↔
    (x < orig.size ∧ (entry orig x).parent = some p) ∨
      (orig.size ≤ x ∧ x < cur.size ∧ (entry cur x).parent = some p)
  nodup : (entry cur p).children.toList.Nodup
  tiles : (entry orig p).span.first ≤ (entry orig p).span.last →
    Tiles (entry orig p).span.first (childSpans cur (entry cur p)) (entry orig p).span.last
  empty : (entry orig p).span.last < (entry orig p).span.first →
    ∃ c, (entry cur p).children = #[c] ∧ entry cur c = contentNode p 1 0

/-- Filling another node `j` keeps node `p` filled: `p`'s own entry stays, its children keep
their spans, and the nodes added after the table are content nodes under `j`, so none of them
is `p`'s. -/
theorem Filled.extend {orig cur : Array Node} {C : List Node} {F : Array Nat} {p j : Nat}
    (hf : Filled orig cur p) (hsize : orig.size ≤ cur.size) (hpo : p < cur.size) (hpj : p ≠ j)
    (hjc : j < cur.size) (hjk : (entry cur j).kind ≠ .content)
    (hC : ∀ y ∈ C, ∃ a b, y = contentNode j a b) :
    Filled orig ((cur ++ C.toArray).modify j fun n => { n with children := F }) p := by
  have hp : entry ((cur ++ C.toArray).modify j fun n => { n with children := F }) p =
      entry cur p := entry_extend_lt hpo hpj
  have hchild : ∀ x ∈ (entry cur p).children, x < cur.size := fun x hx => by
    rcases (hf.mem x).mp hx with ⟨hx, -⟩ | ⟨-, hx, -⟩
    · exact Nat.lt_of_lt_of_le hx hsize
    · exact hx
  refine ⟨fun x => ?mem, by rw [hp]; exact hf.nodup, fun hne => ?tiles, fun hlt => ?empty⟩
  case mem =>
    rw [hp, hf.mem x, Array.size_modify, Array.size_append, List.size_toArray]
    constructor
    · rintro (hx | ⟨hx1, hx2, hx3⟩)
      · exact .inl hx
      · exact .inr ⟨hx1, by omega, by simpa only [entry_extend_of_lt hx2] using hx3⟩
    · rintro (hx | ⟨hx1, hx2, hx3⟩)
      · exact .inl hx
      · by_cases hxc : x < cur.size
        · exact .inr ⟨hx1, hxc, by simpa only [entry_extend_of_lt hxc] using hx3⟩
        · -- an added node sits under `j`, not under `p`
          obtain ⟨a, b, he⟩ := hC _ (entry_extend_added hjc (Nat.le_of_not_lt hxc) hx2)
          rw [he] at hx3
          simp only [contentNode, Option.some_inj] at hx3
          omega
  case tiles =>
    have hcs : childSpans ((cur ++ C.toArray).modify j fun n => { n with children := F })
        (entry cur p) = childSpans cur (entry cur p) := by
      simp only [childSpans]
      refine List.map_congr_left fun x hx => ?_
      simp only [spanAt, entry_extend_of_lt (hchild x (by simpa using hx))]
    rw [hp, hcs]
    exact hf.tiles hne
  case empty =>
    obtain ⟨c, hc, hcc⟩ := hf.empty hlt
    have hcs : c < cur.size := hchild c (by simp [hc])
    have hcj : c ≠ j := fun hcj => hjk (by rw [← hcj, hcc]; rfl)
    exact ⟨c, by rw [hp, hc], by rw [entry_extend_lt hcs hcj, hcc]⟩

/-- How far `fillContent` has got after the nodes before `j`: the table's own nodes keep all but
their children, those not yet filled keep their children too, the added nodes are childless
content nodes under filled nodes, and the filled nodes are `Filled`. -/
structure FillInv (orig : Array Node) (j : Nat) (cur : Array Node) : Prop where
  size_le : orig.size ≤ cur.size
  keep : ∀ i, i < orig.size → (entry cur i).kind = (entry orig i).kind ∧
    (entry cur i).span = (entry orig i).span ∧ (entry cur i).parent = (entry orig i).parent
  unfilled : ∀ i, i < orig.size → (j ≤ i ∨ i ≠ 0 ∧ (entry orig i).children = #[]) →
    (entry cur i).children = (entry orig i).children
  added : ∀ i, orig.size ≤ i → i < cur.size → (entry cur i).kind = .content ∧
    (entry cur i).children = #[] ∧ ∃ p, (entry cur i).parent = some p ∧ p < j ∧
      (p = 0 ∨ (entry orig p).children ≠ #[])
  filled : ∀ p, p < j → p < orig.size → (p = 0 ∨ (entry orig p).children ≠ #[]) →
    Filled orig cur p

namespace FillInv

variable {total : Nat} {orig cur : Array Node} {j : Nat}

theorem start : FillInv orig 0 orig where
  size_le := le_refl _
  keep := fun _ _ => ⟨rfl, rfl, rfl⟩
  unfilled := fun _ _ _ => rfl
  added := fun _ h h' => absurd h' (by omega)
  filled := fun _ h => absurd h (by omega)

theorem step_skip (h : FillInv orig j cur) (hj : j < orig.size)
    (hskip : j ≠ 0 ∧ (entry cur j).children.isEmpty) : FillInv orig (j + 1) (fillNode cur j) := by
  rw [fillNode_eq, if_pos hskip]
  have horig : (entry orig j).children = #[] := by
    rw [← h.unfilled j hj (.inl (le_refl _))]
    simpa using hskip.2
  refine ⟨h.size_le, h.keep, fun i hi hcase => h.unfilled i hi ?unfilled, fun i hi hi' => ?added,
    fun p hp hpo hcase => ?filled⟩
  case unfilled =>
    -- node `j` is now passed, but its children were empty from the start
    rcases hcase with hle | hne
    · rcases Nat.lt_or_ge i (j + 1) with hlt | hge
      · have : i = j := by omega
        subst this
        exact .inr ⟨hskip.1, horig⟩
      · exact .inl (by omega)
    · exact .inr hne
  case added =>
    obtain ⟨hk, hc, p, hp, hpj, hpf⟩ := h.added i hi hi'
    exact ⟨hk, hc, p, hp, by omega, hpf⟩
  case filled =>
    -- node `j` is no node to fill: it is not the file node and has no children
    rcases Nat.lt_or_ge p j with hlt | hge
    · exact h.filled p hlt hpo hcase
    · have : p = j := by omega
      subst this
      rcases hcase with h0 | hne
      · exact absurd h0 hskip.1
      · exact absurd horig hne

theorem step_fill {total : Nat} (h : FillInv orig j cur) (hn : Nested total orig)
    (hj : j < orig.size) (hfill : ¬ (j ≠ 0 ∧ (entry cur j).children.isEmpty)) :
    FillInv orig (j + 1) (fillNode cur j) := by
  have hjc : j < cur.size := Nat.lt_of_lt_of_le hj h.size_le
  have hkids : (entry cur j).children = (entry orig j).children :=
    h.unfilled j hj (.inl (le_refl _))
  have hkeep := h.keep j hj
  have hvalid : ∀ c ∈ (entry cur j).children, c < cur.size := fun c hc => by
    rw [hkids] at hc
    exact Nat.lt_of_lt_of_le (hn.child_lt hj hc).1 h.size_le
  have hnodup : (entry cur j).children.toList.Nodup := by
    rw [hkids, hn.children_eq j hj]
    exact List.nodup_range.filter _
  have hspans : childSpans cur (entry cur j) = childSpans orig (entry orig j) := by
    simp only [childSpans, hkids]
    refine List.map_congr_left fun c hc => ?_
    simp only [spanAt, (h.keep c (hn.child_lt hj (by simpa using hc)).1).2.1]
  have hfits : Fits (entry cur j).span.first (childSpans cur (entry cur j))
      ((entry cur j).span.last + 1) := by
    rw [hspans, hkeep.2.1]
    exact hn.fits hj
  obtain ⟨F, C, heq, hC, hmem, hnd, htiles, hempty⟩ :=
    fillNode_spec cur j hfill hvalid hnodup hfits
  rw [heq]
  have hsize : ((cur ++ C.toArray).modify j fun n => { n with children := F.toArray }).size =
      cur.size + C.length := by simp
  -- the nodes added under `j`
  have hadded : ∀ i, cur.size ≤ i → i < cur.size + C.length →
      ∃ a b, entry ((cur ++ C.toArray).modify j fun n => { n with children := F.toArray }) i =
        contentNode j a b := fun i hi hi' => hC _ (entry_extend_added hjc hi hi')
  have hspanAt : ∀ x, x < cur.size + C.length →
      spanAt ((cur ++ C.toArray).modify j fun n => { n with children := F.toArray }) x =
        spanAt (cur ++ C.toArray) x := fun x hx => by
    simp only [spanAt, entry_modify, Array.size_append, List.size_toArray]
    split <;> rfl
  refine ⟨by rw [hsize]; have := h.size_le; omega, fun i hi => ?keep, fun i hi hcase => ?unfilled,
    fun i hi hi' => ?added, fun p hp hpo hcase => ?filled⟩
  case keep =>
    rw [entry_extend_of_lt (Nat.lt_of_lt_of_le hi h.size_le)]
    exact h.keep i hi
  case unfilled =>
    have hij : i ≠ j := fun hij => by
      subst hij
      rcases hcase with hle | ⟨hne, hempty'⟩
      · omega
      · exact hfill ⟨hne, by simp [hkids, hempty']⟩
    rw [entry_extend_lt (Nat.lt_of_lt_of_le hi h.size_le) hij]
    exact h.unfilled i hi (hcase.imp (fun hle => by omega) id)
  case added =>
    rw [hsize] at hi'
    by_cases hic : i < cur.size
    · rw [entry_extend_lt hic (by omega)]
      obtain ⟨hk, hc, p, hp, hpj, hpf⟩ := h.added i hi hic
      exact ⟨hk, hc, p, hp, by omega, hpf⟩
    · obtain ⟨a, b, he⟩ := hadded i (by omega) hi'
      rw [he]
      refine ⟨rfl, rfl, j, rfl, by omega, ?_⟩
      by_cases hj0 : j = 0
      · exact .inl hj0
      · exact .inr fun he => hfill ⟨hj0, by simp [hkids, he]⟩
  case filled =>
    rcases Nat.lt_or_ge p j with hpj | hpj
    · -- a node filled before keeps its children
      have hjk : (entry cur j).kind ≠ .content := by
        rw [hkeep.1]
        exact hn.not_content j hj
      exact (h.filled p hpj hpo hcase).extend h.size_le (Nat.lt_of_lt_of_le hpo h.size_le)
        (by omega) hjc hjk hC
    · -- the node just filled
      have hpj' : p = j := by omega
      subst hpj'
      have hself : entry ((cur ++ C.toArray).modify p fun n => { n with children := F.toArray }) p =
          { entry cur p with children := F.toArray } := entry_extend_self hjc
      refine ⟨fun x => ?_, by rw [hself]; simpa using hnd, fun hne => ?_, fun hlt => ?_⟩
      · rw [hself, hsize]
        simp only [List.mem_toArray, hmem x, hkids]
        constructor
        · rintro (hx | ⟨hx1, hx2⟩)
          · exact .inl (hn.child_lt hj hx)
          · obtain ⟨a, b, he⟩ := hadded x hx1 hx2
            exact .inr ⟨by have := h.size_le; omega, hx2, by rw [he]; rfl⟩
        · rintro (⟨hx1, hx2⟩ | ⟨hx1, hx2, hx3⟩)
          · refine .inl ?_
            have : x ∈ (entry orig p).children.toList := by
              rw [hn.children_eq p hj, List.mem_filter, List.mem_range, beq_iff_eq]
              exact ⟨hx1, hx2⟩
            simpa using this
          · by_cases hxc : x < cur.size
            · simp only [entry_extend_of_lt hxc] at hx3
              obtain ⟨-, -, q, hq, hqj, -⟩ := h.added x hx1 hxc
              rw [hq, Option.some_inj] at hx3
              omega
            · exact .inr ⟨by omega, hx2⟩
      · rw [← hkeep.2.1] at hne ⊢
        have := htiles hne
        rw [hself]
        simp only [childSpans] at this ⊢
        convert this using 1
        refine List.map_congr_left fun x hx => hspanAt x ?_
        rcases (hmem x).mp hx with hx | hx
        · have := hvalid x hx
          omega
        · omega
      · rw [← hkeep.2.1] at hlt
        obtain ⟨hF, hCe⟩ := hempty hlt
        subst hF hCe
        refine ⟨cur.size, by rw [hself], ?_⟩
        have hmemC := entry_extend_added (C := [contentNode p 1 0])
          (g := fun n => { n with children := #[cur.size] }) hjc (le_refl _) (by simp)
        simpa using hmemC

/-- Filling the first `j` nodes of a nested table keeps the invariant. -/
theorem run (hn : Nested total orig) :
    ∀ j, j ≤ orig.size → FillInv orig j ((List.range j).foldl fillNode orig)
  | 0, _ => start
  | j + 1, hj => by
    have ih := run hn j (by omega)
    rw [List.range_succ, List.foldl_append, List.foldl_cons, List.foldl_nil]
    by_cases hskip : j ≠ 0 ∧ (entry ((List.range j).foldl fillNode orig) j).children.isEmpty
    · exact ih.step_skip (by omega) hskip
    · exact ih.step_fill hn (by omega) hskip

/-- Once every node is filled the table is an outline. -/
theorem outline (h : FillInv orig orig.size cur) (hn : Nested total orig) :
    IsOutline total cur := by
  -- a node of the table with children in the end is one that was filled
  have hfilled : ∀ p, p < orig.size → (p = 0 ∨ (entry cur p).children ≠ #[]) →
      (p = 0 ∨ (entry orig p).children ≠ #[]) := fun p hp hcase => by
    rcases hcase with h0 | hne
    · exact .inl h0
    · by_cases h0 : p = 0
      · exact .inl h0
      · refine .inr fun he => hne ?_
        rw [h.unfilled p hp (.inr ⟨h0, he⟩), he]
  have hsize := h.size_le
  refine ⟨?_, fun i hi0 hi => ?_, fun p c hp hc => ?_, fun i hi hcase => ?_, fun ht => ?_,
    fun i hi hk => ?_⟩
  · obtain ⟨hpos, hk, hs, hpar⟩ := hn.root
    obtain ⟨k1, k2, k3⟩ := h.keep 0 hpos
    exact ⟨by omega, k1.trans hk, k2.trans hs, k3.trans hpar⟩
  · by_cases hio : i < orig.size
    · obtain ⟨p, hp, hpi⟩ := hn.parent_lt i hi0 hio
      have hpo : p < orig.size := by omega
      have hmem : i ∈ (entry orig p).children := by
        have : i ∈ (entry orig p).children.toList := by
          rw [hn.children_eq p hpo, List.mem_filter, List.mem_range, beq_iff_eq]
          exact ⟨hio, hp⟩
        simpa using this
      have hf := h.filled p (by omega) hpo
        (by by_cases h0 : p = 0 <;> simp_all [Array.ne_empty_of_mem hmem])
      refine ⟨p, (h.keep i hio).2.2.trans hp, hpi, ?_⟩
      rw [← Array.count_toList]
      exact List.count_eq_one_of_mem hf.nodup (by simpa using (hf.mem i).mpr (.inl ⟨hio, hp⟩))
    · obtain ⟨-, -, p, hp, hpo, hpf⟩ := h.added i (by omega) hi
      have hf := h.filled p hpo hpo hpf
      refine ⟨p, hp, by omega, ?_⟩
      rw [← Array.count_toList]
      exact List.count_eq_one_of_mem hf.nodup (by simpa using (hf.mem i).mpr (.inr ⟨by omega, hi, hp⟩))
  · by_cases hpo : p < orig.size
    · by_cases hpf : p = 0 ∨ (entry orig p).children ≠ #[]
      · rcases ((h.filled p hpo hpo hpf).mem c).mp hc with ⟨hco, hcp⟩ | ⟨-, hcs, hcp⟩
        · exact ⟨by omega, (h.keep c hco).2.2.trans hcp⟩
        · exact ⟨hcs, hcp⟩
      · have hp0 : p ≠ 0 ∧ (entry orig p).children = #[] := by
          simp only [not_or, ne_eq, not_not] at hpf
          exact hpf
        rw [h.unfilled p hpo (.inr hp0), hp0.2] at hc
        simp at hc
    · rw [(h.added p (by omega) hp).2.1] at hc
      simp at hc
  · have hio : i < orig.size := by
      by_contra hio
      rcases hcase with ⟨rfl, -⟩ | ⟨-, hne⟩
      · exact hio hn.root.1
      · exact hne (h.added i (by omega) hi).2.1
    have hf := h.filled i hio hio (hfilled i hio (hcase.imp And.left And.right))
    have hspan := (h.keep i hio).2.1
    rw [hspan]
    refine hf.tiles ?_
    rcases hcase with ⟨rfl, hpos⟩ | ⟨hpos, -⟩
    · rw [hn.root.2.2.1]
      exact hpos
    · exact hn.nonempty i hpos hio
  · have hf := h.filled 0 hn.root.1 hn.root.1 (.inl rfl)
    obtain ⟨c, hc, hcc⟩ := hf.empty (by rw [hn.root.2.2.1, ht]; exact Nat.zero_lt_one)
    exact ⟨c, hc, by rw [hcc]; rfl, by rw [hcc]; rfl⟩
  · by_cases hio : i < orig.size
    · exact absurd ((h.keep i hio).1.symm.trans hk) (hn.not_content i hio)
    · exact (h.added i (by omega) hi).2.1

end FillInv

/-- Filling in content nodes turns a nested table into an outline. -/
theorem fillContent_isOutline {total : Nat} {nodes : Array Node} (hn : Nested total nodes) :
    IsOutline total (fillContent nodes) :=
  (FillInv.run hn nodes.size (le_refl _)).outline hn

/-- Filling keeps the kind of every node of the table, and the nodes it adds are content. -/
theorem fillContent_kind {total : Nat} {nodes : Array Node} (hn : Nested total nodes) {i : Nat}
    (hi : i < (fillContent nodes).size) :
    i < nodes.size ∧ (entry (fillContent nodes) i).kind = (entry nodes i).kind ∨
      (entry (fillContent nodes) i).kind = .content := by
  have h := FillInv.run hn nodes.size (le_refl _)
  by_cases hin : i < nodes.size
  · exact .inl ⟨hin, (h.keep i hin).1⟩
  · exact .inr (h.added i (by omega) hi).1

end Arbor.Outline
