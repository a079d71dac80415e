import Arbor.Proofs.Outline.Reading
/-!
The parser builds the nodes the declarative reading gives.
-/

namespace Arbor.Outline

open Arbor.Layout Arbor.Text

def Node.withoutChildren (n : Node) : Node := { n with children := #[] }

@[simp] theorem Node.withoutChildren_children (n : Node) (c : Array Nat) :
    ({ n with children := c } : Node).withoutChildren = n.withoutChildren := rfl

theorem decorator?_cons {t : List Char} {d : String} (h : decorator? t = some d) :
    ∃ cs, t = '@' :: cs := by
  unfold decorator? at h
  split at h
  · exact ⟨_, rfl⟩
  · cases h

theorem header?_eq_none_of_decorator {t : List Char} {d : String} (h : decorator? t = some d) :
    header? t = none := by
  obtain ⟨cs, rfl⟩ := decorator?_cons h
  simp [header?, classHeader?, defHeader?, afterKeyword?]

section Fill

/-- A table that extends another: the nodes there keep everything but their children, and the
nodes after them are content nodes. -/
structure KeepsHeadings (nodes nodes' : Array Node) : Prop where
  size_le : nodes.size ≤ nodes'.size
  keep : ∀ i, i < nodes.size → (entry nodes' i).withoutChildren = (entry nodes i).withoutChildren
  added : ∀ i, nodes.size ≤ i → i < nodes'.size → (entry nodes' i).kind = .content

namespace KeepsHeadings

variable {a b c : Array Node}

theorem refl (a : Array Node) : KeepsHeadings a a :=
  ⟨le_rfl, fun _ _ => rfl, fun _ h h' => absurd h' (by omega)⟩

theorem trans (hab : KeepsHeadings a b) (hbc : KeepsHeadings b c) : KeepsHeadings a c := by
  refine ⟨hab.size_le.trans hbc.size_le, fun i hi => ?_, fun i hi hi' => ?_⟩
  · rw [hbc.keep i (by have := hab.size_le; omega), hab.keep i hi]
  · by_cases hib : i < b.size
    · rw [show (entry c i).kind = (entry c i).withoutChildren.kind from rfl, hbc.keep i hib]
      exact hab.added i hi hib
    · exact hbc.added i (by omega) hi'

theorem push_content (a : Array Node) {y : Node} (hy : y.kind = .content) :
    KeepsHeadings a (a.push y) := by
  refine ⟨by simp, fun i hi => by rw [entry_push_lt hi], fun i hi hi' => ?_⟩
  rw [show i = a.size by simp at hi'; omega, entry_push_size]
  exact hy

theorem modify_children (a : Array Node) (idx : Nat) (f : Array Nat) :
    KeepsHeadings a (a.modify idx fun n => { n with children := f }) := by
  refine ⟨by simp, fun i hi => ?_, fun i hi hi' => absurd hi' (by simp; omega)⟩
  rw [entry_modify]
  split <;> rfl

end KeepsHeadings

theorem keepsHeadings_fillStep (idx : Nat) (acc : Array Nat × Nat × Array Node) (c : Nat) :
    KeepsHeadings acc.2.2 (fillStep idx acc c).2.2 := by
  obtain ⟨filled, cursor, nodes⟩ := acc
  by_cases h : (spanAt nodes c).first > cursor
  · rw [fillStep_gap h]
    exact KeepsHeadings.push_content nodes rfl
  · rw [fillStep_at h]
    exact KeepsHeadings.refl nodes

theorem keepsHeadings_foldl_fillStep (idx : Nat) :
    ∀ (cs : List Nat) (acc : Array Nat × Nat × Array Node),
      KeepsHeadings acc.2.2 (cs.foldl (fillStep idx) acc).2.2
  | [], acc => KeepsHeadings.refl acc.2.2
  | c :: cs, acc =>
    (keepsHeadings_fillStep idx acc c).trans (keepsHeadings_foldl_fillStep idx cs _)

theorem keepsHeadings_fillFinish (idx last : Nat) (acc : Array Nat × Nat × Array Node) :
    KeepsHeadings acc.2.2 (fillFinish idx last acc) := by
  obtain ⟨filled, cursor, nodes⟩ := acc
  -- at most two content nodes are appended, then the children of `idx` are set
  have hpush : ∀ (nodes : Array Node) (a b : Nat), KeepsHeadings nodes
      (pushContent idx a b nodes).2 := fun nodes a b => KeepsHeadings.push_content nodes rfl
  unfold fillFinish
  dsimp only
  split <;> split
  · exact ((hpush _ _ _).trans (hpush _ _ _)).trans (KeepsHeadings.modify_children _ _ _)
  · exact (hpush _ _ _).trans (KeepsHeadings.modify_children _ _ _)
  · exact (hpush _ _ _).trans (KeepsHeadings.modify_children _ _ _)
  · exact KeepsHeadings.modify_children _ _ _

theorem keepsHeadings_fillNode (nodes : Array Node) (idx : Nat) :
    KeepsHeadings nodes (fillNode nodes idx) := by
  rw [fillNode_eq]
  split
  · exact KeepsHeadings.refl nodes
  · have hloop := keepsHeadings_foldl_fillStep idx (entry nodes idx).children.toList
      (#[], (entry nodes idx).span.first, nodes)
    rw [Array.foldl_toList] at hloop
    exact hloop.trans (keepsHeadings_fillFinish idx _ _)

/-- Filling in content keeps every node of the table but its children, and adds content nodes. -/
theorem keepsHeadings_fillContent (nodes : Array Node) :
    KeepsHeadings nodes (fillContent nodes) := by
  unfold fillContent
  generalize List.range nodes.size = idxs
  induction idxs generalizing nodes with
  | nil => exact KeepsHeadings.refl nodes
  | cons idx rest ih => exact (keepsHeadings_fillNode nodes idx).trans (ih _)

end Fill

theorem closeOpen_of_sorted (level last : Nat) (stack : List Nat) (nodes : Array Node)
    (hvalid : ∀ s ∈ stack, s < nodes.size)
    (hsorted : stack.Pairwise fun a b => (entry nodes b).indent < (entry nodes a).indent) :
    (closeOpen level last stack nodes).1 =
        stack.filter (fun s => decide ((entry nodes s).indent < level)) ∧
      (closeOpen level last stack nodes).2.size = nodes.size ∧
      ∀ i, entry (closeOpen level last stack nodes).2 i =
        if i ∈ stack ∧ level ≤ (entry nodes i).indent then endAt last (entry nodes i)
        else entry nodes i := by
  obtain ⟨popped, rest, hsplit, h1, h2, h3, h4, h5⟩ := closeOpen_spec level last stack nodes hvalid
  subst hsplit
  -- what stays is shallower than its top, which is shallower than `level`
  have hrest : ∀ t ∈ rest, (entry nodes t).indent < level := by
    cases rest with
    | nil => simp
    | cons u rest' =>
      intro t ht
      have hu := h5 u (by simp)
      rcases List.mem_cons.mp ht with rfl | ht
      · exact hu
      · have := (List.pairwise_cons.mp (List.pairwise_append.mp hsorted).2.1).1 t ht
        omega
  refine ⟨?_, h2, fun i => ?_⟩
  · rw [h1, List.filter_append, List.filter_eq_nil_iff.mpr, List.filter_eq_self.mpr,
      List.nil_append]
    · intro t ht
      simpa using hrest t ht
    · intro s hs
      simpa using h4 s hs
  · rw [h3 i]
    by_cases hp : i ∈ popped
    · rw [if_pos hp, if_pos ⟨List.mem_append_left _ hp, h4 i hp⟩]
    · rw [if_neg hp, if_neg]
      rintro ⟨hmem, hle⟩
      rcases List.mem_append.mp hmem with h | h
      · exact hp h
      · exact absurd (hrest i h) (by omega)

/-- The lines from line `k` on are line `k` and the lines after it. -/
theorem drop_pred_eq_cons {α : Type} (l : List α) (d : α) {k : Nat} (hk1 : 1 ≤ k)
    (hk : k ≤ l.length) : l.drop (k - 1) = l.getD (k - 1) d :: l.drop k := by
  obtain ⟨m, rfl⟩ : ∃ m, k = m + 1 := ⟨k - 1, by omega⟩
  rw [Nat.add_sub_cancel, List.getD_eq_getElem?_getD, List.getElem?_eq_getElem (by omega),
    Option.getD_some]
  exact List.drop_eq_getElem_cons (by omega)

section Run

variable (isProperty : String → Bool) (lines : List String) (kinds : List LineKind)

/-- The last line of the node of header line `h` once the lines before `c` are read for
closing: the end the reading gives it if one of them closes it, the last line of the file if
none does. -/
def lastBy (c h : Nat) : Nat :=
  if stillOpen kinds h (indentOf kinds h) c then kinds.length else endLine kinds h (indentOf kinds h)

/-- The header lines before `k` whose nodes no line before `c` closes, in order. -/
def openBy (k c : Nat) : List Nat :=
  (headersBefore lines kinds k).filter fun h => stillOpen kinds h (indentOf kinds h) c

/-- The parser's state agrees with the reading before line `k`, with the lines before `c` read for
closing. -/
structure Agrees (k c : Nat) (st : ParseState) : Prop where
  size : st.nodes.size = (headersBefore lines kinds k).length + 1
  nodes : ∀ h ∈ headersBefore lines kinds k,
    (entry st.nodes (nodeIndex lines kinds h)).withoutChildren =
      { headerNode isProperty lines kinds h with
        span := ⟨startLine lines kinds h (indentOf kinds h), lastBy kinds c h⟩ }
  stack : st.stack = ((openBy lines kinds k c).map (nodeIndex lines kinds)).reverse
  pending : st.pending = pendingAt lines kinds k

variable {isProperty lines kinds}

theorem lastBy_succ_of_closes {h k : Nat} (hk : h < k) (hkN : k ≤ kinds.length)
    (hopen : stillOpen kinds h (indentOf kinds h) k) (hc : closes kinds k (indentOf kinds h)) :
    lastBy kinds (k + 1) h = k - 1 := by
  rw [lastBy, stillOpen_succ hk, hopen, hc, endLine_eq_of_closes hk hkN hopen hc]
  rfl

theorem lastBy_succ_of_not_closes {h k : Nat} (hk : h < k)
    (hc : stillOpen kinds h (indentOf kinds h) k → closes kinds k (indentOf kinds h) = false) :
    lastBy kinds (k + 1) h = lastBy kinds k h := by
  unfold lastBy
  rw [stillOpen_succ hk]
  by_cases hopen : stillOpen kinds h (indentOf kinds h) k
  · rw [hopen, hc hopen]
    rfl
  · simp [hopen]

variable {k c : Nat} {st : ParseState}

namespace Agrees

theorem indent_eq (h : Agrees isProperty lines kinds k c st) {g : Nat}
    (hg : g ∈ headersBefore lines kinds k) :
    (entry st.nodes (nodeIndex lines kinds g)).indent = indentOf kinds g :=
  congrArg Node.indent (h.nodes g hg)

theorem nodeIndex_lt_size (h : Agrees isProperty lines kinds k c st) {g : Nat}
    (hg : g ∈ headersBefore lines kinds k) : nodeIndex lines kinds g < st.nodes.size := by
  rw [h.size]
  exact nodeIndex_lt hg

theorem lt_size_of_mem_stack (h : Agrees isProperty lines kinds k c st) {s : Nat}
    (hs : s ∈ st.stack) : s < st.nodes.size := by
  rw [h.stack, List.mem_reverse, List.mem_map] at hs
  obtain ⟨g, hg, rfl⟩ := hs
  exact h.nodeIndex_lt_size (List.mem_filter.mp hg).1

theorem stack_sorted (h : Agrees isProperty lines kinds k c st) (hkc : k ≤ c) :
    st.stack.Pairwise fun a b => (entry st.nodes b).indent < (entry st.nodes a).indent := by
  rw [h.stack, List.pairwise_reverse, List.pairwise_map]
  have hinc : (openBy lines kinds k c).Pairwise (· < ·) :=
    (headersBefore_increasing k).filter _
  refine hinc.imp_of_mem fun {g g'} hg hg' hlt => ?_
  obtain ⟨hgk, hgopen⟩ := List.mem_filter.mp hg
  obtain ⟨hg'k, -⟩ := List.mem_filter.mp hg'
  rw [h.indent_eq hgk, h.indent_eq hg'k]
  obtain ⟨-, hg'lt, hg'head⟩ := mem_headersBefore.mp hg'k
  obtain ⟨i, hi⟩ := Option.isSome_iff_exists.mp (Bool.and_eq_true_iff.mp hg'head).1
  rw [indentOf_of_codeIndentAt hi]
  exact indent_lt_of_stillOpen hlt (by omega) hgopen hi

theorem mem_stack (h : Agrees isProperty lines kinds k c st) {g : Nat}
    (hg : g ∈ headersBefore lines kinds k) :
    nodeIndex lines kinds g ∈ st.stack ↔ stillOpen kinds g (indentOf kinds g) c := by
  rw [h.stack, List.mem_reverse, List.mem_map]
  constructor
  · rintro ⟨g', hg', heq⟩
    obtain ⟨hg'k, hopen⟩ := List.mem_filter.mp hg'
    rw [← nodeIndex_inj hg'k hg heq]
    exact hopen
  · intro hopen
    exact ⟨g, List.mem_filter.mpr ⟨hg, hopen⟩, rfl⟩

/-- Line `k` closes the open nodes whose header sits at its closing level or deeper. -/
theorem close (h : Agrees isProperty lines kinds k k st) (hkN : k ≤ kinds.length) {level : Nat}
    (hlevel : closingLevel (kindAt kinds k) (firstCodeIndent (kinds.drop k)) = some level) :
    Agrees isProperty lines kinds k (k + 1) (st.closing level k) := by
  obtain ⟨hstack, hsize, hentry⟩ := closeOpen_of_sorted level (k - 1) st.stack st.nodes
    (fun _ hs => h.lt_size_of_mem_stack hs) (h.stack_sorted le_rfl)
  have hcloses : ∀ I, closes kinds k I = decide (level ≤ I) := closes_of_level hlevel
  refine ⟨?_, fun g hg => ?_, ?_, h.pending⟩
  · simp only [ParseState.closing]
    rw [hsize, h.size]
  · simp only [ParseState.closing]
    have hgk := (mem_headersBefore.mp hg).2.1
    rw [hentry]
    by_cases hpop : nodeIndex lines kinds g ∈ st.stack ∧
        level ≤ (entry st.nodes (nodeIndex lines kinds g)).indent
    · -- an open node this line closes ends on the line before
      rw [if_pos hpop]
      have hopen := (h.mem_stack hg).mp hpop.1
      have hc : closes kinds k (indentOf kinds g) := by
        rw [hcloses, ← h.indent_eq hg]
        simpa using hpop.2
      rw [lastBy_succ_of_closes hgk hkN hopen hc]
      calc (endAt (k - 1) (entry st.nodes (nodeIndex lines kinds g))).withoutChildren
          = { (entry st.nodes (nodeIndex lines kinds g)).withoutChildren with
              span := ⟨(entry st.nodes (nodeIndex lines kinds g)).withoutChildren.span.first,
                k - 1⟩ } := rfl
        _ = _ := by rw [h.nodes g hg]
    · rw [if_neg hpop, lastBy_succ_of_not_closes hgk fun hopen => ?_]
      · exact h.nodes g hg
      · rw [hcloses, decide_eq_false_iff_not, ← h.indent_eq hg]
        exact fun hle => hpop ⟨(h.mem_stack hg).mpr hopen, hle⟩
  · simp only [ParseState.closing]
    rw [hstack, h.stack, List.filter_reverse, List.filter_map]
    congr 2
    rw [openBy, openBy, List.filter_filter]
    refine List.filter_congr fun g hg => ?_
    rw [stillOpen_succ (mem_headersBefore.mp hg).2.1, Function.comp_apply, h.indent_eq hg,
      hcloses]
    by_cases hlt : indentOf kinds g < level
    · simp [hlt, Nat.not_le.mpr hlt]
    · simp [hlt, Nat.le_of_not_lt hlt]

theorem no_close (h : Agrees isProperty lines kinds k k st)
    (hlevel : closingLevel (kindAt kinds k) (firstCodeIndent (kinds.drop k)) = none) :
    Agrees isProperty lines kinds k (k + 1) st := by
  have hopen : ∀ g ∈ headersBefore lines kinds k,
      stillOpen kinds g (indentOf kinds g) (k + 1) = stillOpen kinds g (indentOf kinds g) k :=
    fun g hg => by rw [stillOpen_succ (mem_headersBefore.mp hg).2.1, closes_of_no_level hlevel]; simp
  refine ⟨h.size, fun g hg => ?_, ?_, h.pending⟩
  · rw [lastBy_succ_of_not_closes (mem_headersBefore.mp hg).2.1 fun _ => closes_of_no_level hlevel _]
    exact h.nodes g hg
  · rw [h.stack, openBy, openBy, List.filter_congr fun g hg => (hopen g hg).symm]

theorem no_header (h : Agrees isProperty lines kinds k (k + 1) st) (hk1 : 1 ≤ k)
    (hnh : isHeaderLine lines kinds k = false) {st' : ParseState} (hnodes : st'.nodes = st.nodes)
    (hstack : st'.stack = st.stack) (hpend : st'.pending = pendingAt lines kinds (k + 1)) :
    Agrees isProperty lines kinds (k + 1) (k + 1) st' := by
  have hh : headersBefore lines kinds (k + 1) = headersBefore lines kinds k := by
    rw [headersBefore_succ hk1, hnh]
    simp
  refine ⟨?_, fun g hg => ?_, ?_, hpend⟩
  · rw [hnodes, hh, h.size]
  · rw [hnodes]
    rw [hh] at hg
    exact h.nodes g hg
  · rw [hstack, h.stack, openBy, openBy, hh]

theorem parentOf_eq (hkN : k ≤ kinds.length) :
    parentOf lines kinds k = ((openBy lines kinds k (k + 1)).getLast?.map (nodeIndex lines kinds)).getD 0 := by
  have hfilter : ((headersBefore lines kinds k).filter fun g =>
      decide (k ≤ endLine kinds g (indentOf kinds g))) = openBy lines kinds k (k + 1) := by
    refine List.filter_congr fun g hg => ?_
    rw [Bool.eq_iff_iff, decide_eq_true_eq,
      stillOpen_iff_le_endLine (by have := (mem_headersBefore.mp hg).2.1; omega) (by omega)]
    rfl
  rw [parentOf, hfilter]
  cases (openBy lines kinds k (k + 1)).getLast? <;> rfl

theorem codeLine_of_header {total line i : Nat} {trimmed : List Char} {st : ParseState} {hd : Header}
    (hdec : decorator? trimmed = none) (hhead : header? trimmed = some hd) :
    st.codeLine isProperty total line i trimmed =
      ({ st with pending := none } : ParseState).opening total (runOf st.pending line i).1 i
        (headerKind isProperty (runOf st.pending line i).2 hd).1
        (headerKind isProperty (runOf st.pending line i).2 hd).2 := by
  unfold ParseState.codeLine
  simp only [hdec, hhead]
  cases hp : st.pending with
  | none => cases hd <;> rfl
  | some p =>
    by_cases hi : p.indent = i <;> cases hd <;> simp [runOf, hi, headerKind, ParseState.opening]

/-- A header line opens its node under the innermost open one, starting at the decorator run
before it. -/
theorem header (h : Agrees isProperty lines kinds k (k + 1) st) (hk1 : 1 ≤ k)
    (hkN : k ≤ kinds.length) (hlen : lines.length = kinds.length) {i : Nat}
    (hi : codeIndentAt kinds k = some i) {hd : Header}
    (hdec : decorator? (lineText lines k) = none) (hhead : header? (lineText lines k) = some hd) :
    Agrees isProperty lines kinds (k + 1) (k + 1)
      (st.codeLine isProperty lines.length k i (lineText lines k)) := by
  have hkh : isHeaderLine lines kinds k = true := by simp [isHeaderLine, hi, hhead]
  have hh : headersBefore lines kinds (k + 1) = headersBefore lines kinds k ++ [k] := by
    rw [headersBefore_succ hk1, hkh]
    rfl
  have hidx : nodeIndex lines kinds k = st.nodes.size := by rw [nodeIndex, h.size]
  have hrun : runOf st.pending k i = (startLine lines kinds k i, runNames lines kinds k i) := by
    rw [h.pending]
    exact runOf_pendingAt i
  rw [codeLine_of_header hdec hhead, hrun]
  set P := st.stack.head?.getD 0 with hP
  have hPlt : P < st.nodes.size := by
    rw [hP]
    cases hs : st.stack with
    | nil => simp [h.size]
    | cons s rest =>
      have hmem : s ∈ st.stack := by
        rw [hs]
        exact List.mem_cons_self
      exact h.lt_size_of_mem_stack hmem
  have hPparent : P = parentOf lines kinds k := by
    rw [parentOf_eq hkN, hP, h.stack, List.head?_reverse, List.getLast?_map]
  -- the header opens its node from the state with no decorator run pending
  have hPlt' : ({ st with pending := none } : ParseState).stack.head?.getD 0 <
      ({ st with pending := none } : ParseState).nodes.size := hPlt
  refine ⟨?_, fun g hg => ?_, ?_, ?_⟩
  · simp [hh, h.size]
  · rcases List.mem_append.mp (hh ▸ hg) with hg | hg
    · -- an older node keeps all but its children
      rw [ParseState.entry_opening_of_lt hPlt' (h.nodeIndex_lt_size hg),
        Node.withoutChildren_children]
      exact h.nodes g hg
    · -- the new node
      rw [List.mem_singleton] at hg
      subst hg
      rw [hidx, ParseState.entry_opening_new hPlt']
      simp only [Node.withoutChildren, headerNode, lastBy, stillOpen_self, if_true, hhead,
        indentOf_of_codeIndentAt hi, ← hPparent, hlen, hP]
  · simp only [ParseState.opening]
    rw [h.stack, ← hidx, openBy, openBy, hh, List.filter_append, List.filter_singleton,
      indentOf_of_codeIndentAt hi, stillOpen_self]
    simp
  · exact (pendingAt_succ_of_not_decorator hk1 (by simp [hi]) hdec).symm

theorem code_step (h : Agrees isProperty lines kinds k (k + 1) st) (hk1 : 1 ≤ k)
    (hkN : k ≤ kinds.length) (hlen : lines.length = kinds.length) {i : Nat}
    (hi : codeIndentAt kinds k = some i) :
    Agrees isProperty lines kinds (k + 1) (k + 1)
      (st.codeLine isProperty lines.length k i (lineText lines k)) := by
  cases hdec : decorator? (lineText lines k) with
  | some d =>
    have hnh : isHeaderLine lines kinds k = false := by
      simp [isHeaderLine, header?_eq_none_of_decorator hdec]
    unfold ParseState.codeLine
    rw [hdec]
    exact h.no_header hk1 hnh rfl rfl
      (by rw [pendingAt_succ_of_decorator hk1 hi hdec, h.pending])
  | none =>
    cases hhead : header? (lineText lines k) with
    | none =>
      have hnh : isHeaderLine lines kinds k = false := by simp [isHeaderLine, hhead]
      unfold ParseState.codeLine
      simp only [hdec, hhead]
      exact h.no_header hk1 hnh rfl rfl
        (pendingAt_succ_of_not_decorator hk1 (by simp [hi]) hdec).symm
    | some hd => exact h.header hk1 hkN hlen hi hdec hhead

/-- Reading line `k` takes the agreement from line `k` to line `k + 1`. -/
theorem read_line (h : Agrees isProperty lines kinds k k st) (hk1 : 1 ≤ k)
    (hkN : k ≤ kinds.length) (hlen : lines.length = kinds.length) :
    Agrees isProperty lines kinds (k + 1) (k + 1)
      (st.readLine isProperty lines.length k (lines.getD (k - 1) "") (kindAt kinds k)
        (firstCodeIndent (kinds.drop k))) := by
  -- a line that is not code closes what its level closes and changes nothing else
  have hother : ∀ (hc : codeIndentAt kinds k = none) {st' : ParseState},
      Agrees isProperty lines kinds k (k + 1) st' →
        Agrees isProperty lines kinds (k + 1) (k + 1) st' := fun hc _ h' =>
    h'.no_header hk1 (by simp [isHeaderLine, hc]) rfl rfl
      (h'.pending.trans (pendingAt_succ_of_not_code hk1 hc).symm)
  unfold ParseState.readLine
  cases hk : kindAt kinds k with
  | code i =>
    exact (h.close hkN (by rw [hk]; rfl)).code_step hk1 hkN hlen (by simp [codeIndentAt, hk])
  | comment j => exact hother (by simp [codeIndentAt, hk]) (h.close hkN (by rw [hk]; rfl))
  | blank => exact hother (by simp [codeIndentAt, hk]) (h.no_close (by rw [hk]; rfl))
  | continuation => exact hother (by simp [codeIndentAt, hk]) (h.no_close (by rw [hk]; rfl))

/-- Before the first line the table holds the file node alone, and nothing is open. -/
theorem initial (root : Node) :
    Agrees isProperty lines kinds 1 1 ⟨#[root], [], none⟩ := by
  have hnil : headersBefore lines kinds 1 = [] := rfl
  refine ⟨?_, fun g hg => ?_, ?_, ?_⟩
  · simp [hnil]
  · simp [hnil] at hg
  · simp [openBy, hnil]
  · rfl

/-- Reading the lines from line `k` to the end takes the agreement to the end of the file;
the induction is on the number of lines left. -/
theorem read_lines (hlen : lines.length = kinds.length) :
    ∀ (n k : Nat) (st : ParseState), 1 ≤ k → k + n = kinds.length + 1 →
      Agrees isProperty lines kinds k k st →
      Agrees isProperty lines kinds (kinds.length + 1) (kinds.length + 1)
        (ParseState.readLines isProperty lines.length k
          ((lines.drop (k - 1)).zip ((kinds.drop (k - 1)).zip (nextCodeIndents (kinds.drop (k - 1)))))
          st)
  | 0, k, st, _, hn, h => by
    obtain rfl : k = kinds.length + 1 := by omega
    rw [Nat.add_sub_cancel, List.drop_of_length_le hlen.le, List.zip_nil_left]
    exact h
  | n + 1, k, st, hk1, hn, h => by
    have hkN : k ≤ kinds.length := by omega
    rw [drop_pred_eq_cons lines "" hk1 (by omega), drop_pred_eq_cons kinds .blank hk1 hkN,
      nextCodeIndents_cons, List.zip_cons_cons, List.zip_cons_cons]
    have hrest := read_lines hlen n (k + 1) _ (by omega) (by omega) (h.read_line hk1 hkN hlen)
    rw [Nat.add_sub_cancel] at hrest
    exact hrest

end Agrees

theorem lastBy_end {h : Nat} (hh : h ≤ kinds.length) :
    lastBy kinds (kinds.length + 1) h = endLine kinds h (indentOf kinds h) := by
  unfold lastBy
  split
  · rename_i hopen
    exact (endLine_eq_of_stillOpen hh hopen).symm
  · rfl

end Run

/-- The outline of a list of lines holds, after the file node, the node of each header line in
order, as the reading gives it, and content nodes after them. -/
theorem parseLines_eq_reading (isProperty : String → Bool) (name : String) (lines : List String) :
    let nodes := parseLines isProperty name lines
    let headers := headerLines lines (classify lines)
    headers.length < nodes.size ∧
      (∀ j (hj : j < headers.length),
        (entry nodes (j + 1)).withoutChildren = headerNode isProperty lines (classify lines) headers[j]) ∧
      ∀ j, headers.length < j → j < nodes.size → (entry nodes j).kind = .content := by
  intro nodes headers
  -- the parser reads every line keeping the agreement, then fills in content nodes, which
  -- keeps every node it had but for its children
  have hlen : lines.length = (classify lines).length := (length_classify lines).symm
  have hread : Agrees isProperty lines (classify lines) _ _ _ :=
    Agrees.read_lines hlen lines.length 1 _ le_rfl (by rw [hlen]; omega) (Agrees.initial
      { kind := .file, name, span := ⟨1, lines.length⟩, indent := 0, parent := none })
  simp only [Nat.sub_self, List.drop_zero] at hread
  have hfill := keepsHeadings_fillContent (ParseState.readLines isProperty lines.length 1
    (lines.zip ((classify lines).zip (nextCodeIndents (classify lines))))
    ⟨#[{ kind := .file, name, span := ⟨1, lines.length⟩, indent := 0, parent := none }], [], none⟩).nodes
  have hsize := hread.size
  refine ⟨?_, fun j hj => ?_, fun j hj hjn => hfill.added j (by rw [hsize]; exact hj) hjn⟩
  · have := hfill.size_le
    rw [hsize] at this
    exact this
  · have hmem : headers[j] ∈ headersBefore lines (classify lines) ((classify lines).length + 1) :=
      List.getElem_mem hj
    have hidx : nodeIndex lines (classify lines) headers[j] = j + 1 := nodeIndex_getElem hj
    have hle : headers[j] ≤ (classify lines).length := by
      have := (mem_headersBefore.mp hmem).2.1
      omega
    have hkeep := hfill.keep (j + 1) (by rw [hsize]; exact Nat.succ_lt_succ hj)
    -- after the last line a node that no line closed reaches the last line: its end line
    rw [← hidx] at hkeep ⊢
    rw [show entry nodes _ = entry (fillContent _) _ from rfl, hkeep, hread.nodes _ hmem,
      lastBy_end hle]
    rfl

/-- The lines the parser reads from a text: its physical lines, the first without a byte order
mark. -/
def strippedLines (text : String) : List String :=
  match physicalLines text with
  | first :: rest => stripByteOrderMark first :: rest
  | [] => []

theorem parse_eq_parseLines (isProperty : String → Bool) (name text : String) :
    parse isProperty name text = parseLines isProperty name (strippedLines text) := rfl

/-- The outline of a text holds, after the file node, the node of each of its header lines in
order, as the reading of its lines gives it, and content nodes after them. -/
theorem parse_nodes_eq_reading (isProperty : String → Bool) (name text : String) :
    let lines := strippedLines text
    let nodes := parse isProperty name text
    let headers := headerLines lines (classify lines)
    headers.length < nodes.size ∧
      (∀ j (hj : j < headers.length),
        (entry nodes (j + 1)).withoutChildren = headerNode isProperty lines (classify lines) headers[j]) ∧
      ∀ j, headers.length < j → j < nodes.size → (entry nodes j).kind = .content := by
  rw [parse_eq_parseLines]
  exact parseLines_eq_reading isProperty name (strippedLines text)

/-! ### Where class and function nodes start and end -/

/-- Every node of an outline past the file node that is not content is the node the reading
gives one of its header lines. -/
theorem parse_entry_of_ne_content (isProperty : String → Bool) (name text : String) {j : Nat}
    (hj0 : 0 < j) (hj : j < (parse isProperty name text).size)
    (hk : (entry (parse isProperty name text) j).kind ≠ .content) :
    ∃ h ∈ headerLines (strippedLines text) (classify (strippedLines text)),
      (entry (parse isProperty name text) j).withoutChildren =
        headerNode isProperty (strippedLines text) (classify (strippedLines text)) h := by
  rw [parse_eq_parseLines] at hj hk ⊢
  obtain ⟨-, hread, hrest⟩ := parseLines_eq_reading isProperty name (strippedLines text)
  obtain ⟨i, rfl⟩ : ∃ i, j = i + 1 := ⟨j - 1, by omega⟩
  by_cases hi : i < (headerLines (strippedLines text) (classify (strippedLines text))).length
  · exact ⟨_, List.getElem_mem hi, hread i hi⟩
  · exact absurd (hrest (i + 1) (by omega) hj) hk

theorem parse_node_bounds (isProperty : String → Bool) (name text : String) {j : Nat}
    (hj0 : 0 < j) (hj : j < (parse isProperty name text).size)
    (hk : (entry (parse isProperty name text) j).kind ≠ .content) :
    let kinds := classify (strippedLines text)
    let n := entry (parse isProperty name text) j
    kindAt kinds n.span.first = .code n.indent ∧
      (n.span.last = kinds.length ∨ closes kinds (n.span.last + 1) n.indent = true) := by
  obtain ⟨h, hh, hnode⟩ := parse_entry_of_ne_content isProperty name text hj0 hj hk
  have hspan := congrArg Node.span hnode
  have hindent := congrArg Node.indent hnode
  simp only [Node.withoutChildren, headerNode] at hspan hindent
  intro kinds n
  simp only [n, kinds, hspan, hindent]
  exact ⟨kindAt_startLine (mem_headersBefore.mp hh).2.2, endLine_eq_length_or_closes _ _⟩

/-- A line that continues a logical line, inside an open bracket or a multi-line string, neither
starts a class or function node nor closes one: it is never the first line of such a node, nor
the line right after its last. -/
theorem parse_continuation_neither_starts_nor_closes (isProperty : String → Bool)
    (name text : String) {j : Nat} (hj0 : 0 < j) (hj : j < (parse isProperty name text).size)
    (hk : (entry (parse isProperty name text) j).kind ≠ .content) {l : Nat}
    (hl : kindAt (classify (strippedLines text)) l = .continuation) :
    (entry (parse isProperty name text) j).span.first ≠ l ∧
      (entry (parse isProperty name text) j).span.last + 1 ≠ l := by
  obtain ⟨hfirst, hlast⟩ := parse_node_bounds isProperty name text hj0 hj hk
  constructor
  · rintro rfl
    rw [hl] at hfirst
    cases hfirst
  · rintro rfl
    rcases hlast with hend | hcl
    · -- past the last line every line reads as blank
      have hblank : kindAt (classify (strippedLines text))
          ((entry (parse isProperty name text) j).span.last + 1) = .blank := by
        simp [kindAt, hend]
      rw [hl] at hblank
      cases hblank
    · simp [closes, hl] at hcl

theorem parse_bracket_continuation_keeps_node_open :
    let text := "def f():\n    x = (1 +\n2)\n    y = 3\n"
    0 < 1 ∧ 1 < (parse (fun _ => false) "m" text).size ∧
      (entry (parse (fun _ => false) "m" text) 1).kind ≠ .content ∧
      kindAt (classify (strippedLines text)) 3 = .continuation ∧
      (entry (parse (fun _ => false) "m" text) 1).span.first ≠ 3 ∧
      (entry (parse (fun _ => false) "m" text) 1).span.last + 1 ≠ 3 := by
  intro text
  have hsize : 1 < (parse (fun _ => false) "m" text).size := by decide +kernel
  have hkind : (entry (parse (fun _ => false) "m" text) 1).kind ≠ .content := by decide +kernel
  have hline : kindAt (classify (strippedLines text)) 3 = .continuation := by decide +kernel
  exact ⟨Nat.one_pos, hsize, hkind, hline, parse_continuation_neither_starts_nor_closes
    (fun _ => false) "m" text Nat.one_pos hsize hkind hline⟩

end Arbor.Outline
