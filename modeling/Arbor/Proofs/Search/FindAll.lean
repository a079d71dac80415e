import Arbor.Proofs.Search.Cursor
import Arbor.Proofs.Tree.Build
import Arbor.Proofs.Tree.Preorder
import Arbor.Tree.Imports
/-!
A search finds every matching line once.
-/

namespace Arbor

open Arbor.Outline Arbor.Pattern

/-- The node reached from node `i` of an outline by moving, at most `fuel` times, into the first
child whose span holds line `l`. -/
def descend (nodes : Array Node) (l : Nat) : Nat → Nat → Nat
  | 0, i => i
  | fuel + 1, i =>
    match (entry nodes i).children.toList.find? fun c => (entry nodes c).span.contains l with
    | some c => descend nodes l fuel c
    | none => i

def deepestAt (nodes : Array Node) (l : Nat) : Nat := descend nodes l nodes.size 0

namespace Tree

/-- The result for line `l` of `file`, credited to node `id`: the line, its text, the byte ranges
of its matches and the dotted name of the nearest named node around `id`; none when the line has
no match. -/
def lineMatch (t : Tree) (m : Matcher) (file : ParsedFile) (id : NodeId) (l : Nat) :
    Option LineMatch :=
  match file.line l with
  | some text =>
    let spans := m.findAll text
    if spans.isEmpty then none
    else some { owner := t.absoluteName (t.owner id), node := id, file := file.path, line := l, text,
                spans }
  | none => none

/-- The lines of `file` a search from `n` scans: the span of `n` for a node inside the file, every
line of the file for the file node or a directory. -/
def scannedLines (n : NodeId) (file : ParsedFile) : List Nat :=
  match n with
  | .unit _ (k + 1) =>
    match file.nodes[k + 1]? with
    | some node => node.span.lines
    | none => []
  | _ => (List.range file.lineCount).map (· + 1)

/-- What a search should find on the given lines of file `f`: one result per line with a match,
in the order of the lines, credited to the deepest node holding the line. -/
def expectedIn (t : Tree) (m : Matcher) (f : Nat) (lines : ParsedFile → List Nat) :
    List LineMatch :=
  match t.files[f]? with
  | some file => (lines file).filterMap fun l => t.lineMatch m file (.unit f (deepestAt file.nodes l)) l
  | none => []

/-- What a search from node `n` should find: file by file, for the files at or below `n` in
pre-order, the matching lines it scans in increasing order. -/
def expectedMatches (t : Tree) (n : NodeId) (m : Matcher) : List LineMatch :=
  (t.filesBelow (t.size + 1) n).flatMap fun f => t.expectedIn m f (scannedLines n)

end Tree

namespace Outline.IsOutline

variable {total : Nat} {nodes : Array Node}

theorem descend_eq (h : IsOutline total nodes) {k l : Nat} (hk : k < nodes.size)
    (hleaf : (entry nodes k).children = #[]) (hkl : (entry nodes k).span.contains l)
    (h1 : 1 ≤ l) (h2 : l ≤ total) :
    ∀ fuel i, i < nodes.size → nodes.size ≤ i + fuel → (entry nodes i).span.contains l →
      descend nodes l fuel i = k
  | 0, i, hi, hfuel, _ => by omega
  | fuel + 1, i, hi, hfuel, hil => by
    rw [descend]
    split
    · rename_i c hfind
      have hc : c ∈ (entry nodes i).children := by
        simpa using List.mem_of_find?_eq_some hfind
      obtain ⟨hic, hcs⟩ := h.child_lt hi hc
      have hcl : (entry nodes c).span.contains l := by
        simpa using List.find?_some hfind
      exact descend_eq h hk hleaf hkl h1 h2 fuel c hcs (by omega) hcl
    · rename_i hfind
      -- no child holds the line, so the node is a leaf, and the leaf holding a line is unique
      have hnone := List.find?_eq_none.mp hfind
      have hileaf : (entry nodes i).children = #[] := by
        by_contra hne
        have hcase : i = 0 ∧ 0 < total ∨ 0 < i ∧ (entry nodes i).children ≠ #[] := by
          rcases Nat.eq_zero_or_pos i with rfl | hi0
          · exact .inl ⟨rfl, by omega⟩
          · exact .inr ⟨hi0, hne⟩
        have hone := h.one_child_contains hi hcase hil
        obtain ⟨s, hs⟩ := List.length_pos_iff_exists_mem.mp
          (by rw [hone]; exact Nat.one_pos :
            0 < ((childSpans nodes (entry nodes i)).filter (·.contains l)).length)
        obtain ⟨hsmem, hsl⟩ := List.mem_filter.mp hs
        obtain ⟨c, hc, rfl⟩ := List.mem_map.mp hsmem
        exact hnone c hc hsl
      exact h.leaf_unique h1 h2 hi hileaf hil hk hleaf hkl

theorem deepestAt_eq (h : IsOutline total nodes) {k l : Nat} (hk : k < nodes.size)
    (hleaf : (entry nodes k).children = #[]) (hl : l ∈ (entry nodes k).span.lines) :
    deepestAt nodes l = k := by
  obtain ⟨h1, h2⟩ := h.lines_within k hk l hl
  have hroot : (entry nodes 0).span.contains l := by
    simp [h.root.2.2.1, Span.contains, h1, h2]
  exact h.descend_eq hk hleaf (Span.mem_lines.mp hl) h1 h2 nodes.size 0 h.root.1 (by omega) hroot

end Outline.IsOutline

namespace Tree

variable {t : Tree} {m : Matcher} {f : Nat} {file : ParsedFile}

theorem matchesAt_unit (hf : t.files[f]? = some file) (hwf : file.WellFormed) {j : Nat}
    (hj : j < file.nodes.size) :
    t.matchesAt m (.unit f j) =
      (ownLines ((childSpans file.nodes (entry file.nodes j)).mergeSort
          fun a b => a.first ≤ b.first) (entry file.nodes j).span.lines).filterMap
        (t.lineMatch m file (.unit f j)) := by
  have hdelegated : (t.children (.unit f j)).filterMap t.span? =
      childSpans file.nodes (entry file.nodes j) := by
    rw [children_unit hf hj, List.filterMap_map, childSpans]
    refine List.filterMap_eq_map_iff_forall_eq_some.mpr fun c hc => ?_
    exact span?_unit hf (hwf.outline.child_lt hj (by simpa using hc)).2
  unfold matchesAt
  rw [kind_unit hf hj, span?_unit hf hj]
  simp only [fileOf?, hf]
  split
  next _ _ _ hk => exact absurd hk (hwf.not_directory j hj)
  next _ _ _ span file' hspan hfile _ =>
    cases hspan
    cases hfile
    rw [hdelegated]
    rfl
  next _ _ _ _ hnone => exact (hnone _ _ rfl rfl).elim

theorem walk_unit (hf : t.files[f]? = some file) (hwf : file.WellFormed) :
    ∀ fuel j, j < file.nodes.size → file.nodes.size ≤ j + fuel →
      (t.preorderUpTo fuel (.unit f j)).flatMap (t.matchesAt m) =
        (entry file.nodes j).span.lines.filterMap fun l =>
          t.lineMatch m file (.unit f (deepestAt file.nodes l)) l
  | 0, j, hj, hfuel => by omega
  | fuel + 1, j, hj, hfuel => by
    have hout := hwf.outline
    rw [preorderUpTo, List.flatMap_cons, List.flatMap_assoc, children_unit hf hj, List.flatMap_map,
      matchesAt_unit hf hwf hj]
    by_cases hleaf : (entry file.nodes j).children = #[]
    · -- a leaf scans all its lines, and it is the deepest node holding each
      simp only [hleaf, childSpans, Array.toList_empty, List.map_nil, List.mergeSort_nil,
        List.flatMap_nil, List.append_nil]
      rw [ownLines_eq_filter (Span.lines_increasing _) List.Pairwise.nil]
      simp only [List.any_nil, Bool.not_false, List.filter_true]
      refine List.filterMap_congr fun l hl => ?_
      rw [hout.deepestAt_eq hj hleaf hl]
    · -- a node with children leaves every line to them, and their lines are its lines
      rw [hout.ownLines_eq_nil hj hleaf, List.filterMap_nil, List.nil_append,
        ← hout.children_lines hj hleaf, List.filterMap_flatMap]
      refine List.flatMap_congr fun c hc => ?_
      obtain ⟨hjc, hcs⟩ := hout.child_lt hj (by simpa using hc)
      exact walk_unit hf hwf fuel c hcs (by omega)

theorem walk_dir (hwf : t.WellFormed) :
    ∀ fuel d, d < t.dirs.size → d + (t.size - t.dirs.size) + 1 ≤ fuel →
      (t.preorderUpTo fuel (.dir d)).flatMap (t.matchesAt m) =
        (t.filesBelow fuel (.dir d)).flatMap fun f =>
          t.expectedIn m f fun file => (List.range file.lineCount).map (· + 1)
  | 0, d, hd, hfuel => by omega
  | fuel + 1, d, hd, hfuel => by
    obtain ⟨dir, hdir⟩ : ∃ dir, t.dirs[d]? = some dir := ⟨_, Array.getElem?_eq_getElem hd⟩
    rw [preorderUpTo, filesBelow, children_dir hdir]
    simp only [List.flatMap_cons, matchesAt, kind, List.nil_append, List.flatMap_assoc]
    refine List.flatMap_congr fun c hc => ?_
    rcases hwf.dirs d dir hdir c (by simpa using hc) with ⟨d', rfl, hd'⟩ | ⟨g, rfl, hg⟩
    · exact walk_dir hwf fuel d' (by omega) (by omega)
    · -- a file below the directory: its whole walk is its lines, and its root is its only root
      obtain ⟨file, hfile⟩ : ∃ file, t.files[g]? = some file := ⟨_, Array.getElem?_eq_getElem hg⟩
      have hgwf := hwf.files g file hfile
      have hsize := nodes_size_le hfile
      have hroot := hgwf.outline.root
      cases fuel with
      | zero => omega
      | succ fuel =>
        have hfiles : t.filesBelow (fuel + 1) (.unit g 0) = [g] := rfl
        rw [NodeId.fileRoot, walk_unit hfile hgwf (fuel + 1) 0 hroot.1 (by omega), hfiles,
          List.flatMap_singleton, expectedIn, hfile, hroot.2.2.1]
        simp only [Span.lines, Span.length]
        congr 1

/-- In a well-formed tree a search from any node finds what it should. -/
theorem findAll_eq_of_wellFormed (hwf : t.WellFormed) (n : NodeId) (m : Matcher) :
    t.findAll n m = t.expectedMatches n m := by
  cases n with
  | unit f k =>
    simp only [findAll, expectedMatches, filesBelow, List.flatMap_singleton,
      descendants_eq_preorder hwf, preorder, expectedIn]
    -- a node that is not in the tree has no descendant, and no line to scan
    cases hf : t.files[f]? with
    | none =>
      rw [preorderUpTo]
      simp [children, node?, hf, matchesAt, span?, kind]
    | some file =>
      have hfwf := hwf.files f file hf
      by_cases hk : k < file.nodes.size
      · rw [walk_unit hf hfwf _ k hk (by have := nodes_size_le hf; omega)]
        cases k with
        | zero =>
          simp only [scannedLines, hfwf.outline.root.2.2.1, Span.lines, Span.length]
          congr 1
        | succ k =>
          simp only [scannedLines, Array.getElem?_eq_getElem hk, entry, Array.getD_eq_getD_getElem?,
            Option.getD_some]
      · rw [preorderUpTo]
        have hnode : t.node? (.unit f k) = none := by simp [node?, hf, hk]
        simp only [children, hnode, Option.map_none, Option.getD_none, List.map_nil,
          List.flatMap_nil, List.flatMap_cons, List.append_nil, matchesAt, span?, kind]
        cases k with
        | zero => exact absurd hfwf.outline.root.1 hk
        | succ k =>
          simp [scannedLines, Array.getElem?_eq_none (Nat.le_of_not_lt hk)]
  | dir d =>
    simp only [findAll, expectedMatches, descendants_eq_preorder hwf, preorder]
    by_cases hd : d < t.dirs.size
    · have hdirs : t.dirs.size ≤ t.size := Nat.le_add_right _ _
      rw [walk_dir hwf _ d hd (by omega)]
      rfl
    · have hnone : t.dirs[d]? = none := Array.getElem?_eq_none (Nat.le_of_not_lt hd)
      rw [preorderUpTo, filesBelow]
      simp [children, hnone, matchesAt, kind]

end Tree

/-- A search in a tree read from text or built from a disk finds, file by file in pre-order, each
line of the searched span that has a match once, in increasing order, credited to the deepest
node holding it and to the dotted name of the nearest named node around that one. -/
theorem findAll_eq_expectedMatches {t : Tree}
    (ht : (∃ loader text, t = Tree.ofText loader text) ∨
      ∃ (b : Builder) (d : Disk) (cwd : List String) (root : String), b.build d cwd root = .ok t)
    (n : NodeId) (m : Matcher) : t.findAll n m = t.expectedMatches n m := by
  have hwf : t.WellFormed := by
    rcases ht with ⟨loader, text, rfl⟩ | ⟨b, d, cwd, root, hbuild⟩
    · exact Tree.ofText_wellFormed loader text
    · exact Builder.build_wellFormed hbuild
  exact Tree.findAll_eq_of_wellFormed hwf n m

/-- The search of the tree of a two-line text with a function, from its file node. -/
theorem findAll_ofText_eq_expectedMatches :
    ((∃ loader text, Tree.ofText {} "def f():\n    return 1\n" = Tree.ofText loader text) ∨
      ∃ (b : Builder) (d : Disk) (cwd : List String) (root : String),
        b.build d cwd root = .ok (Tree.ofText {} "def f():\n    return 1\n")) ∧
    (Tree.ofText {} "def f():\n    return 1\n").findAll (.fileRoot 0) default =
      (Tree.ofText {} "def f():\n    return 1\n").expectedMatches (.fileRoot 0) default :=
  ⟨.inl ⟨{}, _, rfl⟩, findAll_eq_expectedMatches (.inl ⟨{}, _, rfl⟩) _ _⟩

end Arbor
