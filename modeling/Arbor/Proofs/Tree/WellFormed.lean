import Arbor.Proofs.Layout.Pieces
import Arbor.Proofs.Outline.Names
/-!
Well-formed trees.
-/

namespace Arbor

open Arbor.Outline Arbor.Layout

/-- A file whose lines start where the lines of its text do, and whose outline tiles those lines,
has no directory node and gives plain names. -/
structure ParsedFile.WellFormed (file : ParsedFile) : Prop where
  outline : IsOutline file.lineCount file.nodes
  not_directory : ∀ i, i < file.nodes.size → (entry file.nodes i).kind ≠ .directory
  starts_eq : file.starts = (lineStarts file.text).toArray
  names : PlainNames file.nodes

/-- A child that directory `d` may list in a tree of `files` files: a directory made before it, or
the root of a file. -/
def DirChild (d files : Nat) (c : NodeId) : Prop :=
  (∃ d', c = .dir d' ∧ d' < d) ∨ ∃ f, c = .fileRoot f ∧ f < files

/-- A tree whose files are well formed and whose directories list earlier directories and roots
of files. -/
structure Tree.WellFormed (t : Tree) : Prop where
  files : ∀ (f : Nat) (file : ParsedFile), t.files[f]? = some file → file.WellFormed
  dirs : ∀ (d : Nat) (dir : DirEntry), t.dirs[d]? = some dir → ∀ c ∈ dir.children,
    DirChild d t.files.size c
  dirs_nodup : ∀ (d : Nat) (dir : DirEntry), t.dirs[d]? = some dir → dir.children.toList.Nodup
  listed_parent : ∀ (d : Nat) (dir : DirEntry), t.dirs[d]? = some dir → ∀ c ∈ dir.children,
    t.parent? c = some (.dir d)
  parent_listed : ∀ (x : NodeId) (d : Nat), t.parent? x = some (.dir d) →
    ∃ dir, t.dirs[d]? = some dir ∧ x ∈ dir.children

def Tree.Rooted (t : Tree) : Prop := ∀ x, t.contains x → t.parent? x = none → x = t.root

theorem length_physicalLines (text : String) :
    (physicalLines text).length = (lineStarts text).length := by
  simp [physicalLines, length_lineStarts]

theorem wholeFileNodes_isOutline (name text : String) :
    IsOutline (physicalLines text).length (wholeFileNodes name text) := by
  generalize hN : (physicalLines text).length = N
  have hsize : (wholeFileNodes name text).size = 2 := rfl
  have h0 : entry (wholeFileNodes name text) 0 =
      { kind := .file, name, span := ⟨1, N⟩, indent := 0, children := #[1], parent := none } := by
    simp [entry, wholeFileNodes, hN]
  have h1 : entry (wholeFileNodes name text) 1 =
      { kind := .content, name := "", span := ⟨1, N⟩, indent := 0, parent := some 0 } := by
    simp [entry, wholeFileNodes, hN]
  -- each field of an outline is checked at the two nodes there are
  refine ⟨?root, ?parent_listed, ?child_parent, ?children_tile, ?empty_file, ?content_leaf⟩
  case root => exact ⟨by omega, by rw [h0], by rw [h0], by rw [h0]⟩
  case parent_listed =>
    intro i hi0 hi
    obtain rfl : i = 1 := by omega
    exact ⟨0, by rw [h1], Nat.one_pos, by simp [h0]⟩
  case child_parent =>
    intro p c hp hc
    obtain rfl | rfl : p = 0 ∨ p = 1 := by omega
    · rw [h0] at hc
      obtain rfl : c = 1 := by simpa using hc
      exact ⟨by omega, by rw [h1]⟩
    · rw [h1] at hc
      simp at hc
  case children_tile =>
    intro i hi hcase
    obtain rfl | rfl : i = 0 ∨ i = 1 := by omega
    · have hN0 : 0 < N := by simpa using hcase
      simp only [h0, childSpans, spanAt, h1, Tiles, List.map_cons, List.map_nil]
      exact ⟨rfl, hN0, rfl⟩
    · rw [h1] at hcase
      simp at hcase
  case empty_file =>
    intro hN0
    subst hN0
    exact ⟨1, by rw [h0], by rw [h1], by rw [h1]; rfl⟩
  case content_leaf =>
    intro i hi hk
    obtain rfl | rfl : i = 0 ∨ i = 1 := by omega
    · rw [h0] at hk
      cases hk
    · rw [h1]

/-- A file made from any text is well formed, outlined or kept whole. -/
theorem ParsedFile.make_wellFormed (isProperty : String → Bool) (path name text : String)
    (structured : Bool) : (ParsedFile.make isProperty path name text structured).WellFormed := by
  have hcount : (ParsedFile.make isProperty path name text structured).lineCount =
      (physicalLines text).length := by
    simp [ParsedFile.make, ParsedFile.lineCount, length_physicalLines]
  refine ⟨?_, ?_, rfl, make_plainNames isProperty path name text structured⟩
  · rw [hcount]
    cases structured
    · exact wholeFileNodes_isOutline name text
    · exact parse_outline isProperty name text
  · intro i hi
    cases structured
    · simp only [ParsedFile.make, Bool.false_eq_true, ↓reduceIte] at hi ⊢
      obtain rfl | rfl : i = 0 ∨ i = 1 := by
        have : (wholeFileNodes name text).size = 2 := rfl
        omega
      all_goals simp [entry, wholeFileNodes]
    · exact parse_not_directory isProperty name text hi

/-- A node of a file past its file node never sits in a directory. -/
theorem Tree.parent?_unit_succ_ne_dir (t : Tree) (f j d : Nat) :
    t.parent? (.unit f (j + 1)) ≠ some (.dir d) := by
  intro h
  obtain ⟨q, -, hq⟩ := Option.map_eq_some_iff.mp h
  cases hq

/-- The tree of one text is well formed. -/
theorem Tree.ofText_wellFormed (loader : Loader) (text : String) :
    (Tree.ofText loader text).WellFormed := by
  have hdirs : ∀ (d : Nat) (dir : DirEntry), (Tree.ofText loader text).dirs[d]? = some dir → False :=
    fun d dir hd => by simp [Tree.ofText] at hd
  refine ⟨fun f file hf => ?_, fun d dir hd => (hdirs d dir hd).elim,
    fun d dir hd => (hdirs d dir hd).elim, fun d dir hd => (hdirs d dir hd).elim,
    fun x d hx => ?_⟩
  · obtain rfl : loader.parseText "" "" text true = file := by
      cases f <;> simp_all [Tree.ofText]
    exact ParsedFile.make_wellFormed _ _ _ _ _
  · -- the one file sits in no directory, and a node inside it has a node for parent
    match x with
    | .dir d' => simp [Tree.parent?, Tree.ofText] at hx
    | .unit f 0 =>
      cases f <;> simp [Tree.parent?, Tree.ofText, Loader.parseText, ParsedFile.make] at hx
    | .unit f (j + 1) => exact (Tree.parent?_unit_succ_ne_dir _ f j d hx).elim

namespace Tree

variable {t : Tree} {f j : Nat} {file : ParsedFile}

theorem node?_unit (hf : t.files[f]? = some file) (hj : j < file.nodes.size) :
    t.node? (.unit f j) = some (entry file.nodes j) := by
  simp [node?, hf, entry, hj]

theorem kind_unit (hf : t.files[f]? = some file) (hj : j < file.nodes.size) :
    t.kind (.unit f j) = (entry file.nodes j).kind := by
  simp [kind, node?_unit hf hj]

theorem name_unit (hf : t.files[f]? = some file) (hj : j < file.nodes.size) :
    t.name (.unit f j) = (entry file.nodes j).name := by
  simp [name, node?_unit hf hj]

theorem span?_unit (hf : t.files[f]? = some file) (hj : j < file.nodes.size) :
    t.span? (.unit f j) = some (entry file.nodes j).span := by
  simp [span?, node?_unit hf hj]

theorem children_unit (hf : t.files[f]? = some file) (hj : j < file.nodes.size) :
    t.children (.unit f j) = (entry file.nodes j).children.toList.map (.unit f) := by
  simp [children, node?_unit hf hj]

theorem children_dir {d : Nat} {dir : DirEntry} (hd : t.dirs[d]? = some dir) :
    t.children (.dir d) = dir.children.toList := by
  simp [children, hd]

theorem exists_eq_unit_of_mem_children {j : Nat} {c : NodeId} (h : c ∈ t.children (.unit f j)) :
    ∃ i, c = .unit f i := by
  simp only [children, List.mem_map] at h
  obtain ⟨i, -, rfl⟩ := h
  exact ⟨i, rfl⟩

/-- A child of a node of a file is a later node of that file that names it as its parent. -/
theorem mem_children_unit (hwf : t.WellFormed) {j : Nat} {c : NodeId}
    (h : c ∈ t.children (.unit f j)) :
    ∃ file i, t.files[f]? = some file ∧ c = .unit f i ∧ 0 < i ∧ i < file.nodes.size ∧
      (entry file.nodes i).parent = some j := by
  cases hf : t.files[f]? with
  | none => simp [children, node?, hf] at h
  | some file =>
    by_cases hj : j < file.nodes.size
    · rw [children_unit hf hj] at h
      obtain ⟨i, hi, rfl⟩ := List.mem_map.mp h
      have hout := (hwf.files f file hf).outline
      obtain ⟨hisize, hpar⟩ := hout.child_parent j i hj (Array.mem_toList_iff.mp hi)
      -- the file node has no parent, so a child lies past it
      have hi0 : 0 < i := Nat.pos_of_ne_zero fun h0 => by
        subst h0
        rw [hout.root.2.2.2] at hpar
        cases hpar
      exact ⟨file, i, rfl, rfl, hi0, hisize, hpar⟩
    · simp [children, node?, hf, Array.getElem?_eq_none (Nat.le_of_not_lt hj)] at h

/-- A node past a file's node has the parent its entry names. -/
theorem parent?_unit {file : ParsedFile} (hf : t.files[f]? = some file) {i p : Nat} (hi0 : 0 < i)
    (hi : i < file.nodes.size) (hp : (entry file.nodes i).parent = some p) :
    t.parent? (.unit f i) = some (.unit f p) := by
  obtain ⟨i, rfl⟩ : ∃ k, i = k + 1 := ⟨i - 1, by omega⟩
  have hnode : file.nodes[i + 1]? = some (entry file.nodes (i + 1)) := by simp [entry, hi]
  simp [parent?, hf, hnode, hp]

theorem parent?_of_mem_children_unit (hwf : t.WellFormed) {j : Nat} {c : NodeId}
    (h : c ∈ t.children (.unit f j)) : t.parent? c = some (.unit f j) := by
  obtain ⟨file, i, hf, rfl, hi0, hi, hpar⟩ := mem_children_unit hwf h
  exact parent?_unit hf hi0 hi hpar

/-- The parent of a node past a file's node is the node of that file its entry names. -/
theorem parent?_unit_succ_eq_some {f j : Nat} {p : NodeId} (h : t.parent? (.unit f (j + 1)) = some p) :
    ∃ file q, t.files[f]? = some file ∧ j + 1 < file.nodes.size ∧
      (entry file.nodes (j + 1)).parent = some q ∧ p = .unit f q := by
  obtain ⟨q, hq, rfl⟩ := Option.map_eq_some_iff.mp h
  obtain ⟨file, hf, hq⟩ := Option.bind_eq_some_iff.mp hq
  obtain ⟨node, hn, hnq⟩ := Option.bind_eq_some_iff.mp hq
  obtain ⟨hj, hnode⟩ := Array.getElem?_eq_some_iff.mp hn
  exact ⟨file, q, hf, hj, by simp [entry, hj, hnode, hnq], rfl⟩

/-- A node of a file past its file node sits in an earlier node of the file. -/
theorem exists_parent?_unit (hwf : t.WellFormed) (hf : t.files[f]? = some file) {i : Nat}
    (hi0 : 0 < i) (hi : i < file.nodes.size) :
    ∃ p, p < i ∧ t.parent? (.unit f i) = some (.unit f p) := by
  obtain ⟨p, hp, hpi, -⟩ := (hwf.files f file hf).outline.parent_listed i hi0 hi
  exact ⟨p, hpi, parent?_unit hf hi0 hi hp⟩

/-- The root of the tree of one text is its only node that sits in nothing. -/
theorem ofText_rooted (loader : Loader) (text : String) : (Tree.ofText loader text).Rooted := by
  intro x hx hnone
  have hf : (Tree.ofText loader text).files[0]? = some (loader.parseText "" "" text true) := rfl
  match x with
  | .dir d => simp [contains, Tree.ofText] at hx
  | .unit g j =>
    obtain rfl : g = 0 := by
      cases g with
      | zero => rfl
      | succ g => simp [contains, Tree.ofText] at hx
    cases j with
    | zero => rfl
    | succ j =>
      have hj : j + 1 < (loader.parseText "" "" text true).nodes.size := by
        simpa [contains, hf] using hx
      obtain ⟨p, -, hp⟩ := exists_parent?_unit (ofText_wellFormed loader text) hf (by omega) hj
      rw [hp] at hnone
      cases hnone

end Tree

end Arbor
