import Arbor.Proofs.Tree.WellFormed
import Mathlib
/-!
Pre-order walks of well-formed trees.
-/

namespace Arbor

open Arbor.Outline

namespace Tree

variable {t : Tree} {f : Nat} {file : ParsedFile}

/-! ### Ranks and sizes -/

/-- How many steps up from a node a walk can take at most: for a directory the slots after it,
for a node inside a file its index above every directory, and none for an id naming no node. -/
def rank (t : Tree) : NodeId → Nat
  | .dir d => t.dirs.size - d
  | .unit f j => if t.contains (.unit f j) then t.dirs.size + 1 + j else 0

theorem contains_unit {f j : Nat} {file : ParsedFile} (hf : t.files[f]? = some file) :
    t.contains (.unit f j) = decide (j < file.nodes.size) := by
  simp [contains, hf]

theorem size_eq_sum (t : Tree) : t.size = t.dirs.size + (t.files.toList.map (·.nodes.size)).sum := by
  have hsum : ∀ (files : List ParsedFile) (acc : Nat),
      files.foldl (fun n f => n + f.nodes.size) acc = acc + (files.map (·.nodes.size)).sum := by
    intro files
    induction files with
    | nil => simp
    | cons g rest ih => intro acc; simp [ih, Nat.add_assoc]
  rw [size, ← Array.foldl_toList, hsum, Nat.zero_add]

/-- A file's nodes are among the tree's nodes. -/
theorem nodes_size_le (hf : t.files[f]? = some file) : file.nodes.size + t.dirs.size ≤ t.size := by
  have hmem : file.nodes.size ∈ t.files.toList.map (·.nodes.size) :=
    List.mem_map_of_mem (Array.mem_toList_iff.mpr (Array.mem_of_getElem? hf))
  -- the file's count is one term of the sum
  obtain ⟨before, after, hsplit⟩ := List.append_of_mem hmem
  rw [size_eq_sum, hsplit, List.sum_append_nat, List.sum_cons]
  omega

/-- The tree's size bounds the rank of every node. -/
theorem rank_le_size (x : NodeId) : t.rank x ≤ t.size := by
  have hdirs : t.dirs.size ≤ t.size := Nat.le_add_right _ _
  match x with
  | .dir d =>
    simp only [rank]
    omega
  | .unit f j =>
    cases hf : t.files[f]? with
    | none => simp [rank, contains, hf]
    | some file =>
      have := nodes_size_le hf
      simp only [rank, contains_unit hf]
      split
      · rename_i hj
        have : j < file.nodes.size := of_decide_eq_true hj
        omega
      · omega

/-- Every node of a tree: its directories, then the nodes of each file in order. -/
def nodeList (t : Tree) : List NodeId :=
  (List.range t.dirs.size).map .dir ++
    t.files.toList.zipIdx.flatMap fun (file, f) => (List.range file.nodes.size).map (.unit f)

theorem mem_nodeList {x : NodeId} (hx : t.contains x) : x ∈ t.nodeList := by
  match x with
  | .dir d => exact List.mem_append_left _ (List.mem_map.mpr ⟨d, by simpa [contains] using hx, rfl⟩)
  | .unit f j =>
    cases hf : t.files[f]? with
    | none => simp [contains, hf] at hx
    | some file =>
      have hj : j < file.nodes.size := by simpa [contains, hf] using hx
      refine List.mem_append_right _ (List.mem_flatMap.mpr ⟨(file, f), ?_, ?_⟩)
      · exact List.mem_zipIdx_iff_getElem?.mpr (by simpa using hf)
      · exact List.mem_map.mpr ⟨j, List.mem_range.mpr hj, rfl⟩

theorem length_nodeList (t : Tree) : t.nodeList.length = t.size := by
  have hfiles : (t.files.toList.zipIdx.map fun p => p.1.nodes.size) =
      t.files.toList.map (·.nodes.size) := by
    conv_rhs => rw [← List.zipIdx_map_fst 0 t.files.toList, List.map_map]
    rfl
  simp only [nodeList, List.length_append, List.length_map, List.length_range, List.length_flatMap,
    size_eq_sum]
  rw [← hfiles]

/-! ### Children and parents -/

section Links

variable (hwf : t.WellFormed)
include hwf

theorem rank_lt_of_mem_children {x c : NodeId} (hc : c ∈ t.children x) :
    t.contains c ∧ t.rank x < t.rank c := by
  match x with
  | .dir d =>
    cases hd : t.dirs[d]? with
    | none => simp [children, hd] at hc
    | some dir =>
      have hdl : d < t.dirs.size := (Array.getElem?_eq_some_iff.mp hd).1
      rw [children_dir hd] at hc
      rcases hwf.dirs d dir hd c (Array.mem_toList_iff.mp hc) with ⟨d', rfl, hlt⟩ | ⟨g, rfl, hg⟩
      · have hc' : t.contains (.dir d') := by simp [contains]; omega
        exact ⟨hc', by simp only [rank]; omega⟩
      · -- the root of a file is a node, ranked above every directory
        obtain ⟨file, hfile⟩ : ∃ file, t.files[g]? = some file := ⟨_, Array.getElem?_eq_getElem hg⟩
        have hc' : t.contains (.unit g 0) := by
          rw [contains_unit hfile, decide_eq_true_eq]
          exact (hwf.files g file hfile).outline.root.1
        refine ⟨hc', ?_⟩
        simp only [NodeId.fileRoot, rank, hc', if_true]
        omega
  | .unit g j =>
    obtain ⟨file, i, hfile, rfl, hi0, hi, hpar⟩ := mem_children_unit hwf hc
    obtain ⟨p, hp, hpi, -⟩ := (hwf.files g file hfile).outline.parent_listed i hi0 hi
    rw [hpar, Option.some_inj] at hp
    subst hp
    have hc' : t.contains (.unit g i) := by rw [contains_unit hfile]; simp [hi]
    have hx : t.contains (.unit g j) := by rw [contains_unit hfile]; simp; omega
    refine ⟨hc', ?_⟩
    simp only [rank, hc', hx, if_true]
    omega

theorem parent?_of_mem_children {x c : NodeId} (hc : c ∈ t.children x) : t.parent? c = some x := by
  match x with
  | .dir d =>
    cases hd : t.dirs[d]? with
    | none => simp [children, hd] at hc
    | some dir =>
      rw [children_dir hd] at hc
      exact hwf.listed_parent d dir hd c (Array.mem_toList_iff.mp hc)
  | .unit g j => exact parent?_of_mem_children_unit hwf hc

/-- A node is listed by the node it sits in. -/
theorem mem_children_of_parent? {x c : NodeId} (hc : t.parent? c = some x) : c ∈ t.children x := by
  match c, hc with
  | .dir d', hc =>
    obtain ⟨q, -, rfl⟩ := Option.map_eq_some_iff.mp hc
    obtain ⟨dir, hd, hmem⟩ := hwf.parent_listed _ q hc
    rw [children_dir hd]
    exact Array.mem_toList_iff.mpr hmem
  | .unit g 0, hc =>
    obtain ⟨q, -, rfl⟩ := Option.map_eq_some_iff.mp hc
    obtain ⟨dir, hd, hmem⟩ := hwf.parent_listed _ q hc
    rw [children_dir hd]
    exact Array.mem_toList_iff.mpr hmem
  | .unit g (j + 1), hc =>
    -- the outline lists a node among the children of the node it names as its parent
    obtain ⟨file, q, hfile, hj, hq, rfl⟩ := parent?_unit_succ_eq_some hc
    obtain ⟨p, hp, hpj, hcount⟩ := (hwf.files g file hfile).outline.parent_listed (j + 1) (by omega) hj
    rw [hq, Option.some_inj] at hp
    subst hp
    rw [children_unit hfile (by omega)]
    refine List.mem_map.mpr ⟨j + 1, Array.mem_toList_iff.mpr ?_, rfl⟩
    exact Array.count_pos_iff.mp (by omega)

/-- A node lists each of its children once. -/
theorem children_nodup (x : NodeId) : (t.children x).Nodup := by
  match x with
  | .dir d =>
    cases hd : t.dirs[d]? with
    | none => simp [children, hd]
    | some dir =>
      rw [children_dir hd]
      exact hwf.dirs_nodup d dir hd
  | .unit g j =>
    cases hfile : t.files[g]? with
    | none => simp [children, node?, hfile]
    | some file =>
      by_cases hj : j < file.nodes.size
      · -- each child names the node as its parent, which lists it exactly once
        have hout := (hwf.files g file hfile).outline
        rw [children_unit hfile hj]
        refine List.Nodup.map (fun a b h => (NodeId.unit.inj h).2) ?_
        refine List.nodup_iff_count_le_one.mpr fun i => ?_
        by_cases hi : i ∈ (entry file.nodes j).children
        · obtain ⟨hisize, hpar⟩ := hout.child_parent j i hj hi
          have hi0 : 0 < i := Nat.pos_of_ne_zero fun h0 => by
            subst h0
            rw [hout.root.2.2.2] at hpar
            cases hpar
          obtain ⟨p, hp, -, hcount⟩ := hout.parent_listed i hi0 hisize
          rw [hpar, Option.some_inj] at hp
          subst hp
          rw [Array.count_toList, hcount]
        · rw [List.count_eq_zero_of_not_mem (fun h => hi (Array.mem_toList_iff.mp h))]
          omega
      · simp [children, node?, hfile, Array.getElem?_eq_none (Nat.le_of_not_lt hj)]

/-- The parent of a node has a lower rank. -/
theorem rank_lt_of_parent? {x c : NodeId} (hc : t.parent? c = some x) : t.rank x < t.rank c :=
  (rank_lt_of_mem_children hwf (mem_children_of_parent? hwf hc)).2

theorem induction_children {P : NodeId → Prop} (h : ∀ x, (∀ c ∈ t.children x, P c) → P x)
    (x : NodeId) : P x := by
  -- the rank rises going down and is bounded by the size
  induction hm : t.size + 1 - t.rank x using Nat.strong_induction_on generalizing x with
  | _ m ih =>
    refine h x fun c hc => ih (t.size + 1 - t.rank c) ?_ c rfl
    have := (rank_lt_of_mem_children hwf hc).2
    have := rank_le_size (t := t) c
    omega

end Links

/-! ### Pre-order walks -/

/-- A node and its descendants in pre-order, descending at most `fuel` levels. -/
def preorderUpTo (t : Tree) : Nat → NodeId → List NodeId
  | 0, _ => []
  | fuel + 1, id => id :: (t.children id).flatMap (t.preorderUpTo fuel)

/-- A node and all its descendants in pre-order: the node, then the walks of its children in
stored order. -/
def preorder (t : Tree) (x : NodeId) : List NodeId := t.preorderUpTo (t.size + 1) x

section Preorder

variable (hwf : t.WellFormed)
include hwf

theorem preorderUpTo_congr_fuel : ∀ {n n' : Nat} {x : NodeId},
    t.size + 1 - t.rank x ≤ n → t.size + 1 - t.rank x ≤ n' →
      t.preorderUpTo n x = t.preorderUpTo n' x
  | 0, _, x, hn, _ => by have := rank_le_size (t := t) x; omega
  | _ + 1, 0, x, _, hn' => by have := rank_le_size (t := t) x; omega
  | n + 1, n' + 1, x, hn, hn' => by
    simp only [preorderUpTo]
    congr 1
    refine List.flatMap_congr fun c hc => ?_
    have := (rank_lt_of_mem_children hwf hc).2
    have := rank_le_size (t := t) c
    exact preorderUpTo_congr_fuel (by omega) (by omega)

/-- The pre-order walk of a node is the node, then the walks of its children. -/
theorem preorder_eq (x : NodeId) : t.preorder x = x :: (t.children x).flatMap t.preorder := by
  simp only [preorder, preorderUpTo]
  congr 1
  refine List.flatMap_congr fun c hc => ?_
  have := (rank_lt_of_mem_children hwf hc).2
  have := rank_le_size (t := t) c
  exact preorderUpTo_congr_fuel hwf (by omega) (by omega)

theorem mem_preorder {x y : NodeId} :
    y ∈ t.preorder x ↔ y = x ∨ ∃ c ∈ t.children x, y ∈ t.preorder c := by
  rw [preorder_eq hwf, List.mem_cons, List.mem_flatMap]

theorem mem_preorder_self (x : NodeId) : x ∈ t.preorder x :=
  (mem_preorder hwf).mpr (.inl rfl)

/-- A walk holds the walk of every node in it. -/
theorem mem_preorder_trans {x y z : NodeId} (hy : y ∈ t.preorder x) (hz : z ∈ t.preorder y) :
    z ∈ t.preorder x := by
  induction x using induction_children hwf with
  | _ x ih =>
    rcases (mem_preorder hwf).mp hy with rfl | ⟨c, hc, hyc⟩
    · exact hz
    · exact (mem_preorder hwf).mpr (.inr ⟨c, hc, ih c hc hyc⟩)

theorem rank_lt_of_mem_preorder {x y : NodeId} (hy : y ∈ t.preorder x) :
    y = x ∨ t.contains y ∧ t.rank x < t.rank y := by
  induction x using induction_children hwf with
  | _ x ih =>
    rcases (mem_preorder hwf).mp hy with rfl | ⟨c, hc, hyc⟩
    · exact .inl rfl
    · have hcx := rank_lt_of_mem_children hwf hc
      rcases ih c hc hyc with rfl | ⟨hy, hlt⟩
      · exact .inr hcx
      · exact .inr ⟨hy, by omega⟩

/-- A node below another sits in a node that is in the walk too. -/
theorem parent?_mem_preorder {x y : NodeId} (hy : y ∈ t.preorder x) (hne : y ≠ x) :
    ∃ p, t.parent? y = some p ∧ p ∈ t.preorder x := by
  induction x using induction_children hwf with
  | _ x ih =>
    rcases (mem_preorder hwf).mp hy with rfl | ⟨c, hc, hyc⟩
    · exact absurd rfl hne
    · by_cases hyc' : y = c
      · subst hyc'
        exact ⟨x, parent?_of_mem_children hwf hc, mem_preorder_self hwf x⟩
      · obtain ⟨p, hp, hpc⟩ := ih c hc hyc hyc'
        exact ⟨p, hp, (mem_preorder hwf).mpr (.inr ⟨c, hc, hpc⟩)⟩

theorem preorder_disjoint {x c₁ c₂ : NodeId} (hc₁ : c₁ ∈ t.children x) (hc₂ : c₂ ∈ t.children x)
    (hne : c₁ ≠ c₂) : ∀ y, y ∈ t.preorder c₁ → y ∉ t.preorder c₂ := by
  -- a child in the walk of its sibling would put their common parent below the sibling
  have hsib : ∀ {a b : NodeId}, a ∈ t.children x → b ∈ t.children x → a ≠ b →
      a ∉ t.preorder b := by
    intro a b ha hb hab hmem
    obtain ⟨p, hp, hpb⟩ := parent?_mem_preorder hwf hmem hab
    rw [parent?_of_mem_children hwf ha, Option.some_inj] at hp
    subst hp
    have hbx := (rank_lt_of_mem_children hwf hb).2
    rcases rank_lt_of_mem_preorder hwf hpb with rfl | ⟨-, hlt⟩ <;> omega
  -- otherwise the parent of a shared node is shared, and it has a lower rank
  intro y
  induction hm : t.rank y using Nat.strong_induction_on generalizing y with
  | _ m ih =>
    intro hy₁ hy₂
    by_cases h₁ : y = c₁
    · exact hsib hc₁ hc₂ hne (h₁ ▸ hy₂)
    by_cases h₂ : y = c₂
    · exact hsib hc₂ hc₁ (Ne.symm hne) (h₂ ▸ hy₁)
    obtain ⟨p, hp, hp₁⟩ := parent?_mem_preorder hwf hy₁ h₁
    obtain ⟨p', hp', hp₂⟩ := parent?_mem_preorder hwf hy₂ h₂
    rw [hp, Option.some_inj] at hp'
    subst hp'
    exact ih (t.rank p) (hm ▸ rank_lt_of_parent? hwf hp) p rfl hp₁ hp₂

/-- A pre-order walk visits each node once. -/
theorem preorder_nodup (x : NodeId) : (t.preorder x).Nodup := by
  induction x using induction_children hwf with
  | _ x ih =>
    rw [preorder_eq hwf, List.nodup_cons, List.nodup_flatMap]
    refine ⟨fun hx => ?_, ih, (children_nodup hwf x).imp_of_mem fun ha hb hne => ?_⟩
    · -- the node ranks below everything under its children
      obtain ⟨c, hc, hxc⟩ := List.mem_flatMap.mp hx
      have hcx := (rank_lt_of_mem_children hwf hc).2
      rcases rank_lt_of_mem_preorder hwf hxc with rfl | ⟨-, hlt⟩ <;> omega
    · exact fun y hy₁ hy₂ => preorder_disjoint hwf ha hb hne y hy₁ hy₂

theorem length_preorder_le (x : NodeId) : (t.preorder x).length ≤ t.size + 1 := by
  have hsub : t.preorder x ⊆ x :: t.nodeList := by
    intro y hy
    rcases rank_lt_of_mem_preorder hwf hy with rfl | ⟨hy, -⟩
    · exact List.mem_cons_self
    · exact List.mem_cons_of_mem _ (mem_nodeList hy)
  calc (t.preorder x).length
      ≤ (x :: t.nodeList).length := (List.subperm_of_subset (preorder_nodup hwf x) hsub).length_le
    _ = t.size + 1 := by rw [List.length_cons, length_nodeList]

theorem walkStack_eq_flatMap : ∀ (fuel : Nat) (stack : List NodeId),
    (stack.flatMap t.preorder).length ≤ fuel → t.walkStack fuel stack = stack.flatMap t.preorder
  | 0, [], _ => rfl
  | 0, x :: rest, h => by
    rw [List.flatMap_cons, preorder_eq hwf] at h
    simp at h
  | _ + 1, [], _ => rfl
  | fuel + 1, x :: rest, h => by
    -- popping the node and pushing its children leaves the walks of the children, then the rest
    have hrest : (t.children x ++ rest).flatMap t.preorder =
        (t.children x).flatMap t.preorder ++ rest.flatMap t.preorder := List.flatMap_append
    rw [List.flatMap_cons, preorder_eq hwf, List.cons_append, ← hrest] at h ⊢
    rw [walkStack, walkStack_eq_flatMap fuel _ (by simpa using h)]

/-- The descendants of a node in a well-formed tree are its pre-order walk. -/
theorem descendants_eq_preorder (x : NodeId) : t.descendants x = t.preorder x := by
  rw [descendants, walkStack_eq_flatMap hwf _ _ (by simpa using length_preorder_le hwf x)]
  simp

end Preorder

end Tree

end Arbor
