import Arbor.Proofs.Search.FindAll
/-!
Walks up and down a tree end before their fuel does.
-/

namespace Arbor

open Arbor.Outline Arbor.Disk

/-- Tables whose directories each sit in a directory of a later slot, and whose files each sit in
a directory of the table. -/
structure ParentsAbove (ds : Array DirEntry) (fs : Array ParsedFile) : Prop where
  dirs : ∀ (d : Nat) (dir : DirEntry), ds[d]? = some dir → ∀ p, dir.parent = some p →
    d < p ∧ p < ds.size
  files : ∀ (f : Nat) (file : ParsedFile), fs[f]? = some file → ∀ p, file.parent = some p →
    p < ds.size

/-- A directory, or a node of file `f`: where the walks up from a node of `f` go. -/
def NodeId.InFileOrDir (f : Nat) : NodeId → Prop
  | .dir _ => True
  | .unit g _ => g = f

namespace Tree

variable {t t' : Tree}

theorem rank_parent (hwf : t.WellFormed) (hpa : ParentsAbove t.dirs t.files) {x p : NodeId}
    (h : t.parent? x = some p) : t.rank p < t.rank x := by
  match x with
  | .dir d =>
    obtain ⟨q, hq, rfl⟩ := Option.map_eq_some_iff.mp h
    obtain ⟨dir, hd, hdq⟩ := Option.bind_eq_some_iff.mp hq
    have := hpa.dirs d dir hd q hdq
    simp only [rank]
    omega
  | .unit f 0 =>
    obtain ⟨q, hq, rfl⟩ := Option.map_eq_some_iff.mp h
    obtain ⟨file, hf, hfq⟩ := Option.bind_eq_some_iff.mp hq
    have := hpa.files f file hf q hfq
    have hroot := (hwf.files f file hf).outline.root.1
    simp only [rank, contains_unit hf, hroot, decide_true, if_true]
    omega
  | .unit f (j + 1) =>
    obtain ⟨q, hq, rfl⟩ := Option.map_eq_some_iff.mp h
    obtain ⟨file, hf, hq⟩ := Option.bind_eq_some_iff.mp hq
    obtain ⟨node, hn, hnq⟩ := Option.bind_eq_some_iff.mp hq
    obtain ⟨hj, hnode⟩ := Array.getElem?_eq_some_iff.mp hn
    -- the outline lists each node after its parent
    obtain ⟨q', hq', hlt, -⟩ := (hwf.files f file hf).outline.parent_listed (j + 1) (by omega) hj
    have hentry : entry file.nodes (j + 1) = node := by simp [entry, hj, hnode]
    rw [hentry, hnq, Option.some_inj] at hq'
    subst hq'
    simp only [rank, contains_unit hf, hj, decide_true, if_true, show q < file.nodes.size by omega]
    omega

theorem parent?_eq_none_of_rank_eq_zero (hwf : t.WellFormed) {x : NodeId} (h : t.rank x = 0) :
    t.parent? x = none := by
  match x with
  | .dir d =>
    have hd : t.dirs[d]? = none := Array.getElem?_eq_none (by simp only [rank] at h; omega)
    simp [parent?, hd]
  | .unit f j =>
    cases hf : t.files[f]? with
    | none => cases j <;> simp [parent?, hf]
    | some file =>
      have hj : ¬j < file.nodes.size := by
        intro hj
        simp [rank, contains_unit hf, hj] at h
      cases j with
      | zero => exact absurd (hwf.files f file hf).outline.root.1 hj
      | succ j => simp [parent?, hf, Array.getElem?_eq_none (Nat.le_of_not_lt hj)]

section Fuel

variable (hwf : t.WellFormed) (hpa : ParentsAbove t.dirs t.files)
include hwf hpa

theorem ancestorsUpTo_congr_fuel :
    ∀ {n n' : Nat} {x : NodeId}, t.rank x ≤ n → t.rank x ≤ n' →
      t.ancestorsUpTo n x = t.ancestorsUpTo n' x := by
  intro n
  induction n with
  | zero =>
    intro n' x hn hn'
    cases n' with
    | zero => rfl
    | succ n' => simp [ancestorsUpTo, parent?_eq_none_of_rank_eq_zero hwf (Nat.le_zero.mp hn)]
  | succ n ih =>
    intro n' x hn hn'
    cases n' with
    | zero => simp [ancestorsUpTo, parent?_eq_none_of_rank_eq_zero hwf (Nat.le_zero.mp hn')]
    | succ n' =>
      simp only [ancestorsUpTo]
      split
      · rename_i p hp
        have := rank_parent hwf hpa hp
        rw [ih (by omega) (show t.rank p ≤ n' by omega)]
      · rfl

theorem ownerUpTo_congr_fuel :
    ∀ {n n' : Nat} {x : NodeId}, t.rank x ≤ n → t.rank x ≤ n' →
      t.ownerUpTo n x = t.ownerUpTo n' x := by
  intro n
  induction n with
  | zero =>
    intro n' x hn hn'
    cases n' with
    | zero => rfl
    | succ n' => simp [ownerUpTo, parent?_eq_none_of_rank_eq_zero hwf (Nat.le_zero.mp hn)]
  | succ n ih =>
    intro n' x hn hn'
    cases n' with
    | zero => simp [ownerUpTo, parent?_eq_none_of_rank_eq_zero hwf (Nat.le_zero.mp hn')]
    | succ n' =>
      simp only [ownerUpTo]
      split
      · split
        · rename_i p hp
          have := rank_parent hwf hpa hp
          exact ih (by omega) (show t.rank p ≤ n' by omega)
        · rfl
      · rfl

/-- The track of a node is its parent's track followed by the node. -/
theorem track_of_parent? {x p : NodeId} (h : t.parent? x = some p) :
    t.track x = t.track p ++ [x] := by
  have hp := rank_parent hwf hpa h
  have hx := rank_le_size (t := t) x
  have hfuel : t.ancestorsUpTo t.size p = t.ancestorsUpTo (t.size + 1) p :=
    ancestorsUpTo_congr_fuel hwf hpa (by omega) (by omega)
  rw [track, ancestorsUpTo, h]
  simp only [hfuel, track]

/-- Following parent links down from `x` extends the track of `x` by the nodes passed. -/
theorem track_getLast_of_isChain {x : NodeId} {as : List NodeId}
    (h : (x :: as).IsChain fun a b => t.parent? b = some a) :
    t.track ((x :: as).getLast (List.cons_ne_nil x as)) = t.track x ++ as := by
  induction as generalizing x with
  | nil => simp
  | cons a as ih =>
    rw [List.isChain_cons_cons] at h
    rw [List.getLast_cons (List.cons_ne_nil a as), ih h.2, track_of_parent? hwf hpa h.1,
      List.append_assoc, List.singleton_append]

end Fuel

/-- A node without a parent is the whole of its track. -/
theorem track_of_parent?_eq_none {x : NodeId} (h : t.parent? x = none) : t.track x = [x] := by
  simp [track, ancestorsUpTo, h]

theorem kind_ne_content_of_parent? (hwf : t.WellFormed) {x p : NodeId} (h : t.parent? x = some p) :
    t.kind p ≠ .content := by
  match x with
  | .dir _ =>
    obtain ⟨q, -, rfl⟩ := Option.map_eq_some_iff.mp h
    simp [kind]
  | .unit _ 0 =>
    obtain ⟨q, -, rfl⟩ := Option.map_eq_some_iff.mp h
    simp [kind]
  | .unit f (j + 1) =>
    obtain ⟨file, q, hf, hj, hq, rfl⟩ := parent?_unit_succ_eq_some h
    have hout := (hwf.files f file hf).outline
    obtain ⟨q', hq', hlt, hcount⟩ := hout.parent_listed (j + 1) (by omega) hj
    obtain rfl : q' = q := Option.some_inj.mp (hq'.symm.trans hq)
    have hsize : q' < file.nodes.size := by omega
    -- the parent lists the node among its children, so it is no leaf
    rw [kind_unit hf hsize]
    intro hk
    rw [hout.content_leaf q' hsize hk] at hcount
    simp at hcount

theorem mem_ancestorsUpTo_parent :
    ∀ {n : Nat} {x a : NodeId}, a ∈ t.ancestorsUpTo n x → ∃ y, t.parent? y = some a := by
  intro n
  induction n with
  | zero => intro x a ha; simp [ancestorsUpTo] at ha
  | succ n ih =>
    intro x a ha
    simp only [ancestorsUpTo] at ha
    split at ha
    · rename_i p hp
      rcases List.mem_append.mp ha with ha | ha
      · exact ih ha
      · exact ⟨x, by rw [hp, List.mem_singleton.mp ha]⟩
    · cases ha

/-- Above a directory or the node of a file there are only directories. -/
theorem mem_ancestorsUpTo_dir :
    ∀ {n : Nat} {x a : NodeId}, ((∃ d, x = .dir d) ∨ ∃ f, x = .fileRoot f) →
      a ∈ t.ancestorsUpTo n x → ∃ d, a = .dir d := by
  intro n
  induction n with
  | zero => intro x a _ ha; simp [ancestorsUpTo] at ha
  | succ n ih =>
    intro x a hx ha
    simp only [ancestorsUpTo] at ha
    split at ha
    · rename_i p hp
      -- the parent of a directory or of a file's node is a directory
      have hdir : ∃ d, p = .dir d := by
        rcases hx with ⟨d, rfl⟩ | ⟨f, rfl⟩ <;>
          obtain ⟨q, -, rfl⟩ := Option.map_eq_some_iff.mp hp <;> exact ⟨q, rfl⟩
      rcases List.mem_append.mp ha with ha | ha
      · exact ih (.inl hdir) ha
      · rw [List.mem_singleton.mp ha]
        exact hdir
    · cases ha

/-- Every node on a track before its end is not content. -/
theorem kind_ne_content_of_mem_track (hwf : t.WellFormed) {x a : NodeId} (ha : a ∈ t.track x)
    (hne : a ≠ x) : t.kind a ≠ .content := by
  rcases List.mem_append.mp ha with ha | ha
  · obtain ⟨y, hy⟩ := mem_ancestorsUpTo_parent ha
    exact kind_ne_content_of_parent? hwf hy
  · exact absurd (List.mem_singleton.mp ha) hne

theorem filesBelow_congr_fuel (hwf : t.WellFormed) :
    ∀ {n n' d : Nat}, d + 2 ≤ n → d + 2 ≤ n' →
      t.filesBelow n (.dir d) = t.filesBelow n' (.dir d) := by
  intro n
  induction n with
  | zero => intro n' d hn; omega
  | succ n ih =>
    intro n' d hn hn'
    obtain ⟨n', rfl⟩ : ∃ k, n' = k + 1 := ⟨n' - 1, by omega⟩
    simp only [filesBelow]
    cases hd : t.dirs[d]? with
    | none => simp [children, hd]
    | some dir =>
      rw [children_dir hd]
      refine List.flatMap_congr fun c hc => ?_
      -- a directory lists earlier directories and roots of files
      rcases hwf.dirs d dir hd c (Array.mem_toList_iff.mp hc) with ⟨d', rfl, hd'⟩ | ⟨g, rfl, -⟩
      · exact ih (by omega) (by omega)
      · obtain ⟨n, rfl⟩ : ∃ k, n = k + 1 := ⟨n - 1, by omega⟩
        obtain ⟨n', rfl⟩ : ∃ k, n' = k + 1 := ⟨n' - 1, by omega⟩
        rfl

theorem parent?_inFileOrDir {f : Nat} {x p : NodeId} (h : t.parent? x = some p)
    (hx : x.InFileOrDir f) : p.InFileOrDir f := by
  match x, hx with
  | .dir _, _ =>
    obtain ⟨q, -, rfl⟩ := Option.map_eq_some_iff.mp h
    trivial
  | .unit _ 0, _ =>
    obtain ⟨q, -, rfl⟩ := Option.map_eq_some_iff.mp h
    trivial
  | .unit _ (_ + 1), hx =>
    obtain ⟨q, -, rfl⟩ := Option.map_eq_some_iff.mp h
    exact hx

theorem mem_ancestorsUpTo_inFileOrDir {f : Nat} :
    ∀ {n : Nat} {x a : NodeId}, x.InFileOrDir f → a ∈ t.ancestorsUpTo n x → a.InFileOrDir f := by
  intro n
  induction n with
  | zero => intro x a _ ha; simp [ancestorsUpTo] at ha
  | succ n ih =>
    intro x a hx ha
    simp only [ancestorsUpTo] at ha
    split at ha
    · rename_i p hp
      rcases List.mem_append.mp ha with ha | ha
      · exact ih (parent?_inFileOrDir hp hx) ha
      · rw [List.mem_singleton.mp ha]
        exact parent?_inFileOrDir hp hx
    · cases ha

theorem ownerUpTo_inFileOrDir {f : Nat} :
    ∀ {n : Nat} {x : NodeId}, x.InFileOrDir f → (t.ownerUpTo n x).InFileOrDir f := by
  intro n
  induction n with
  | zero => intro x hx; exact hx
  | succ n ih =>
    intro x hx
    simp only [ownerUpTo]
    split
    · split
      · rename_i p hp
        exact ih (parent?_inFileOrDir hp hx)
      · exact hx
    · exact hx

section Congr

/-! ### Two trees that share their directories and one file -/

variable {f : Nat} (hd : t.dirs = t'.dirs) (hf : t.files[f]? = t'.files[f]?)
include hd hf

theorem parent?_congr {x : NodeId} (hx : x.InFileOrDir f) : t.parent? x = t'.parent? x := by
  match x, hx with
  | .dir _, _ => simp [parent?, hd]
  | .unit _ 0, rfl => simp [parent?, hf]
  | .unit _ (_ + 1), rfl => simp [parent?, hf]

omit hd in
theorem kind_congr {x : NodeId} (hx : x.InFileOrDir f) : t.kind x = t'.kind x := by
  match x, hx with
  | .dir _, _ => rfl
  | .unit _ _, rfl => simp [kind, node?, hf]

theorem name_congr {x : NodeId} (hx : x.InFileOrDir f) : t.name x = t'.name x := by
  match x, hx with
  | .dir _, _ => simp [name, hd]
  | .unit _ _, rfl => simp [name, node?, hf]

theorem rank_congr {x : NodeId} (hx : x.InFileOrDir f) : t.rank x = t'.rank x := by
  match x, hx with
  | .dir _, _ => simp [rank, hd]
  | .unit _ j, rfl =>
    have hc : t.contains (.unit f j) = t'.contains (.unit f j) := by simp [contains, hf]
    simp only [rank, hc, hd]

theorem ancestorsUpTo_congr :
    ∀ {n : Nat} {x : NodeId}, x.InFileOrDir f → t.ancestorsUpTo n x = t'.ancestorsUpTo n x := by
  intro n
  induction n with
  | zero => intro x _; rfl
  | succ n ih =>
    intro x hx
    simp only [ancestorsUpTo, parent?_congr hd hf hx]
    split
    · rename_i p hp
      rw [ih (parent?_inFileOrDir hp hx)]
    · rfl

theorem ownerUpTo_congr :
    ∀ {n : Nat} {x : NodeId}, x.InFileOrDir f → t.ownerUpTo n x = t'.ownerUpTo n x := by
  intro n
  induction n with
  | zero => intro x _; rfl
  | succ n ih =>
    intro x hx
    simp only [ownerUpTo, parent?_congr hd hf hx, kind_congr hf hx]
    split
    · split
      · rename_i p hp
        exact ih (parent?_inFileOrDir hp hx)
      · rfl
    · rfl

theorem rank_le_sizes {x : NodeId} (hx : x.InFileOrDir f) :
    t.rank x ≤ t.size + 1 ∧ t.rank x ≤ t'.size + 1 := by
  have h := rank_le_size (t := t) x
  have h' := rank_le_size (t := t') x
  rw [← rank_congr hd hf hx] at h'
  omega

variable (hwf : t.WellFormed) (hpa : ParentsAbove t.dirs t.files)
include hwf hpa

theorem track_congr {x : NodeId} (hx : x.InFileOrDir f) : t.track x = t'.track x := by
  obtain ⟨hn, hn'⟩ := rank_le_sizes hd hf hx
  rw [track, track, ← ancestorsUpTo_congr hd hf hx, ancestorsUpTo_congr_fuel hwf hpa hn hn']

theorem owner_congr {x : NodeId} (hx : x.InFileOrDir f) : t.owner x = t'.owner x := by
  obtain ⟨hn, hn'⟩ := rank_le_sizes hd hf hx
  rw [owner, owner, ← ownerUpTo_congr hd hf hx, ownerUpTo_congr_fuel hwf hpa hn hn']

theorem absoluteName_congr {x : NodeId} (hx : x.InFileOrDir f) :
    t.absoluteName x = t'.absoluteName x := by
  rw [absoluteName, absoluteName, track_congr hd hf hwf hpa hx]
  congr 2
  -- every node on the track is a directory or a node of `f`
  refine List.map_congr_left fun a ha => name_congr hd hf ?_
  rcases List.mem_append.mp ha with ha | ha
  · exact mem_ancestorsUpTo_inFileOrDir hx ha
  · rw [List.mem_singleton.mp ha]
    exact hx

theorem expectedIn_congr (m : Pattern.Matcher) (lines : ParsedFile → List Nat) :
    t.expectedIn m f lines = t'.expectedIn m f lines := by
  unfold expectedIn
  rw [← hf]
  split
  · rename_i file _
    refine List.filterMap_congr fun l _ => ?_
    -- each line is credited to a node of `f`, whose owner is a node of `f` or a directory
    have hx : (NodeId.unit f (deepestAt file.nodes l)).InFileOrDir f := rfl
    have ho : (t.owner (.unit f (deepestAt file.nodes l))).InFileOrDir f := ownerUpTo_inFileOrDir hx
    unfold lineMatch
    rw [absoluteName_congr hd hf hwf hpa ho, owner_congr hd hf hwf hpa hx]
  · rfl

end Congr

theorem filesBelow_congr (hd : t.dirs = t'.dirs) :
    ∀ {n : Nat} {x : NodeId}, t.filesBelow n x = t'.filesBelow n x := by
  intro n
  induction n with
  | zero => intro x; rfl
  | succ n ih =>
    intro x
    match x with
    | .unit _ _ => rfl
    | .dir _ =>
      simp only [filesBelow, children, hd]
      exact List.flatMap_congr fun c _ => ih

/-- Two trees with the same directories, the first well formed, find the same files below a
node with the fuel of their sizes. -/
theorem filesBelow_size_congr (hwf : t.WellFormed) (hd : t.dirs = t'.dirs) (x : NodeId) :
    t.filesBelow (t.size + 1) x = t'.filesBelow (t'.size + 1) x := by
  rw [← filesBelow_congr hd]
  match x with
  | .unit _ _ => rfl
  | .dir d =>
    by_cases hdir : d < t.dirs.size
    · have hsize : t.dirs.size ≤ t.size := Nat.le_add_right _ _
      have hsize' : t'.dirs.size ≤ t'.size := Nat.le_add_right _ _
      rw [← hd] at hsize'
      exact filesBelow_congr_fuel hwf (by omega) (by omega)
    · -- a slot past the table lists nothing
      have hnone : t.dirs[d]? = none := Array.getElem?_eq_none (Nat.le_of_not_lt hdir)
      simp [filesBelow, children, hnone]

/-- The tree of one text has no directories and its file sits in none. -/
theorem ofText_parentsAbove (loader : Loader) (text : String) :
    ParentsAbove (Tree.ofText loader text).dirs (Tree.ofText loader text).files := by
  refine ⟨fun d dir hd => by simp [Tree.ofText] at hd, fun f file hf p hp => ?_⟩
  obtain rfl : loader.parseText "" "" text true = file := by
    cases f <;> simp_all [Tree.ofText]
  cases hp

end Tree

/-! ### Built trees -/

theorem adoptDirs_parents (children : Array NodeId) {dirs : Array DirEntry}
    (h : ∀ (d : Nat) (e : DirEntry), dirs[d]? = some e → ∀ p, e.parent = some p →
      d < p ∧ p < dirs.size) :
    ∀ (d : Nat) (e : DirEntry), (adoptDirs dirs.size children dirs)[d]? = some e →
      ∀ p, e.parent = some p → d < p ∧ p ≤ dirs.size := by
  refine (Array.foldl_induction
    (fun _ (acc : Array DirEntry) => acc.size = dirs.size ∧
      ∀ (d : Nat) (e : DirEntry), acc[d]? = some e → ∀ p, e.parent = some p →
        d < p ∧ p ≤ dirs.size)
    ⟨rfl, fun d e hd p hp => (h d e hd p hp).imp_right Nat.le_of_lt⟩ ?_).2
  intro i acc ⟨hsize, hpar⟩
  split
  · rename_i j
    refine ⟨by simp [hsize], fun d e hd p hp => ?_⟩
    rw [Array.getElem?_modify] at hd
    split at hd
    · -- the adopted directory is in the table, so before the new slot
      rename_i hjd
      obtain ⟨e₀, he₀, rfl⟩ := Option.map_eq_some_iff.mp hd
      cases hp
      have := (Array.getElem?_eq_some_iff.mp he₀).1
      omega
    · exact hpar d e hd p hp
  · exact ⟨hsize, hpar⟩

theorem adoptFiles_parents (slot : Nat) (children : Array NodeId) {files : Array ParsedFile}
    (h : ∀ (f : Nat) (file : ParsedFile), files[f]? = some file → ∀ p, file.parent = some p →
      p ≤ slot) :
    ∀ (f : Nat) (file : ParsedFile), (adoptFiles slot children files)[f]? = some file →
      ∀ p, file.parent = some p → p ≤ slot := by
  refine Array.foldl_induction
    (fun _ (acc : Array ParsedFile) => ∀ (f : Nat) (file : ParsedFile), acc[f]? = some file →
      ∀ p, file.parent = some p → p ≤ slot) h ?_
  intro i acc hpar
  split
  · intro f file hf p hp
    rw [Array.getElem?_modify] at hf
    split at hf
    · obtain ⟨file₀, -, rfl⟩ := Option.map_eq_some_iff.mp hf
      cases hp
      exact le_rfl
    · exact hpar f file hf p hp
  · exact hpar

/-- Adding a directory in the next slot as the parent of what it lists keeps parents above. -/
theorem ParentsAbove.adopt {w : Walk} (h : ParentsAbove w.dirs w.files) (children : Array NodeId)
    {e : DirEntry} (he : e.parent = none) :
    ParentsAbove ((adoptDirs w.dirs.size children w.dirs).push e)
      (adoptFiles w.dirs.size children w.files) := by
  have hdirs := adoptDirs_parents children h.dirs
  have hfiles := adoptFiles_parents w.dirs.size children
    fun f file hf p hp => Nat.le_of_lt (h.files f file hf p hp)
  have hsize : (adoptDirs w.dirs.size children w.dirs).size = w.dirs.size :=
    (WalkSettings.adoptDirs_children _ _ _).1
  refine ⟨fun d dir hd p hp => ?_, fun f file hf p hp => ?_⟩
  · rw [Array.getElem?_push] at hd
    split at hd
    · cases hd
      rw [he] at hp
      cases hp
    · have := hdirs d dir hd p hp
      simp only [Array.size_push, hsize]
      omega
  · have := hfiles f file hf p hp
    simp only [Array.size_push, hsize]
    omega

namespace WalkSettings

variable (s : WalkSettings)

theorem visitFile_parentsAbove (path : String) {w : Walk} (h : ParentsAbove w.dirs w.files) :
    ParentsAbove (s.visitFile path w).2.dirs (s.visitFile path w).2.files := by
  rcases s.visitFile_cases path w with hv | ⟨name, structured, file, hload, hv⟩ | ⟨e, hv⟩ <;>
    rw [hv]
  · exact h
  · -- the file is read into no directory
    refine ⟨h.dirs, fun f file' hf p hp => ?_⟩
    rw [Array.getElem?_push] at hf
    split at hf
    · cases hf
      rw [Loader.load_parent hload] at hp
      cases hp
    · exact h.files f file' hf p hp
  · exact h

theorem visitDir_parentsAbove :
    ∀ (fuel : Nat) (dir : String) (isRoot : Bool) (w : Walk), ParentsAbove w.dirs w.files →
      ParentsAbove (s.visitDir fuel dir isRoot w).2.dirs (s.visitDir fuel dir isRoot w).2.files
  | 0, _, _, _, h => h
  | fuel + 1, dir, isRoot, w, h => by
    rw [visitDir_succ]
    -- reading the directory keeps the walk's tables
    obtain ⟨hd1, hf1⟩ := s.readDir_tables dir isRoot w
    generalize s.readDir dir isRoot w = r at hd1 hf1
    obtain ⟨names, w1⟩ := r
    dsimp only at hd1 hf1
    have h2 : ParentsAbove (names.foldl (s.readEntry fuel dir) (#[], w1)).2.dirs
        (names.foldl (s.readEntry fuel dir) (#[], w1)).2.files := by
      refine List.foldlRecOn names _
        (motive := fun (acc : Array NodeId × Walk) => ParentsAbove acc.2.dirs acc.2.files)
        (by simpa only [hd1, hf1] using h) fun acc hacc entry _ => ?_
      obtain ⟨kids, w'⟩ := acc
      obtain ⟨name, kind⟩ := entry
      have hsub := visitDir_parentsAbove fuel (Path.join dir name) false w' hacc
      have hfile := s.visitFile_parentsAbove (Path.join dir name) hacc
      rcases s.readEntry_cases fuel dir name kind kids w' with
        h | ⟨slot, w'', hv, h⟩ | ⟨w'', hv, h⟩ | ⟨c, w'', hv, h⟩ | ⟨w'', hv, h⟩ <;> rw [h]
      · exact hacc
      · simpa only [hv] using hsub
      · simpa only [hv] using hsub
      · simpa only [hv] using hfile
      · simpa only [hv] using hfile
    generalize names.foldl (s.readEntry fuel dir) (#[], w1) = acc at h2
    obtain ⟨children, w2⟩ := acc
    rcases s.closeDir_cases dir isRoot children w2 with ⟨-, -, h⟩ | h <;> rw [h]
    · exact h2
    · exact h2.adopt children rfl

end WalkSettings

/-- In a tree built from a disk every parent sits above what it holds. -/
theorem Builder.build_parentsAbove {b : Builder} {d : Disk} {cwd : List String} {root : String}
    {t : Tree} (h : b.build d cwd root = .ok t) : ParentsAbove t.dirs t.files := by
  rcases Builder.build_eq_ok_cases h with ⟨file, hload, rfl⟩ | ⟨s, -, -, -, -, rfl⟩
  · -- a root that is a file gives a tree of that one file, in no directory
    refine ⟨fun d dir hd => by simp at hd, fun f file' hf p hp => ?_⟩
    obtain rfl : file = file' := by cases f <;> simp_all
    rw [Loader.load_parent hload] at hp
    cases hp
  · have hempty : ParentsAbove ({} : Walk).dirs ({} : Walk).files :=
      ⟨fun d dir hd => by rw [show ({} : Walk).dirs = #[] from rfl] at hd; simp at hd,
        fun f file hf => by rw [show ({} : Walk).files = #[] from rfl] at hf; simp at hf⟩
    exact s.visitDir_parentsAbove _ _ _ _ hempty

end Arbor
