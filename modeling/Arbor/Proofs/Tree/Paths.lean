import Arbor.Proofs.Tree.Build
import Arbor.Proofs.Disk.Listing
/-!
The files of a tree built from a plainly named disk have distinct paths.
-/

namespace Arbor

open Arbor.Disk Arbor.Disk.Path

theorem paths_adoptFiles (slot : Nat) (children : Array NodeId) (files : Array ParsedFile) :
    (adoptFiles slot children files).toList.map (·.path) = files.toList.map (·.path) := by
  refine Array.foldl_induction
    (fun _ (acc : Array ParsedFile) => acc.toList.map (·.path) = files.toList.map (·.path)) rfl ?_
  intro i acc h
  split
  · rw [← h]
    apply List.ext_getElem?
    intro k
    simp only [List.getElem?_map, Array.getElem?_toList, Array.getElem?_modify]
    split <;> cases acc[k]? <;> rfl
  · exact h

/-- On such a disk a directory lists distinct, plain names. -/
theorem Disk.Named.readDir {d : Disk} (hd : d.Named) {cwd : List String} {p : String}
    {es : List (String × Kind)} (h : d.readDir cwd p = .ok es) :
    (es.map (·.1)).Nodup ∧ ∀ e ∈ es, IsName e.1 := by
  unfold Disk.readDir at h
  split at h
  · rename_i place _
    cases h
    refine ⟨?_, fun e he => ?_⟩
    · simpa [Function.comp_def] using childrenOf_names_nodup hd.nodup place
    · obtain ⟨⟨n, en⟩, hmem, rfl⟩ := List.mem_map.mp he
      exact hd.names _ (mem_childrenOf.mp hmem) n (by simp)
  all_goals cases h

/-- `w'` holds the files of `w` and then files at `dir` joined with distinct lists of plain
names, none of which starts with a name of `avoid`. -/
def AddsBelow (dir : String) (avoid : List String) (w w' : Walk) : Prop :=
  ∃ rels : List (List String),
    w'.files.toList.map (·.path) = w.files.toList.map (·.path) ++ rels.map (joinNames dir) ∧
      rels.Nodup ∧ (∀ r ∈ rels, ∀ n ∈ r, IsName n) ∧ ∀ r ∈ rels, ∀ a ∈ avoid, r.head? ≠ some a

namespace AddsBelow

variable {dir : String} {avoid : List String} {w w₁ w₂ : Walk}

theorem refl : AddsBelow dir avoid w w :=
  ⟨[], by simp, .nil, by simp, by simp⟩

/-- Only the paths of the new walk matter. -/
theorem congr (h : AddsBelow dir avoid w w₁)
    (he : w₂.files.toList.map (·.path) = w₁.files.toList.map (·.path)) :
    AddsBelow dir avoid w w₂ := by
  obtain ⟨rels, hp, hnd, hnames, havoid⟩ := h
  exact ⟨rels, he.trans hp, hnd, hnames, havoid⟩

theorem of_cons {n : String} (h : AddsBelow dir (n :: avoid) w w₁) : AddsBelow dir avoid w w₁ := by
  obtain ⟨rels, hp, hnd, hnames, havoid⟩ := h
  exact ⟨rels, hp, hnd, hnames, fun r hr a ha => havoid r hr a (List.mem_cons_of_mem _ ha)⟩

/-- The file at `dir` itself, as the one path the walk adds below it. -/
theorem self (h : w₁.files.toList.map (·.path) = w.files.toList.map (·.path) ++ [dir]) :
    AddsBelow dir avoid w w₁ :=
  ⟨[[]], by simpa using h, List.nodup_singleton _, by simp, by simp⟩

/-- What a visit below the entry `n` adds comes after what the walk had, at paths that start
with `n`, a name that nothing before starts with. -/
theorem push {n : String} (h : AddsBelow dir (n :: avoid) w w₁) (hn : IsName n)
    (hna : n ∉ avoid) (hsub : AddsBelow (join dir n) [] w₁ w₂) : AddsBelow dir avoid w w₂ := by
  obtain ⟨rels, hp, hnd, hnames, havoid⟩ := h
  obtain ⟨rels', hp', hnd', hnames', -⟩ := hsub
  refine ⟨rels ++ rels'.map (n :: ·), ?_, ?_, ?_, ?_⟩
  · -- below `join dir n` is below `dir` after `n`
    rw [hp', hp, List.append_assoc, List.map_append, List.map_map]
    rfl
  · refine List.nodup_append.mpr ⟨hnd, hnd'.map fun _ _ h => (List.cons.inj h).2, ?_⟩
    -- the old lists do not start with `n`, the new ones all do
    rintro r hr r' hr' rfl
    obtain ⟨q, -, rfl⟩ := List.mem_map.mp hr'
    exact havoid _ hr n List.mem_cons_self rfl
  · intro r hr m hm
    rcases List.mem_append.mp hr with hr | hr
    · exact hnames r hr m hm
    · obtain ⟨q, hq, rfl⟩ := List.mem_map.mp hr
      rcases List.mem_cons.mp hm with rfl | hm
      · exact hn
      · exact hnames' q hq m hm
  · intro r hr a ha
    rcases List.mem_append.mp hr with hr | hr
    · exact havoid r hr a (List.mem_cons_of_mem _ ha)
    · obtain ⟨q, -, rfl⟩ := List.mem_map.mp hr
      simp only [List.head?_cons, ne_eq, Option.some.injEq]
      rintro rfl
      exact hna ha

end AddsBelow

namespace WalkSettings

variable (s : WalkSettings)

theorem readDir_names (hd : s.disk.Named) (dir : String) (isRoot : Bool) (w : Walk) :
    ((s.readDir dir isRoot w).1.map (·.1)).Nodup ∧ ∀ e ∈ (s.readDir dir isRoot w).1, IsName e.1 := by
  unfold readDir entries
  -- a directory, or a link at the root to one, is read; anything else lists nothing
  split
  · rename_i es h
    split at h
    · cases h
    · exact hd.readDir h
    · split at h
      · split at h
        · exact hd.readDir h
        · cases h
          simp
        · cases h
      · cases h
        simp
    · cases h
      simp
  · simp

theorem visitFile_paths (path : String) (w : Walk) :
    (s.visitFile path w).2.files.toList.map (·.path) = w.files.toList.map (·.path) ∨
      (s.visitFile path w).2.files.toList.map (·.path) = w.files.toList.map (·.path) ++ [path] := by
  rcases s.visitFile_cases path w with h | ⟨name, structured, file, hload, h⟩ | ⟨e, h⟩ <;> rw [h]
  · exact .inl rfl
  · exact .inr (by simp [Loader.load_path hload])
  · exact .inl rfl

theorem foldl_readEntry_addsBelow (fuel : Nat) (dir : String)
    (hv : ∀ sub w, AddsBelow sub [] w (s.visitDir fuel sub false w).2) (w : Walk) :
    ∀ (names : List (String × Disk.Kind)) (acc : Array NodeId × Walk),
      (names.map (·.1)).Nodup → (∀ e ∈ names, IsName e.1) →
      AddsBelow dir (names.map (·.1)) w acc.2 →
      AddsBelow dir [] w (names.foldl (s.readEntry fuel dir) acc).2
  | [], _, _, _, h => h
  | (name, kind) :: rest, (kids, w₁), hnd, hnames, h => by
    rw [List.map_cons, List.nodup_cons] at hnd
    have hn : IsName name := hnames _ List.mem_cons_self
    rw [List.foldl_cons]
    refine foldl_readEntry_addsBelow fuel dir hv w rest _ hnd.2
      (fun e he => hnames e (List.mem_cons_of_mem _ he)) ?_
    rw [List.map_cons] at h
    -- what visiting the entry as a directory adds lies below the entry's own name
    have hdir := h.push hn hnd.1 (hv (join dir name) w₁)
    rcases s.readEntry_cases fuel dir name kind kids w₁ with
      h' | ⟨slot, w₂, hv', h'⟩ | ⟨w₂, hv', h'⟩ | ⟨c, w₂, hv', h'⟩ | ⟨w₂, hv', h'⟩ <;> rw [h']
    · exact h.of_cons
    · rwa [hv'] at hdir
    · rwa [hv'] at hdir
    all_goals
      rcases s.visitFile_paths (join dir name) w₁ with hp | hp <;> rw [hv'] at hp
      · exact h.of_cons.congr hp
      · exact h.push hn hnd.1 (.self hp)

theorem visitDir_addsBelow (hd : s.disk.Named) :
    ∀ (fuel : Nat) (dir : String) (isRoot : Bool) (w : Walk),
      AddsBelow dir [] w (s.visitDir fuel dir isRoot w).2
  | 0, _, _, _ => .refl
  | fuel + 1, dir, isRoot, w => by
    rw [visitDir_succ]
    obtain ⟨-, hf1⟩ := s.readDir_tables dir isRoot w
    obtain ⟨hnd, hnames⟩ := s.readDir_names hd dir isRoot w
    generalize s.readDir dir isRoot w = r at hf1 hnd hnames
    obtain ⟨names, w₁⟩ := r
    dsimp only at hf1 hnd hnames
    have hgathered := s.foldl_readEntry_addsBelow fuel dir
      (fun sub w => visitDir_addsBelow hd fuel sub false w) w names (#[], w₁) hnd hnames
      (AddsBelow.refl.congr (by rw [hf1]))
    generalize names.foldl (s.readEntry fuel dir) (#[], w₁) = acc at hgathered
    obtain ⟨children, w₂⟩ := acc
    -- adopting what the directory lists sets parents and keeps paths
    rcases s.closeDir_cases dir isRoot children w₂ with ⟨-, -, h⟩ | h <;> rw [h]
    · exact hgathered
    · exact hgathered.congr (by rw [Walk.adopt_files, paths_adoptFiles])

end WalkSettings

/-- The paths of the file table are one root joined with distinct lists of plain names. -/
def Tree.PlainPaths (t : Tree) : Prop :=
  ∃ (base : String) (rels : List (List String)),
    t.files.toList.map (·.path) = rels.map (joinNames base) ∧ rels.Nodup ∧
      ∀ r ∈ rels, ∀ n ∈ r, IsName n

namespace Tree.PlainPaths

variable {t : Tree} (h : t.PlainPaths)
include h

theorem nodup : (t.files.toList.map (·.path)).Nodup := by
  obtain ⟨base, rels, hpaths, hnd, hnames⟩ := h
  rw [hpaths]
  exact hnd.map_on fun a ha b hb hab => joinNames_inj (hnames a ha) (hnames b hb) hab

/-- Different names below one root name different paths. -/
theorem apart : Apart (t.files.toList.map (·.path)) := by
  obtain ⟨base, rels, hpaths, -, hnames⟩ := h
  rw [hpaths]
  intro p hp q hq hsame
  obtain ⟨a, ha, rfl⟩ := List.mem_map.mp hp
  obtain ⟨b, hb, rfl⟩ := List.mem_map.mp hq
  rw [eq_of_same_joinNames (hnames a ha) (hnames b hb) hsame]

end Tree.PlainPaths

theorem Builder.build_plainPaths {b : Builder} {d : Disk} {cwd : List String} {root : String}
    {t : Tree} (hd : d.Named) (h : b.build d cwd root = .ok t) : t.PlainPaths := by
  rcases Builder.build_eq_ok_cases h with ⟨file, -, rfl⟩ | ⟨s, -, hsd, -, -, rfl⟩
  · exact ⟨file.path, [[]], by simp, List.nodup_singleton _, by simp⟩
  · subst hsd
    obtain ⟨rels, hpaths, hnd, hnames, -⟩ := s.visitDir_addsBelow hd (s.disk.entries.length + 1) root true {}
    refine ⟨root, rels, ?_, hnd, hnames⟩
    -- the walk starts with no file
    rw [hpaths, show ({} : Walk).files = #[] from rfl, Array.toList_empty, List.map_nil,
      List.nil_append]

variable {t : Tree}
  (ht : (∃ loader text, t = Tree.ofText loader text) ∨
    ∃ (b : Builder) (d : Disk) (cwd : List String) (path : String),
      d.Named ∧ b.build d cwd path = .ok t)
include ht

/-- A tree read from a text, or built from a disk that no two entries share a place of and whose
places are named by plain names, has plain paths. -/
theorem Tree.plainPaths_of_source : t.PlainPaths := by
  rcases ht with ⟨loader, text, rfl⟩ | ⟨b, d, cwd, path, hd, hbuild⟩
  · exact ⟨"", [[]], by simp [Tree.ofText, Loader.parseText, ParsedFile.make],
      List.nodup_singleton _, by simp⟩
  · exact Builder.build_plainPaths hd hbuild

theorem Tree.paths_nodup_of_source : (t.files.toList.map (·.path)).Nodup :=
  (Tree.plainPaths_of_source ht).nodup

theorem Tree.paths_apart_of_source : Apart (t.files.toList.map (·.path)) :=
  (Tree.plainPaths_of_source ht).apart

end Arbor
