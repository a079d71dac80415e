import Mathlib
import Arbor.Proofs.Edit.Plan
import Arbor.Proofs.Tree.Ancestors
import Arbor.Proofs.Tree.Paths
/-!
Planning on top of a plan.
-/

namespace Arbor

open Arbor.Pattern Arbor.Edit Arbor.Outline Arbor.Layout

/-- `findIdx?` reads its test only on the list's own elements. -/
theorem List.findIdx?_congr_mem {α : Type} {p q : α → Bool} :
    ∀ {l : List α}, (∀ x ∈ l, p x = q x) → l.findIdx? p = l.findIdx? q
  | [], _ => rfl
  | x :: xs, h => by
    rw [List.findIdx?_cons, List.findIdx?_cons, h x List.mem_cons_self,
      List.findIdx?_congr_mem fun y hy => h y (List.mem_cons_of_mem x hy)]

theorem Array.findIdx?_congr_mem {α : Type} {p q : α → Bool} {xs : Array α}
    (h : ∀ x ∈ xs, p x = q x) : xs.findIdx? p = xs.findIdx? q := by
  rcases xs with ⟨l⟩
  simpa using List.findIdx?_congr_mem fun x hx => h x (by simpa using hx)

namespace Tree

variable {t : Tree}

/-- A file of the tree read again from a new text under the path `p`, keeping the name of its file
node, its outline mode and its directory. -/
def rereadAt (t : Tree) (file : ParsedFile) (p text : String) : ParsedFile :=
  { t.loader.parseText p ((file.nodes[0]?.map (·.name)).getD "") text file.structured with
    parent := file.parent }

/-- A file of the tree read again from a new text under its own path. -/
def reread (t : Tree) (file : ParsedFile) (text : String) : ParsedFile := t.rereadAt file file.path text

/-- One text read into the file table: the first file that names the text's path is read again
from it. -/
def rereadStep (t : Tree) (files : Array ParsedFile) (e : String × String) : Array ParsedFile :=
  match files.findIdx? (Disk.Path.same ·.path e.1) with
  | some i => files.modify i fun f => t.rereadAt f e.1 e.2
  | none => files

theorem files_withTexts (texts : List (String × String)) :
    (Tree.withTexts t texts).files = texts.foldl t.rereadStep t.files := rfl

@[simp] theorem rereadAt_path (file : ParsedFile) (p text : String) :
    (t.rereadAt file p text).path = p := rfl

@[simp] theorem rereadAt_parent (file : ParsedFile) (p text : String) :
    (t.rereadAt file p text).parent = file.parent := rfl

@[simp] theorem rereadAt_structured (file : ParsedFile) (p text : String) :
    (t.rereadAt file p text).structured = file.structured := rfl

@[simp] theorem reread_path (file : ParsedFile) (text : String) :
    (t.reread file text).path = file.path := rfl

@[simp] theorem reread_text (file : ParsedFile) (text : String) :
    (t.reread file text).text = text := rfl

theorem rereadAt_wellFormed (file : ParsedFile) (p text : String) :
    (t.rereadAt file p text).WellFormed := by
  have h := ParsedFile.make_wellFormed t.loader.isProperty p
    ((file.nodes[0]?.map (·.name)).getD "") text file.structured
  exact ⟨h.outline, h.not_directory, h.starts_eq, h.names⟩

/-- Reading a file again keeps the name of its file node. -/
theorem rootName_rereadAt (file : ParsedFile) (p text : String) :
    ((t.rereadAt file p text).nodes[0]?.map (·.name)).getD "" =
      (file.nodes[0]?.map (·.name)).getD "" := by
  have hroot := (ParsedFile.make_wellFormed t.loader.isProperty p
    ((file.nodes[0]?.map (·.name)).getD "") text file.structured).outline.root.1
  have hname := name_make_root t.loader.isProperty p ((file.nodes[0]?.map (·.name)).getD "") text
    file.structured
  simp only [rereadAt, Loader.parseText, Array.getElem?_eq_getElem hroot, Option.map_some,
    Option.getD_some]
  simpa only [entry, Array.getD_eq_getD_getElem?, Array.getElem?_eq_getElem hroot,
    Option.getD_some] using hname

/-- Reading a file again twice is reading it once, from the later text. -/
theorem rereadAt_rereadAt (file : ParsedFile) (p q text text' : String) :
    t.rereadAt (t.rereadAt file p text) q text' = t.rereadAt file q text' := by
  have hname := rootName_rereadAt (t := t) file p text
  simp only [rereadAt] at hname ⊢
  rw [hname]
  rfl

/-- `g` is `file`, or `file` read again from some text under some path. -/
def Rereads (t : Tree) (file g : ParsedFile) : Prop :=
  g = file ∨ ∃ p text, g = t.rereadAt file p text

namespace Rereads

variable {file g : ParsedFile}

theorem rereadAt (h : t.Rereads file g) (p text : String) : t.Rereads file (t.rereadAt g p text) := by
  rcases h with rfl | ⟨q, x, rfl⟩
  · exact .inr ⟨p, text, rfl⟩
  · exact .inr ⟨p, text, rereadAt_rereadAt file q p x text⟩

theorem wellFormed (hfile : file.WellFormed) (h : t.Rereads file g) : g.WellFormed := by
  rcases h with rfl | ⟨p, text, rfl⟩
  · exact hfile
  · exact rereadAt_wellFormed file p text

theorem parent (h : t.Rereads file g) : g.parent = file.parent := by
  rcases h with rfl | ⟨p, text, rfl⟩ <;> rfl

end Rereads

/-- Reading one text into the file table reads each file again or leaves it. -/
theorem rereads_rereadStep {files : Array ParsedFile}
    (h : ∀ (i : Nat) (g : ParsedFile), files[i]? = some g →
      ∃ file, t.files[i]? = some file ∧ t.Rereads file g)
    (e : String × String) (i : Nat) (g : ParsedFile) (hg : (t.rereadStep files e)[i]? = some g) :
    ∃ file, t.files[i]? = some file ∧ t.Rereads file g := by
  unfold rereadStep at hg
  split at hg
  · rename_i k _
    rw [Array.getElem?_modify] at hg
    split at hg
    · obtain ⟨g₀, hg₀, rfl⟩ := Option.map_eq_some_iff.mp hg
      obtain ⟨file, hfile, hre⟩ := h i g₀ hg₀
      exact ⟨file, hfile, hre.rereadAt e.1 e.2⟩
    · exact h i g hg
  · exact h i g hg

theorem rereads_foldl (l : List (String × String)) {files : Array ParsedFile}
    (h : ∀ (i : Nat) (g : ParsedFile), files[i]? = some g →
      ∃ file, t.files[i]? = some file ∧ t.Rereads file g) (i : Nat) (g : ParsedFile)
    (hg : (l.foldl t.rereadStep files)[i]? = some g) :
    ∃ file, t.files[i]? = some file ∧ t.Rereads file g := by
  induction l generalizing files with
  | nil => exact h i g hg
  | cons e rest ih => exact ih (rereads_rereadStep h e) hg

/-- Re-reading files from texts, whatever their paths, reads each file again or leaves it. -/
theorem rereads_withTexts (texts : List (String × String)) {i : Nat} {g : ParsedFile}
    (hg : (Tree.withTexts t texts).files[i]? = some g) :
    ∃ file, t.files[i]? = some file ∧ t.Rereads file g := by
  rw [files_withTexts] at hg
  exact rereads_foldl texts (fun i g hg => ⟨g, hg, .inl rfl⟩) i g hg

theorem eq_of_path_eq {files : Array ParsedFile} (h : (files.toList.map (·.path)).Nodup)
    {i j : Nat} {f g : ParsedFile} (hi : files[i]? = some f) (hj : files[j]? = some g)
    (hfg : f.path = g.path) : i = j := by
  obtain ⟨hin, rfl⟩ := Array.getElem?_eq_some_iff.mp hi
  obtain ⟨hjn, rfl⟩ := Array.getElem?_eq_some_iff.mp hj
  have hi' : i < (files.toList.map (·.path)).length := by
    rw [List.length_map, Array.length_toList]
    exact hin
  have hj' : j < (files.toList.map (·.path)).length := by
    rw [List.length_map, Array.length_toList]
    exact hjn
  have hpath : (files.toList.map (·.path))[i] = (files.toList.map (·.path))[j] := by
    simpa using hfg
  exact (List.Nodup.getElem_inj_iff h).mp hpath

@[simp] theorem withTexts_dirs (texts : List (String × String)) :
    (Tree.withTexts t texts).dirs = t.dirs := rfl

@[simp] theorem withTexts_loader (texts : List (String × String)) :
    (Tree.withTexts t texts).loader = t.loader := rfl

@[simp] theorem size_withTexts (texts : List (String × String)) :
    (Tree.withTexts t texts).files.size = t.files.size := by
  rw [files_withTexts]
  generalize t.files = files
  induction texts generalizing files with
  | nil => rfl
  | cons e rest ih =>
    rw [List.foldl_cons, ih]
    unfold rereadStep
    split <;> simp

section Step

variable {files : Array ParsedFile} (hpaths : (files.toList.map (·.path)).Nodup) {p : String}
  (hsame : ∀ f ∈ files, Disk.Path.same f.path p = (f.path == p))
include hpaths hsame

/-- In a table of distinct paths, none of them naming `p` but `p` itself, a text for `p` reads the
file with that path again and keeps the others. -/
theorem getElem?_rereadStep (x : String) (i : Nat) :
    (t.rereadStep files (p, x))[i]? = files[i]?.map fun f => if f.path = p then t.reread f x else f := by
  rw [rereadStep]
  dsimp only
  rw [Array.findIdx?_congr_mem hsame]
  split
  · -- the first file with path `p` is the only one
    rename_i k hk
    obtain ⟨hk, hkp, -⟩ := Array.findIdx?_eq_some_iff_getElem.mp hk
    have hkp : files[k].path = p := by simpa using hkp
    rw [Array.getElem?_modify]
    by_cases hki : k = i
    · subst hki
      simp [Array.getElem?_eq_getElem hk, hkp, reread]
    · rw [if_neg hki]
      cases hfi : files[i]? with
      | none => rfl
      | some f =>
        have hfp : f.path ≠ p := fun hfp =>
          hki (eq_of_path_eq hpaths (Array.getElem?_eq_getElem hk) hfi (hkp.trans hfp.symm))
        simp [hfp]
  · -- no file has path `p`, so its text reads nothing
    rename_i hk
    cases hfi : files[i]? with
    | none => rfl
    | some f =>
      have hfp : f.path ≠ p := fun hfp => by
        have := Array.findIdx?_eq_none_iff.mp hk f (Array.mem_of_getElem? hfi)
        simp [hfp] at this
      simp [hfp]

theorem paths_rereadStep (x : String) :
    (t.rereadStep files (p, x)).toList.map (·.path) = files.toList.map (·.path) := by
  refine List.ext_getElem? fun i => ?_
  simp only [List.getElem?_map, Array.getElem?_toList, getElem?_rereadStep hpaths hsame,
    Option.map_map]
  cases files[i]? with
  | none => rfl
  | some f => by_cases hfp : f.path = p <;> simp [hfp]

end Step

/-- Re-reading files from texts whose paths are distinct paths of the table, in a table no two of
whose paths name one path, replaces each file whose path has a text by the file read again from
that text, and keeps the others. -/
theorem getElem?_withTexts (hpaths : (t.files.toList.map (·.path)).Nodup)
    (happart : Disk.Path.Apart (t.files.toList.map (·.path))) {texts : List (String × String)}
    (htexts : (texts.map (·.1)).Nodup) (hin : ∀ e ∈ texts, e.1 ∈ t.files.toList.map (·.path))
    (i : Nat) :
    (Tree.withTexts t texts).files[i]? = (t.files[i]?).map fun f =>
      match texts.lookup f.path with
      | some text => t.reread f text
      | none => f := by
  rw [files_withTexts]
  -- each step keeps the paths of the table, the invariant of the induction
  generalize hP : t.files.toList.map (·.path) = P at hpaths happart hin
  generalize t.files = files at hP ⊢
  induction texts generalizing files with
  | nil => simp
  | cons e rest ih =>
    obtain ⟨p, x⟩ := e
    obtain ⟨hp, hrest⟩ := List.nodup_cons.mp htexts
    have hnodup : (files.toList.map (·.path)).Nodup := hP ▸ hpaths
    have hsame : ∀ f ∈ files, Disk.Path.same f.path p = (f.path == p) := fun f hf =>
      happart.same_eq (hP ▸ List.mem_map_of_mem (Array.mem_toList_iff.mpr hf))
        (hin _ List.mem_cons_self)
    rw [List.foldl_cons, ih hrest (fun e he => hin e (.tail _ he)) _
      ((paths_rereadStep hnodup hsame x).trans hP), getElem?_rereadStep hnodup hsame]
    cases files[i]? with
    | none => rfl
    | some f =>
      by_cases hfp : f.path = p
      · -- the later texts name other paths
        have hnone : rest.lookup p = none := by
          refine List.lookup_eq_none_iff.mpr fun e he => bne_iff_ne.mpr fun hpe => ?_
          exact hp (List.mem_map.mpr ⟨e, he, hpe.symm⟩)
        simp [hfp, hnone]
      · simp [hfp, List.lookup_cons, beq_false_of_ne hfp]

theorem parent?_withTexts (texts : List (String × String)) {c : NodeId}
    (hc : (∃ d, c = .dir d) ∨ ∃ g, c = .unit g 0) :
    (Tree.withTexts t texts).parent? c = t.parent? c := by
  rcases hc with ⟨d, rfl⟩ | ⟨g, rfl⟩
  · rfl
  · simp only [parent?]
    cases hg : (Tree.withTexts t texts).files[g]? with
    | none =>
      have hg' : t.files[g]? = none := by
        rw [Array.getElem?_eq_none_iff] at hg ⊢
        simpa using hg
      rw [hg']
    | some file' =>
      obtain ⟨file, hfile, hre⟩ := rereads_withTexts texts hg
      rw [hfile]
      simp [hre.parent]

/-- Re-reading files keeps a tree well formed. -/
theorem withTexts_wellFormed (hwf : t.WellFormed) (texts : List (String × String)) :
    (Tree.withTexts t texts).WellFormed := by
  refine ⟨fun f file hf => ?_, fun d dir hd c hc => ?_, fun d dir hd => hwf.dirs_nodup d dir hd,
    fun d dir hd c hc => ?_, fun x d hx => ?_⟩
  · obtain ⟨file₀, hfile₀, hre⟩ := rereads_withTexts texts hf
    exact hre.wellFormed (hwf.files f file₀ hfile₀)
  · simpa using hwf.dirs d dir hd c hc
  · -- a directory lists directories and file roots, which stay where they sat
    have hroot : (∃ d, c = .dir d) ∨ ∃ g, c = .unit g 0 := by
      rcases hwf.dirs d dir hd c hc with ⟨d', rfl, -⟩ | ⟨g, rfl, -⟩
      · exact .inl ⟨d', rfl⟩
      · exact .inr ⟨g, rfl⟩
    rw [parent?_withTexts texts hroot]
    exact hwf.listed_parent d dir hd c hc
  · have hroot : (∃ d, x = .dir d) ∨ ∃ g, x = .unit g 0 := by
      match x with
      | .dir d' => exact .inl ⟨d', rfl⟩
      | .unit g 0 => exact .inr ⟨g, rfl⟩
      | .unit g (j + 1) => exact (parent?_unit_succ_ne_dir _ g j d hx).elim
    rw [parent?_withTexts texts hroot] at hx
    exact hwf.parent_listed x d hx

theorem withTexts_filesInOrder (hord : t.FilesInOrder) (texts : List (String × String)) :
    (Tree.withTexts t texts).FilesInOrder := hord

theorem matchesIn_congr {t t' : Tree} (hwf : t.WellFormed) (hord : t.FilesInOrder)
    (hpa : ParentsAbove t.dirs t.files) (hwf' : t'.WellFormed) (hord' : t'.FilesInOrder)
    (hd : t.dirs = t'.dirs) {f : Nat} (hf : t.files[f]? = t'.files[f]?) (root : NodeId)
    (m : Matcher) : t.matchesIn root m f = t'.matchesIn root m f := by
  rw [matchesIn_eq_expectedIn hwf hord, matchesIn_eq_expectedIn hwf' hord',
    filesBelow_size_congr hwf hd, expectedIn_congr hd hf hwf hpa]

end Tree

theorem find?_eq_of_unique {α : Type} [DecidableEq α] {l : List α} {p : α → Bool} {a : α}
    (h : ∀ x ∈ l, p x = true ↔ x = a) : l.find? p = if a ∈ l then some a else none := by
  induction l with
  | nil => simp
  | cons y ys ih =>
    have ih := ih fun x hx => h x (.tail _ hx)
    by_cases hy : p y = true
    · obtain rfl := (h y List.mem_cons_self).mp hy
      simp [hy]
    · have hya : y ≠ a := fun hya => hy ((h y List.mem_cons_self).mpr hya)
      simp [hy, ih, Ne.symm hya]

theorem find?_eq_some_of_unique {α : Type} {l : List α} {p : α → Bool} {a : α}
    (h : ∀ x ∈ l, p x = true ↔ x = a) (ha : a ∈ l) : l.find? p = some a := by
  classical
  simpa [ha] using find?_eq_of_unique h

theorem find?_path_of_mem {l : List FilePlan} (h : (l.map (·.path)).Nodup) {g : FilePlan}
    (hg : g ∈ l) : l.find? (·.path == g.path) = some g :=
  find?_eq_some_of_unique (fun x hx => ⟨fun hxp => List.inj_on_of_nodup_map h hx hg (by simpa using hxp),
    fun hxg => by simp [hxg]⟩) hg

namespace Tree

variable {t : Tree}

theorem find?_expectedPlans (hpaths : (t.files.toList.map (·.path)).Nodup) {i : Nat}
    {file : ParsedFile} (hf : t.files[i]? = some file) (root : NodeId) (m : Matcher)
    (r : String) :
    (t.expectedPlans root m r).find? (·.path == file.path) =
      if (t.matchesIn root m i).isEmpty then none
      else some (expectedPlan m r file (t.matchesIn root m i)) := by
  obtain ⟨hi, hget⟩ := Array.getElem?_eq_some_iff.mp hf
  -- among the files with matches only file `i` has its path
  have hunique : ∀ g ∈ (List.range t.files.size).filter (fun g => !(t.matchesIn root m g).isEmpty),
      (((fun x : FilePlan => x.path == file.path) ∘
        fun g => expectedPlan m r (t.files.getD g default) (t.matchesIn root m g)) g = true ↔
          g = i) := by
    intro g hg
    have hg : g < t.files.size := List.mem_range.mp (List.mem_filter.mp hg).1
    simp only [Function.comp_apply, expectedPlan, beq_iff_eq, Array.getD_eq_getD_getElem?, Array.getElem?_eq_getElem hg,
      Option.getD_some]
    exact ⟨fun hpath => eq_of_path_eq hpaths (Array.getElem?_eq_getElem hg) hf hpath,
      fun hgi => by subst hgi; simp [Array.getElem?_eq_getElem hg] at hf; rw [hf]⟩
  rw [expectedPlans, List.find?_map, find?_eq_of_unique hunique]
  by_cases hempty : (t.matchesIn root m i).isEmpty
  · simp [hempty]
  · simp [hempty, hi, hget]

theorem exists_of_mem_expectedPlans {root : NodeId} {m : Matcher} {r : String} {g : FilePlan}
    (hg : g ∈ t.expectedPlans root m r) :
    ∃ i file, t.files[i]? = some file ∧ g = expectedPlan m r file (t.matchesIn root m i) := by
  obtain ⟨i, hi, rfl⟩ := List.mem_map.mp hg
  have hi : i < t.files.size := List.mem_range.mp (List.mem_filter.mp hi).1
  exact ⟨i, t.files[i], Array.getElem?_eq_getElem hi, by simp [Array.getD_eq_getD_getElem?, hi]⟩

theorem expectedPlans_paths_nodup (hpaths : (t.files.toList.map (·.path)).Nodup) (root : NodeId)
    (m : Matcher) (r : String) : ((t.expectedPlans root m r).map (·.path)).Nodup := by
  rw [expectedPlans, List.map_map]
  refine List.Nodup.map_on (fun x hx y hy hxy => ?_) (List.nodup_range.filter _)
  have hx : x < t.files.size := List.mem_range.mp (List.mem_filter.mp hx).1
  have hy : y < t.files.size := List.mem_range.mp (List.mem_filter.mp hy).1
  simp only [Function.comp_apply, expectedPlan, Array.getD_eq_getD_getElem?,
    Array.getElem?_eq_getElem hx, Array.getElem?_eq_getElem hy, Option.getD_some] at hxy
  exact eq_of_path_eq hpaths (Array.getElem?_eq_getElem hx) (Array.getElem?_eq_getElem hy) hxy

theorem path_mem_paths {i : Nat} {file : ParsedFile} (hf : t.files[i]? = some file) :
    file.path ∈ t.files.toList.map (·.path) :=
  List.mem_map_of_mem (Array.mem_toList_iff.mpr (Array.mem_of_getElem? hf))

theorem filePosition_eq (hpaths : (t.files.toList.map (·.path)).Nodup)
    (happart : Disk.Path.Apart (t.files.toList.map (·.path))) {i : Nat}
    {file : ParsedFile} (hf : t.files[i]? = some file) : filePosition t file.path = some i := by
  obtain ⟨hi, hget⟩ := Array.getElem?_eq_some_iff.mp hf
  -- among the paths of the table, naming the file's path is being it
  rw [filePosition, Array.findIdx?_congr_mem fun g hg =>
    happart.same_eq (List.mem_map_of_mem (Array.mem_toList_iff.mpr hg)) (path_mem_paths hf)]
  refine Array.findIdx?_eq_some_iff_getElem.mpr ⟨hi, by simp [hget], fun j hj hjp => ?_⟩
  have hj' : j < t.files.size := by omega
  have := eq_of_path_eq hpaths (Array.getElem?_eq_getElem hj') hf (by simpa using hjp)
  omega

theorem lookup_proposed (base : List FilePlan) (p : String) :
    (base.map fun f => (f.path, f.proposed)).lookup p = (base.find? (·.path == p)).map (·.proposed) := by
  induction base with
  | nil => rfl
  | cons b bs ih =>
    by_cases hp : p = b.path
    · simp [hp]
    · simp [List.lookup_cons, beq_false_of_ne hp, Ne.symm hp, ih]

theorem proposed_paths_nodup {base : List FilePlan} (hbase : (base.map (·.path)).Nodup) :
    ((base.map fun f => (f.path, f.proposed)).map (·.1)).Nodup := by
  simpa [List.map_map, Function.comp_def] using hbase

theorem proposed_paths_mem {base : List FilePlan}
    (hbin : ∀ b ∈ base, ∃ file ∈ t.files.toList, file.path = b.path) :
    ∀ e ∈ base.map (fun f => (f.path, f.proposed)), e.1 ∈ t.files.toList.map (·.path) := by
  intro e he
  obtain ⟨b, hb, rfl⟩ := List.mem_map.mp he
  obtain ⟨file, hfile, hpath⟩ := hbin b hb
  exact hpath ▸ List.mem_map_of_mem hfile

theorem getElem?_withProposed (hpaths : (t.files.toList.map (·.path)).Nodup)
    (happart : Disk.Path.Apart (t.files.toList.map (·.path))) {base : List FilePlan}
    (hbase : (base.map (·.path)).Nodup)
    (hbin : ∀ b ∈ base, ∃ file ∈ t.files.toList, file.path = b.path) (i : Nat) :
    (Tree.withTexts t (base.map fun f => (f.path, f.proposed))).files[i]? =
      (t.files[i]?).map fun f =>
        match base.find? (·.path == f.path) with
        | some prior => t.reread f prior.proposed
        | none => f := by
  rw [getElem?_withTexts hpaths happart (proposed_paths_nodup hbase) (proposed_paths_mem hbin)]
  refine congrArg (Option.map · _) (funext fun f => ?_)
  rw [lookup_proposed]
  cases base.find? (·.path == f.path) <;> rfl

theorem withProposed_paths (hpaths : (t.files.toList.map (·.path)).Nodup)
    (happart : Disk.Path.Apart (t.files.toList.map (·.path))) {base : List FilePlan}
    (hbase : (base.map (·.path)).Nodup)
    (hbin : ∀ b ∈ base, ∃ file ∈ t.files.toList, file.path = b.path) :
    (Tree.withTexts t (base.map fun f => (f.path, f.proposed))).files.toList.map (·.path) =
      t.files.toList.map (·.path) := by
  refine List.ext_getElem? fun i => ?_
  simp only [List.getElem?_map, Array.getElem?_toList,
    getElem?_withProposed hpaths happart hbase hbin, Option.map_map]
  refine congrArg (Option.map · _) (funext fun f => ?_)
  simp only [Function.comp_apply]
  split <;> rfl

theorem withProposed_paths_nodup (hpaths : (t.files.toList.map (·.path)).Nodup)
    (happart : Disk.Path.Apart (t.files.toList.map (·.path))) {base : List FilePlan}
    (hbase : (base.map (·.path)).Nodup)
    (hbin : ∀ b ∈ base, ∃ file ∈ t.files.toList, file.path = b.path) :
    ((Tree.withTexts t (base.map fun f => (f.path, f.proposed))).files.toList.map
      (·.path)).Nodup := by
  rw [withProposed_paths hpaths happart hbase hbin]
  exact hpaths

end Tree

namespace Edit

/-- The plan of file `prior` of a base plan once `planned` is planned on top of it: the plan of its
path in `planned` with the base's original text and fingerprint, or the base's proposed text with
no matches when `planned` has none. -/
def chainWith (planned : List FilePlan) (prior : FilePlan) : FilePlan :=
  match planned.find? (·.path == prior.path) with
  | some next => { next with original := prior.original, fingerprint := prior.fingerprint }
  | none => { path := prior.path, original := prior.original, fingerprint := prior.fingerprint,
              proposed := prior.proposed, found := [], replacements := [] }

@[simp] theorem chainWith_path (planned : List FilePlan) (prior : FilePlan) :
    (chainWith planned prior).path = prior.path := by
  unfold chainWith
  split
  · rename_i next hnext
    simpa using (List.find?_eq_some_iff_getElem.mp hnext).1
  · rfl

/-- One turn of merging the files of a base plan with the files planned on top of it. -/
def chainStep (acc : Array FilePlan × List FilePlan) (prior : FilePlan) :
    Array FilePlan × List FilePlan :=
  match acc.2.findIdx? (Disk.Path.same ·.path prior.path) with
  | some i =>
    let next := acc.2.getD i default
    (acc.1.push { next with original := prior.original, fingerprint := prior.fingerprint },
      acc.2.eraseIdx i)
  | none =>
    (acc.1.push { path := prior.path, original := prior.original,
                  fingerprint := prior.fingerprint, proposed := prior.proposed,
                  found := [], replacements := [] }, acc.2)

theorem chainFiles_eq_foldl (baseFiles planned : List FilePlan) :
    chainFiles baseFiles planned =
      (baseFiles.foldl chainStep (#[], planned)).1.toList ++
        (baseFiles.foldl chainStep (#[], planned)).2 := rfl

theorem eraseP_path_eq_filter {l : List FilePlan} (h : (l.map (·.path)).Nodup) (p : String) :
    l.eraseP (·.path == p) = l.filter (·.path != p) := by
  induction l with
  | nil => rfl
  | cons g gs ih =>
    obtain ⟨hg, hgs⟩ := List.nodup_cons.mp h
    by_cases hgp : g.path = p
    · subst hgp
      rw [List.eraseP_cons_of_pos (by simp), List.filter_cons_of_neg (by simp)]
      refine (List.filter_eq_self.mpr fun x hx => ?_).symm
      have : x.path ≠ g.path := fun hx' => hg (List.mem_map.mpr ⟨x, hx, hx'⟩)
      simpa using this
    · rw [List.eraseP_cons_of_neg (by simpa using hgp), List.filter_cons_of_pos (by simpa using hgp),
        ih hgs]

theorem chainStep_eq (acc : Array FilePlan) {rest : List FilePlan}
    (hrest : (rest.map (·.path)).Nodup) (prior : FilePlan)
    (hsame : ∀ g ∈ rest, Disk.Path.same g.path prior.path = (g.path == prior.path)) :
    chainStep (acc, rest) prior =
      (acc.push (chainWith rest prior), rest.filter (·.path != prior.path)) := by
  unfold chainStep chainWith
  dsimp only
  rw [List.findIdx?_congr_mem hsame]
  split
  · rename_i i hi
    obtain ⟨hlen, hpath, hfirst⟩ := List.findIdx?_eq_some_iff_getElem.mp hi
    have hfind : rest.find? (·.path == prior.path) = some rest[i] :=
      List.find?_eq_some_iff_getElem.mpr ⟨hpath, i, hlen, rfl, fun j hj => by simpa using hfirst j hj⟩
    have herase : rest.eraseIdx i = rest.eraseP (·.path == prior.path) := by
      rw [List.eraseP_eq_eraseIdx, hi]
    rw [hfind, herase, eraseP_path_eq_filter hrest, List.getD_eq_getElem?_getD,
      List.getElem?_eq_getElem hlen, Option.getD_some]
  · rename_i hi
    have hnone := List.findIdx?_eq_none_iff.mp hi
    rw [List.find?_eq_none.mpr fun x hx => by simp [hnone x hx]]
    refine congrArg _ (List.filter_eq_self.mpr fun x hx => ?_).symm
    simpa using hnone x hx

theorem chainWith_filter {rest : List FilePlan} {p : String} {prior : FilePlan}
    (hp : prior.path ≠ p) : chainWith (rest.filter (·.path != p)) prior = chainWith rest prior := by
  have hfind : (rest.filter (·.path != p)).find? (·.path == prior.path) =
      rest.find? (·.path == prior.path) := by
    rw [List.find?_filter]
    congr 1
    funext x
    by_cases hx : x.path = prior.path
    · simp [hx, hp]
    · simp [hx]
  unfold chainWith
  rw [hfind]

theorem foldl_chainStep :
    ∀ (l : List FilePlan) (acc : Array FilePlan) (rest : List FilePlan),
      (l.map (·.path)).Nodup → (rest.map (·.path)).Nodup →
      (∀ g ∈ rest, ∀ b ∈ l, Disk.Path.same g.path b.path = (g.path == b.path)) →
        l.foldl chainStep (acc, rest) =
          (acc ++ (l.map (chainWith rest)).toArray, rest.filter fun g => !l.any (·.path == g.path))
  | [], acc, rest, _, _, _ => by simp
  | b :: l, acc, rest, hl, hrest, hsame => by
    rw [List.map_cons, List.nodup_cons] at hl
    obtain ⟨hb, hl⟩ := hl
    have hrest' : ((rest.filter (·.path != b.path)).map (·.path)).Nodup :=
      List.Nodup.sublist (List.filter_sublist.map _) hrest
    rw [List.foldl_cons, chainStep_eq acc hrest b fun g hg => hsame g hg b List.mem_cons_self,
      foldl_chainStep l _ _ hl hrest' fun g hg b' hb' =>
        hsame g (List.mem_of_mem_filter hg) b' (List.mem_cons_of_mem b hb')]
    -- the other base files find the plans of their paths as before
    have hsame : l.map (chainWith (rest.filter (·.path != b.path))) = l.map (chainWith rest) :=
      List.map_congr_left fun b' hb' => chainWith_filter fun hpath =>
        hb (List.mem_map.mpr ⟨b', hb', hpath⟩)
    rw [hsame, List.filter_filter]
    simp only [List.map_cons, List.push_append_toArray, List.any_cons, Prod.mk.injEq, true_and]
    refine List.filter_congr fun g _ => ?_
    by_cases hg : g.path = b.path
    · simp [hg]
    · rw [bne_iff_ne.mpr hg, beq_eq_false_iff_ne.mpr (Ne.symm hg)]
      simp

theorem chainFiles_eq {baseFiles planned : List FilePlan} (hbase : (baseFiles.map (·.path)).Nodup)
    (hplanned : (planned.map (·.path)).Nodup)
    (hsame : ∀ g ∈ planned, ∀ b ∈ baseFiles, Disk.Path.same g.path b.path = (g.path == b.path)) :
    chainFiles baseFiles planned =
      baseFiles.map (chainWith planned) ++
        planned.filter fun g => !baseFiles.any (·.path == g.path) := by
  rw [chainFiles_eq_foldl, foldl_chainStep baseFiles #[] planned hbase hplanned hsame]
  simp

theorem positionLe_trans {a b c : Option Nat} (hab : positionLe a b = true)
    (hbc : positionLe b c = true) : positionLe a c = true := by
  match a, b, c with
  | none, _, _ => rfl
  | some _, none, _ => cases hab
  | some _, some _, none => cases hbc
  | some x, some y, some z =>
    simp only [positionLe, decide_eq_true_eq] at hab hbc ⊢
    omega

theorem positionLe_total (a b : Option Nat) : (positionLe a b || positionLe b a) = true := by
  match a, b with
  | none, _ => rfl
  | some _, none => rfl
  | some x, some y =>
    simp only [positionLe, Bool.or_eq_true, decide_eq_true_eq]
    omega

/-- Inserting in order after a run of elements the new one does not precede, and before a run it
precedes, puts it between the runs. -/
theorem orderedInsert_append {α : Type} {r : α → α → Prop} [DecidableRel r] {a : α} {l₂ : List α}
    (hafter : ∀ b ∈ l₂, r a b) :
    ∀ {l₁ : List α}, (∀ b ∈ l₁, ¬r a b) → (l₁ ++ l₂).orderedInsert r a = l₁ ++ a :: l₂
  | [], _ => by
    cases l₂ with
    | nil => rfl
    | cons b bs =>
      rw [List.nil_append, List.orderedInsert_cons, if_pos (hafter b List.mem_cons_self)]
      rfl
  | c :: l₁, hbefore => by
    rw [List.cons_append, List.orderedInsert_cons, if_neg (hbefore c List.mem_cons_self),
      orderedInsert_append hafter fun b hb => hbefore b (List.mem_cons_of_mem c hb), List.cons_append]

/-- With a total and transitive test, `mergeSort` inserts each element in order. -/
theorem mergeSort_eq_insertionSort_of_total {α : Type} {le : α → α → Bool}
    (trans : ∀ a b c, le a b → le b c → le a c) (total : ∀ a b, le a b || le b a) :
    ∀ l : List α, l.mergeSort le = l.insertionSort fun a b => le a b = true
  | [] => by simp
  | a :: l => by
    obtain ⟨l₁, l₂, hcons, hrest, hbefore⟩ := List.mergeSort_cons trans total a l
    -- in the sorted list `a` precedes everything after it
    have hsorted := List.pairwise_mergeSort trans total (a :: l)
    rw [hcons, List.pairwise_append, List.pairwise_cons] at hsorted
    rw [hcons, List.insertionSort_cons, ← mergeSort_eq_insertionSort_of_total trans total l, hrest,
      orderedInsert_append hsorted.2.1.1 fun b hb => by simpa using hbefore b hb]

/-- Sorting plans by the position of their files is inserting them in order. -/
theorem mergeSort_positionLe (t : Tree) (l : List FilePlan) :
    l.mergeSort (fun a b => positionLe (filePosition t a.path) (filePosition t b.path)) =
      l.insertionSort fun a b => positionLe (filePosition t a.path) (filePosition t b.path) = true :=
  @mergeSort_eq_insertionSort_of_total FilePlan
    (fun a b => positionLe (filePosition t a.path) (filePosition t b.path))
    (fun _ _ _ hab hbc => positionLe_trans hab hbc) (fun _ _ => positionLe_total _ _) l

end Edit

namespace Tree

variable {t : Tree}

/-- The plan file `i` gets from a replacement planned from `root` on top of `base`: a file `base`
plans is planned again on its proposed text, any other file as in the tree. -/
def chainAt (t : Tree) (base : List FilePlan) (root : NodeId) (m : Matcher) (r : String)
    (i : Nat) : Option FilePlan :=
  let path := (t.files.getD i default).path
  match base.find? (·.path == path) with
  | some prior =>
    some (chainWith ((Tree.withTexts t (base.map fun f => (f.path, f.proposed))).expectedPlans
      root m r) prior)
  | none => (t.expectedPlans root m r).find? (·.path == path)

/-- The file plans a replacement from `root` planned on top of plans `base` of the tree should
give: for each file of the table in order, the plan it should get, if it gets one. -/
def expectedChain (t : Tree) (base : List FilePlan) (root : NodeId) (m : Matcher) (r : String) :
    List FilePlan :=
  (List.range t.files.size).filterMap (t.chainAt base root m r)

variable {base : List FilePlan} {root : NodeId} {m : Matcher} {r : String}

theorem chainAt_path {i : Nat} {g : FilePlan} (h : t.chainAt base root m r i = some g) :
    g.path = (t.files.getD i default).path := by
  unfold chainAt at h
  dsimp only at h
  split at h
  · rename_i prior hprior
    cases h
    simpa using (List.find?_eq_some_iff_getElem.mp hprior).1
  · simpa using (List.find?_eq_some_iff_getElem.mp h).1

theorem exists_of_mem_expectedChain (hpaths : (t.files.toList.map (·.path)).Nodup)
    (happart : Disk.Path.Apart (t.files.toList.map (·.path))) {g : FilePlan} (hg : g ∈ t.expectedChain base root m r) :
    ∃ i, i < t.files.size ∧ t.chainAt base root m r i = some g ∧
      filePosition t g.path = some i := by
  obtain ⟨i, hi, hat⟩ := List.mem_filterMap.mp hg
  have hi : i < t.files.size := List.mem_range.mp hi
  refine ⟨i, hi, hat, ?_⟩
  rw [chainAt_path hat, Array.getD_eq_getD_getElem?, Array.getElem?_eq_getElem hi, Option.getD_some]
  exact filePosition_eq hpaths happart (Array.getElem?_eq_getElem hi)

theorem expectedChain_increasing (hpaths : (t.files.toList.map (·.path)).Nodup)
    (happart : Disk.Path.Apart (t.files.toList.map (·.path))) :
    (t.expectedChain base root m r).Pairwise fun a b =>
      ∃ i j, filePosition t a.path = some i ∧ filePosition t b.path = some j ∧ i < j := by
  refine List.pairwise_filterMap.mpr (List.pairwise_lt_range.imp_of_mem fun hi hj hij => ?_)
  intro a ha b hb
  have hi := List.mem_range.mp hi
  have hj := List.mem_range.mp hj
  refine ⟨_, _, ?_, ?_, hij⟩
  · rw [chainAt_path ha, Array.getD_eq_getD_getElem?, Array.getElem?_eq_getElem hi,
      Option.getD_some]
    exact filePosition_eq hpaths happart (Array.getElem?_eq_getElem hi)
  · rw [chainAt_path hb, Array.getD_eq_getD_getElem?, Array.getElem?_eq_getElem hj,
      Option.getD_some]
    exact filePosition_eq hpaths happart (Array.getElem?_eq_getElem hj)

theorem expectedChain_nodup (hpaths : (t.files.toList.map (·.path)).Nodup)
    (happart : Disk.Path.Apart (t.files.toList.map (·.path))) :
    (t.expectedChain base root m r).Nodup :=
  (expectedChain_increasing hpaths happart).imp fun ⟨i, j, hi, hj, hij⟩ hab => by
    subst hab
    rw [hi, Option.some_inj] at hj
    omega

end Tree

section Merge

/-! ### The merged plans, sorted by the file table -/

variable {t : Tree} {base : List FilePlan} (root : NodeId) (m : Matcher) (r : String)
variable (hwf : t.WellFormed) (hord : t.FilesInOrder) (hpa : ParentsAbove t.dirs t.files)
  (hpaths : (t.files.toList.map (·.path)).Nodup) (hbase : (base.map (·.path)).Nodup)
  (happart : Disk.Path.Apart (t.files.toList.map (·.path)))
  (hbin : ∀ b ∈ base, ∃ file ∈ t.files.toList, file.path = b.path)

include hwf hord hpa hpaths hbase happart hbin in
theorem Tree.find?_withProposed_of_none {i : Nat} {file : ParsedFile}
    (hf : t.files[i]? = some file) (hnone : base.find? (·.path == file.path) = none) :
    ((Tree.withTexts t (base.map fun f => (f.path, f.proposed))).expectedPlans root m r).find?
        (·.path == file.path) =
      (t.expectedPlans root m r).find? (·.path == file.path) := by
  have hf' : (Tree.withTexts t (base.map fun f => (f.path, f.proposed))).files[i]? = some file := by
    rw [Tree.getElem?_withProposed hpaths happart hbase hbin, hf]
    simp [hnone]
  rw [Tree.find?_expectedPlans (Tree.withProposed_paths_nodup hpaths happart hbase hbin) hf',
    Tree.find?_expectedPlans hpaths hf,
    Tree.matchesIn_congr hwf hord hpa (Tree.withTexts_wellFormed hwf _)
      (Tree.withTexts_filesInOrder hord _) rfl (hf.trans hf'.symm)]

include hwf hord hpa hpaths hbase happart hbin in
theorem mem_merged_iff (g : FilePlan) :
    g ∈ base.map (chainWith ((Tree.withTexts t (base.map fun f => (f.path, f.proposed))).expectedPlans
        root m r)) ++
      ((Tree.withTexts t (base.map fun f => (f.path, f.proposed))).expectedPlans root m r).filter
        (fun g => !base.any (·.path == g.path)) ↔
    g ∈ t.expectedChain base root m r := by
  set t' := Tree.withTexts t (base.map fun f => (f.path, f.proposed)) with ht'
  have hpaths' : (t'.files.toList.map (·.path)).Nodup :=
    Tree.withProposed_paths_nodup hpaths happart hbase hbin
  have hplanned := Tree.expectedPlans_paths_nodup hpaths' root m r
  constructor
  · intro hg
    rcases List.mem_append.mp hg with hg | hg
    · -- a base file finds its file in the table, and the chain gives it its merged plan
      obtain ⟨b, hb, rfl⟩ := List.mem_map.mp hg
      obtain ⟨file, hfile, hpath⟩ := hbin b hb
      obtain ⟨i, hi⟩ := Array.mem_iff_getElem?.mp (Array.mem_toList_iff.mp hfile)
      have hlt : i < t.files.size := (Array.getElem?_eq_some_iff.mp hi).1
      refine List.mem_filterMap.mpr ⟨i, List.mem_range.mpr hlt, ?_⟩
      have hfind : base.find? (·.path == (t.files.getD i default).path) = some b := by
        rw [Array.getD_eq_getD_getElem?, hi, Option.getD_some, hpath]
        exact find?_path_of_mem hbase hb
      simp only [Tree.chainAt, hfind, ht']
    · -- a new file is not read again, so the chain gives it its plan in the tree
      obtain ⟨hg, hnot⟩ := List.mem_filter.mp hg
      obtain ⟨i, file', hf', rfl⟩ := Tree.exists_of_mem_expectedPlans hg
      rw [ht', Tree.getElem?_withProposed hpaths happart hbase hbin] at hf'
      obtain ⟨file, hf, hfile⟩ := Option.map_eq_some_iff.mp hf'
      have hpath : file'.path = file.path := by
        rw [← hfile]
        split <;> rfl
      have hnone : base.find? (·.path == file.path) = none := by
        refine List.find?_eq_none.mpr fun b hb hbp => ?_
        have : base.any (·.path == file'.path) = true :=
          List.any_eq_true.mpr ⟨b, hb, by simpa [hpath] using hbp⟩
        simp [expectedPlan, this] at hnot
      have hlt : i < t.files.size := (Array.getElem?_eq_some_iff.mp hf).1
      refine List.mem_filterMap.mpr ⟨i, List.mem_range.mpr hlt, ?_⟩
      have hget : (t.files.getD i default).path = file.path := by
        rw [Array.getD_eq_getD_getElem?, hf, Option.getD_some]
      simp only [Tree.chainAt, hget, hnone]
      rw [← Tree.find?_withProposed_of_none root m r hwf hord hpa hpaths hbase happart hbin hf hnone,
        ← ht',
        ← hpath]
      exact find?_path_of_mem hplanned hg
  · intro hg
    obtain ⟨i, hi, hat⟩ := List.mem_filterMap.mp hg
    have hlt : i < t.files.size := List.mem_range.mp hi
    have hf : t.files[i]? = some (t.files.getD i default) := by
      rw [Array.getD_eq_getD_getElem?, Array.getElem?_eq_getElem hlt, Option.getD_some]
    unfold Tree.chainAt at hat
    dsimp only at hat
    split at hat
    · -- a base file takes its merged plan
      rename_i prior hprior
      cases hat
      exact List.mem_append_left _ (List.mem_map.mpr ⟨prior, List.mem_of_find?_eq_some hprior, rfl⟩)
    · -- any other file takes its plan in the tree, which the re-read tree gives too
      rename_i hnone
      rw [← Tree.find?_withProposed_of_none root m r hwf hord hpa hpaths hbase happart hbin hf hnone]
        at hat
      have hpath : g.path = (t.files.getD i default).path := by
        simpa using (List.find?_eq_some_iff_getElem.mp hat).1
      refine List.mem_append_right _ (List.mem_filter.mpr ⟨List.mem_of_find?_eq_some hat, ?_⟩)
      have hnot : ∀ b ∈ base, b.path ≠ g.path := fun b hb hbg => by
        have := List.find?_eq_none.mp hnone b hb
        simp [hbg, hpath] at this
      simpa using hnot

include hpaths hbase happart hbin in
theorem merged_nodup :
    (base.map (chainWith ((Tree.withTexts t (base.map fun f => (f.path, f.proposed))).expectedPlans
        root m r)) ++
      ((Tree.withTexts t (base.map fun f => (f.path, f.proposed))).expectedPlans root m r).filter
        (fun g => !base.any (·.path == g.path))).Nodup := by
  have hplanned :=
    Tree.expectedPlans_paths_nodup (Tree.withProposed_paths_nodup hpaths happart hbase hbin) root m r
  refine List.Nodup.of_map (·.path) ?_
  rw [List.map_append, List.map_map]
  simp only [Function.comp_def, chainWith_path]
  refine List.nodup_append.mpr ⟨hbase, List.Nodup.sublist (List.filter_sublist.map _) hplanned, ?_⟩
  -- a new file has a path no base file has
  intro a ha b hb hab
  obtain ⟨prior, hprior, rfl⟩ := List.mem_map.mp ha
  obtain ⟨g, hg, rfl⟩ := List.mem_map.mp hb
  have hnot := (List.mem_filter.mp hg).2
  simp only [Bool.not_eq_eq_eq_not, Bool.not_true, List.any_eq_false, beq_iff_eq] at hnot
  exact hnot prior hprior hab

include hwf hord hpa hpaths hbase happart hbin in
theorem mergeSort_merged :
    (base.map (chainWith ((Tree.withTexts t (base.map fun f => (f.path, f.proposed))).expectedPlans
        root m r)) ++
      ((Tree.withTexts t (base.map fun f => (f.path, f.proposed))).expectedPlans root m r).filter
        (fun g => !base.any (·.path == g.path))).mergeSort
      (fun a b => positionLe (filePosition t a.path) (filePosition t b.path)) =
    t.expectedChain base root m r := by
  have hincreasing : (t.expectedChain base root m r).Pairwise fun a b =>
      ∃ i j, filePosition t a.path = some i ∧ filePosition t b.path = some j ∧ i < j :=
    Tree.expectedChain_increasing hpaths happart
  have hperm := (List.mergeSort_perm _
    fun a b => positionLe (filePosition t a.path) (filePosition t b.path)).trans
    ((List.perm_ext_iff_of_nodup
    (merged_nodup root m r hpaths hbase happart hbin)
    (Tree.expectedChain_nodup hpaths happart)).mpr
    (mem_merged_iff root m r hwf hord hpa hpaths hbase happart hbin))
  have hexpected : (t.expectedChain base root m r).Pairwise fun a b =>
      positionLe (filePosition t a.path) (filePosition t b.path) = true :=
    hincreasing.imp fun ⟨i, j, hi, hj, hij⟩ => by
      rw [hi, hj]
      simp only [positionLe, decide_eq_true_eq]
      omega
  have hsorted := @List.pairwise_mergeSort FilePlan
    (fun a b => positionLe (filePosition t a.path) (filePosition t b.path))
    (fun _ _ _ hab hbc => positionLe_trans hab hbc) (fun _ _ => positionLe_total _ _)
  refine List.Perm.eq_of_pairwise (fun a b ha hb hab hba => ?_) (hsorted _) hexpected hperm
  -- two plans of the chain whose files come no later than each other are one plan
  obtain ⟨i, -, hai, hposa⟩ := Tree.exists_of_mem_expectedChain hpaths happart (hperm.mem_iff.mp ha)
  obtain ⟨j, -, hbj, hposb⟩ := Tree.exists_of_mem_expectedChain hpaths happart hb
  simp only [hposa, hposb, positionLe, decide_eq_true_eq] at hab hba
  obtain rfl : i = j := by omega
  rw [hai] at hbj
  exact Option.some_inj.mp hbj

include hpaths hbase happart hbin in
/-- A plan made on the re-read tree and a base plan name one path only when their paths are one
text. -/
theorem same_planned_eq {g b : FilePlan}
    (hg : g ∈ (Tree.withTexts t (base.map fun f => (f.path, f.proposed))).expectedPlans root m r)
    (hb : b ∈ base) : Disk.Path.same g.path b.path = (g.path == b.path) := by
  obtain ⟨i, file, hf, rfl⟩ := Tree.exists_of_mem_expectedPlans hg
  have hfile : file.path ∈ t.files.toList.map (·.path) := by
    rw [← Tree.withProposed_paths hpaths happart hbase hbin]
    exact Tree.path_mem_paths hf
  exact happart.same_eq hfile (Tree.proposed_paths_mem hbin _ (List.mem_map_of_mem hb))

end Merge

namespace Edit

theorem Session.planOn_eq_of_planFiles {base : Session} {t : Tree} {root : NodeId} {m : Matcher}
    {r : String} (hpend : base.phase = .pending)
    (hroot : (∃ d, root = .dir d) ∨ ∃ f, root = .fileRoot f) {planned : List FilePlan}
    (hplan : planFiles (Tree.withTexts t (base.files.map fun f => (f.path, f.proposed))) root m r =
      .ok planned) :
    base.planOn t root m r =
      .ok { files := (chainFiles base.files planned).mergeSort fun a b =>
              positionLe (filePosition t a.path) (filePosition t b.path),
            encoding := base.encoding, mode := base.mode } := by
  -- a directory or a file's root is found again as itself
  have hscope : rebaseScope base t (Tree.withTexts t (base.files.map fun f => (f.path, f.proposed)))
      root = .ok root := by
    rcases hroot with ⟨d, rfl⟩ | ⟨f, rfl⟩ <;> rfl
  simp only [Session.planOn, hpend, hscope, bne_self_eq_false, Bool.false_eq_true, if_false]
  simp only [bind, Except.bind, hplan]
  rfl

/-- On a tree read from text or built from a plainly named disk, a replacement planned on top of a
pending session succeeds when the expression runs left to right, and gives `expectedChain`. -/
theorem Session.planOn_eq_expectedChain {t : Tree}
    (ht : (∃ loader text, t = Tree.ofText loader text) ∨
      ∃ (b : Builder) (d : Disk) (cwd : List String) (path : String),
        d.Named ∧ b.build d cwd path = .ok t) (base : Session)
    (hpend : base.phase = .pending) (hbase : (base.files.map (·.path)).Nodup)
    (hbin : ∀ b ∈ base.files, ∃ file ∈ t.files.toList, file.path = b.path) (root : NodeId)
    (hroot : (∃ d, root = .dir d) ∨ ∃ f, root = .fileRoot f) (m : Matcher) (r : String)
    (hm : ∀ text ∈ t.files.toList.map (·.text) ++ base.files.map (·.proposed),
      ∀ line ∈ physicalLines text, LeftToRight line (m.regex.findIter line)) :
    base.planOn t root m r =
      .ok { phase := .pending, files := t.expectedChain base.files root m r,
            encoding := base.encoding, mode := base.mode } := by
  have hpaths := Tree.paths_nodup_of_source ht
  have happart := Tree.paths_apart_of_source ht
  obtain ⟨hwf, hord, hpa⟩ : t.WellFormed ∧ t.FilesInOrder ∧ ParentsAbove t.dirs t.files := by
    rcases ht with ⟨loader, text, rfl⟩ | ⟨b, d, cwd, path, -, hbuild⟩
    · exact ⟨Tree.ofText_wellFormed loader text, Tree.ofText_filesInOrder loader text,
        Tree.ofText_parentsAbove loader text⟩
    · exact ⟨Builder.build_wellFormed hbuild, Builder.build_filesInOrder hbuild,
        Builder.build_parentsAbove hbuild⟩
  -- every file of the re-read tree holds a text of the tree or a proposed text
  have hm' : ∀ file ∈ (Tree.withTexts t (base.files.map fun f => (f.path, f.proposed))).files.toList,
      ∀ line ∈ physicalLines file.text, LeftToRight line (m.regex.findIter line) := by
    intro file hfile
    obtain ⟨i, hi⟩ := Array.mem_iff_getElem?.mp (Array.mem_toList_iff.mp hfile)
    rw [Tree.getElem?_withProposed hpaths happart hbase hbin] at hi
    obtain ⟨file₀, hfile₀, rfl⟩ := Option.map_eq_some_iff.mp hi
    split
    · rename_i prior hprior
      exact hm _ (List.mem_append_right _
        (List.mem_map.mpr ⟨prior, List.mem_of_find?_eq_some hprior, rfl⟩))
    · exact hm _ (List.mem_append_left _ (List.mem_map.mpr
        ⟨file₀, Array.mem_toList_iff.mpr (Array.mem_of_getElem? hfile₀), rfl⟩))
  rw [Session.planOn_eq_of_planFiles hpend hroot (planFiles_eq_ok
      (Tree.withTexts_wellFormed hwf _) (Tree.withTexts_filesInOrder hord _) root m r hm'),
    chainFiles_eq hbase
      (Tree.expectedPlans_paths_nodup (Tree.withProposed_paths_nodup hpaths happart hbase hbin)
        root m r)
      fun g hg b hb => same_planned_eq root m r hpaths hbase happart hbin hg hb,
    mergeSort_merged root m r hwf hord hpa hpaths hbase happart hbin]

/-- A pending session proposing `é é` for the text `é` of a tree read from text. -/
def acuteSession : Session :=
  { files := [{ path := "", original := "é\n", fingerprint := fingerprint "é\n", proposed := "é é\n",
                found := [], replacements := [] }],
    encoding := .utf8 }

/-- Replacing `é` by `e` from the file's root on top of a session that proposes `é é`. -/
theorem acuteSession_chains :
    ((∃ loader text, Tree.ofText {} "é\n" = Tree.ofText loader text) ∨
      ∃ (b : Builder) (d : Disk) (cwd : List String) (path : String),
        d.Named ∧ b.build d cwd path = .ok (Tree.ofText {} "é\n")) ∧ acuteSession.phase = .pending ∧
    (acuteSession.files.map (·.path)).Nodup ∧
    (∀ b ∈ acuteSession.files, ∃ file ∈ (Tree.ofText {} "é\n").files.toList, file.path = b.path) ∧
    ((∃ d, NodeId.fileRoot 0 = .dir d) ∨ ∃ f, NodeId.fileRoot 0 = .fileRoot f) ∧
    (∀ text ∈ (Tree.ofText {} "é\n").files.toList.map (·.text) ++
        acuteSession.files.map (·.proposed),
      ∀ line ∈ physicalLines text, LeftToRight line (eAcuteMatcher.regex.findIter line)) ∧
    acuteSession.planOn (Tree.ofText {} "é\n") (.fileRoot 0) eAcuteMatcher "e" =
      .ok { phase := .pending,
            files := (Tree.ofText {} "é\n").expectedChain acuteSession.files (.fileRoot 0)
              eAcuteMatcher "e",
            encoding := acuteSession.encoding, mode := acuteSession.mode } :=
  ⟨.inl ⟨{}, _, rfl⟩, rfl, by decide, by simp [acuteSession, Tree.ofText,
      Loader.parseText, ParsedFile.make], .inr ⟨0, rfl⟩, by decide +kernel,
    Session.planOn_eq_expectedChain (.inl ⟨{}, _, rfl⟩) acuteSession rfl (by decide)
      (by simp [acuteSession, Tree.ofText, Loader.parseText, ParsedFile.make]) (.fileRoot 0)
      (.inr ⟨0, rfl⟩) eAcuteMatcher "e" (by decide +kernel)⟩

/-- The matcher of the letter `x`, compiled by hand: record where the match starts, take one `x`,
record where it ends, accept. -/
def xMatcher : Matcher :=
  ⟨{ pattern := "x" },
    ⟨{ insts := #[.accept, .save 1 0, .step (.range 0x78 0x78) 1, .save 0 2], start := 3,
       slots := 2 }, 0, []⟩⟩

/-- A directory `proj` holding `a.py` and `b.py`, each the line `x`. -/
def twinTree : Tree :=
  { root := .dir 0,
    dirs := #[{ name := "proj", path := "proj", children := #[.fileRoot 0, .fileRoot 1],
                parent := none }],
    files := #[{ ({} : Loader).parseText "proj/a.py" "a" "x\n" true with parent := some 0 },
               { ({} : Loader).parseText "proj/b.py" "b" "x\n" true with parent := some 0 }],
    failures := #[], loader := {} }

/-- A replacement planned from a file's root on top of a plan leaves the plan's other files as
proposed, though it matches in them. -/
theorem planOn_keeps_files_outside_root :
    ((Session.plan twinTree (.dir 0) xMatcher "é").toOption.bind fun base =>
        (base.planOn twinTree (.fileRoot 0) eAcuteMatcher "e").toOption).map
      (·.files.map (·.proposed)) = some ["e\n", "é\n"] ∧
    (Session.plan (Tree.ofText {} "é\n") (.fileRoot 0) eAcuteMatcher "e").toOption.map
      (·.files.map (·.proposed)) = some ["e\n"] :=
  -- read as insertion, the sort by the file table is one the kernel evaluates
  ⟨by simp only [Session.planOn, mergeSort_positionLe]; decide +kernel, by decide +kernel⟩

end Edit

end Arbor
