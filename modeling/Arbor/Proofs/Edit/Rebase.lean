import Arbor.Proofs.Edit.Chain
import Arbor.Proofs.Tree.Lookup
import Mathlib.Data.List.Find
/-!
Finding a scope again in re-read files.
-/

namespace Arbor

open Arbor.Outline Arbor.Edit

namespace Tree

variable {t t' : Tree} {f : Nat}

/-! ### Re-reading keeps what the lookup starts from -/

theorem withTexts_parentsAbove (hpa : ParentsAbove t.dirs t.files) (texts : List (String × String)) :
    ParentsAbove (Tree.withTexts t texts).dirs (Tree.withTexts t texts).files := by
  refine ⟨fun d dir hd => hpa.dirs d dir hd, fun g file hg p hp => ?_⟩
  -- a file read again keeps its directory
  obtain ⟨file₀, hfile₀, hre⟩ := rereads_withTexts texts hg
  exact hpa.files g file₀ hfile₀ p (hre.parent ▸ hp)

/-- A file read again keeps the name of its file node. -/
theorem Rereads.name_root {file g : ParsedFile} (hfile : file.WellFormed) (h : t.Rereads file g) :
    (entry g.nodes 0).name = (entry file.nodes 0).name := by
  have hroot : ((g.nodes[0]?.map (·.name)).getD "") = (file.nodes[0]?.map (·.name)).getD "" := by
    rcases h with rfl | ⟨p, text, rfl⟩
    · rfl
    · exact rootName_rereadAt file p text
  simpa only [entry, Array.getD_eq_getD_getElem?, Array.getElem?_eq_getElem hfile.outline.root.1,
    Array.getElem?_eq_getElem (h.wellFormed hfile).outline.root.1, Option.map_some,
    Option.getD_some] using hroot

theorem exists_rereads_withTexts (texts : List (String × String)) {file : ParsedFile}
    (hf : t.files[f]? = some file) :
    ∃ g, (Tree.withTexts t texts).files[f]? = some g ∧ t.Rereads file g := by
  have hlt : f < (Tree.withTexts t texts).files.size := by
    rw [size_withTexts]
    exact (Array.getElem?_eq_some_iff.mp hf).1
  obtain ⟨file', hf', hre⟩ := rereads_withTexts texts (Array.getElem?_eq_getElem hlt)
  rw [hf, Option.some_inj] at hf'
  exact ⟨_, Array.getElem?_eq_getElem hlt, hf' ▸ hre⟩

theorem name_fileRoot_withTexts (hwf : t.WellFormed) (texts : List (String × String))
    {file : ParsedFile} (hf : t.files[f]? = some file) :
    (Tree.withTexts t texts).name (.unit f 0) = t.name (.unit f 0) := by
  have hfile := hwf.files f file hf
  obtain ⟨g, hg, hre⟩ := exists_rereads_withTexts texts hf
  rw [name_unit hf hfile.outline.root.1, name_unit hg (hre.wellFormed hfile).outline.root.1,
    hre.name_root hfile]

theorem contains_fileRoot (hwf : t.WellFormed) {file : ParsedFile} (hf : t.files[f]? = some file) :
    t.contains (.unit f 0) := by
  rw [contains_unit hf, decide_eq_true_eq]
  exact (hwf.files f file hf).outline.root.1

/-! ### The names below the file node -/

theorem drop_dropWhile_track {x : NodeId} {bs : List NodeId}
    (hbs : t.track x = t.track (.fileRoot f) ++ bs) :
    ((t.track x).dropWhile (· != .fileRoot f)).drop 1 = bs := by
  -- above the file node there are only directories, none of them the file node
  have hdirs : ∀ a ∈ t.ancestorsUpTo (t.size + 1) (.fileRoot f), (a != .fileRoot f) = true := by
    intro a ha
    obtain ⟨d, rfl⟩ := mem_ancestorsUpTo_dir (.inr ⟨f, rfl⟩) ha
    simp [NodeId.fileRoot]
  rw [hbs, track, List.append_assoc, List.dropWhile_append_of_pos hdirs, List.singleton_append,
    List.dropWhile_cons_of_neg (by simp)]
  rfl

theorem isPlainName_of_mem_track (hwf : t.WellFormed) {file : ParsedFile}
    (hf : t.files[f]? = some file) {x : NodeId} (hk : t.kind x ≠ .content) {k : Nat} (hk0 : 0 < k)
    (hks : k < file.nodes.size) (hmem : .unit f k ∈ t.track x) : IsPlainName (t.name (.unit f k)) := by
  have hka : t.kind (.unit f k) ≠ .content := by
    by_cases hx : NodeId.unit f k = x
    · rw [hx]
      exact hk
    · exact kind_ne_content_of_mem_track hwf hmem hx
  rw [kind_unit hf hks] at hka
  rw [name_unit hf hks]
  exact (hwf.files f file hf).names k hk0 hks hka

/-! ### Two trees with one outline for a file -/

/-- The outline of file `f`: the kind, name and children of each of its nodes, in order. -/
def outlineOf (t : Tree) (f : Nat) : Option (Array (Kind × String × Array Nat)) :=
  (t.files[f]?).map fun file => file.nodes.map fun n => (n.kind, n.name, n.children)

theorem node?_map_outline (t : Tree) (f i : Nat) :
    (t.node? (.unit f i)).map (fun n => (n.kind, n.name, n.children)) =
      (t.outlineOf f).bind (·[i]?) := by
  cases hf : t.files[f]? <;> simp [node?, outlineOf, hf]

section SameOutline

variable (h : t'.outlineOf f = t.outlineOf f)
include h

theorem node?_map_eq_of_outlineOf (i : Nat) :
    (t'.node? (.unit f i)).map (fun n => (n.kind, n.name, n.children)) =
      (t.node? (.unit f i)).map (fun n => (n.kind, n.name, n.children)) := by
  rw [node?_map_outline, node?_map_outline, h]

theorem kind_eq_of_outlineOf (i : Nat) : t'.kind (.unit f i) = t.kind (.unit f i) := by
  have hi := congrArg (fun o => (o.map (·.1)).getD .content) (node?_map_eq_of_outlineOf h i)
  simpa [kind, Option.map_map, Function.comp_def] using hi

theorem name_eq_of_outlineOf (i : Nat) : t'.name (.unit f i) = t.name (.unit f i) := by
  have hi := congrArg (fun o => (o.map (·.2.1)).getD "") (node?_map_eq_of_outlineOf h i)
  simpa [name, Option.map_map, Function.comp_def] using hi

theorem children_eq_of_outlineOf (i : Nat) : t'.children (.unit f i) = t.children (.unit f i) := by
  have hi := congrArg (fun o => ((o.map (·.2.2.toList)).getD []).map (NodeId.unit f))
    (node?_map_eq_of_outlineOf h i)
  simpa [children, Option.map_map, Function.comp_def] using hi

theorem findChild?_eq_of_outlineOf (i : Nat) (s : String) :
    t'.findChild? (.unit f i) s = t.findChild? (.unit f i) s := by
  unfold findChild?
  rw [children_eq_of_outlineOf h]
  refine List.find?_congr fun c hc => ?_
  obtain ⟨k, rfl⟩ := exists_eq_unit_of_mem_children (List.mem_reverse.mp hc)
  rw [kind_eq_of_outlineOf h, name_eq_of_outlineOf h]

theorem walkNames_eq_of_outlineOf :
    ∀ (names : List String) (i : Nat), t'.walkNames (.unit f i) names = t.walkNames (.unit f i) names
  | [], _ => rfl
  | s :: rest, i => by
    simp only [walkNames, findChild?_eq_of_outlineOf h i s, name_eq_of_outlineOf h i]
    split
    · rename_i c hc
      obtain ⟨k, rfl⟩ := exists_eq_unit_of_mem_children (mem_children_of_findChild? hc)
      exact walkNames_eq_of_outlineOf rest k
    · split
      · exact walkNames_eq_of_outlineOf rest i
      · rfl

end SameOutline

end Tree

namespace Edit

/-! ### The lookup by names -/

section Lookup

variable {base : Session} {t proposed : Tree} {f j : Nat} {bs : List NodeId}

theorem rebaseScope_unit (hj : j ≠ 0) (hrebased : base.files.any (·.path == t.path (.unit f j)) = true)
    (hbs : t.track (.unit f j) = t.track (.fileRoot f) ++ bs)
    (hplain : ∀ a ∈ bs, IsPlainName (t.name a)) :
    rebaseScope base t proposed (.unit f j) =
      (proposed.resolveFrom (.fileRoot f) (".".intercalate (bs.map t.name))).mapError
        fun _ => .scopeNotFound (t.absoluteName (.unit f j)) := by
  have hj0 : (j == 0) = false := by simpa using hj
  -- the plan for the very path is one for the same path
  have hsame : base.files.any (Disk.Path.same ·.path (t.path (.unit f j))) = true := by
    obtain ⟨g, hg, hpath⟩ := List.any_eq_true.mp hrebased
    exact List.any_eq_true.mpr ⟨g, hg, by simp [beq_iff_eq.mp hpath]⟩
  -- no name below the file node is empty
  have hempty : (bs.map t.name).any (·.isEmpty) = false := by
    refine List.any_eq_false.mpr fun s hs => ?_
    obtain ⟨a, ha, rfl⟩ := List.mem_map.mp hs
    simp [(hplain a ha).isEmpty_eq_false]
  simp only [rebaseScope, hj0, hsame, Tree.drop_dropWhile_track hbs, hempty, Bool.not_true,
    Bool.or_self, Bool.false_eq_true, ↓reduceIte]
  cases proposed.resolveFrom (.fileRoot f) (".".intercalate (bs.map t.name)) <;> rfl

variable (hwf' : proposed.WellFormed) (hj : j ≠ 0)
  (hrebased : base.files.any (·.path == t.path (.unit f j)) = true)
  (hbs : t.track (.unit f j) = t.track (.fileRoot f) ++ bs) (hne : bs ≠ [])
  (hplain : ∀ a ∈ bs, IsPlainName (t.name a))
include hwf' hj hrebased hbs hne hplain

theorem rebaseScope_eq_ok_iff {n : NodeId} :
    rebaseScope base t proposed (.unit f j) = .ok n ↔
      proposed.walkNames (.unit f 0) (bs.map t.name) = some n := by
  have hres : (proposed.resolveFrom (.unit f 0) (".".intercalate (bs.map t.name))).toOption =
      proposed.walkNames (.unit f 0) (bs.map t.name) :=
    Tree.resolveFrom_intercalate (Tree.plainChildren hwf' f) (by simpa using hne)
      (by simpa using hplain) 0
  rw [rebaseScope_unit hj hrebased hbs hplain, NodeId.fileRoot, ← hres]
  cases proposed.resolveFrom (.unit f 0) (".".intercalate (bs.map t.name)) <;>
    simp [Except.mapError, Except.toOption]

theorem rebaseScope_eq_error (hwalk : proposed.walkNames (.unit f 0) (bs.map t.name) = none) :
    rebaseScope base t proposed (.unit f j) = .error (.scopeNotFound (t.absoluteName (.unit f j))) := by
  have h : (proposed.resolveFrom (.unit f 0) (".".intercalate (bs.map t.name))).toOption = none := by
    rw [← hwalk]
    exact Tree.resolveFrom_intercalate (Tree.plainChildren hwf' f) (by simpa using hne)
      (by simpa using hplain) 0
  rw [rebaseScope_unit hj hrebased hbs hplain, NodeId.fileRoot]
  cases hres : proposed.resolveFrom (.unit f 0) (".".intercalate (bs.map t.name)) with
  | ok id => simp [hres, Except.toOption] at h
  | error e => rfl

end Lookup

/-! ### Looking the scope up again -/

/-- A scope in a file a base plan changes is found again by the names on its way down, and is found
as itself in an unchanged outline exactly when each node is the last child of its name. -/
theorem rebaseScope_follows_names {t : Tree}
    (ht : (∃ loader text, t = Tree.ofText loader text) ∨
      ∃ (b : Builder) (d : Disk) (cwd : List String) (path : String),
        d.Named ∧ b.build d cwd path = .ok t) (base : Session)
    (hbase : (base.files.map (·.path)).Nodup) {f j : Nat} (hroot : t.contains (.unit f j))
    (hj : j ≠ 0) (hk : t.kind (.unit f j) ≠ .content)
    (hrebased : base.files.any (·.path == t.path (.unit f j)) = true)
    {bs : List NodeId} (hbs : t.track (.unit f j) = t.track (.fileRoot f) ++ bs) :
    let proposed := Tree.withTexts t (base.files.map fun g => (g.path, g.proposed))
    ((t.name (.fileRoot f) :: bs.map t.name).IsChain (· ≠ ·) →
      (∀ n, rebaseScope base t proposed (.unit f j) = .ok n →
        ∃ i as, n = .unit f i ∧ proposed.contains n ∧
          proposed.track n = proposed.track (.fileRoot f) ++ as ∧
          as.map proposed.name = bs.map t.name) ∧
      ((¬∃ i as, proposed.contains (.unit f i) ∧
          proposed.track (.unit f i) = proposed.track (.fileRoot f) ++ as ∧
          as.map proposed.name = bs.map t.name) →
        rebaseScope base t proposed (.unit f j) =
          .error (.scopeNotFound (t.absoluteName (.unit f j))))) ∧
    (proposed.outlineOf f = t.outlineOf f →
      (rebaseScope base t proposed (.unit f j) = .ok (.unit f j) ↔
        ∀ a ∈ bs, ∀ p, t.parent? a = some p → t.IsLastNamed p a)) := by
  intro proposed
  obtain ⟨hwf, hpa⟩ : t.WellFormed ∧ ParentsAbove t.dirs t.files := by
    rcases ht with ⟨loader, text, rfl⟩ | ⟨b, d, cwd, path, -, hbuild⟩
    · exact ⟨Tree.ofText_wellFormed loader text, Tree.ofText_parentsAbove loader text⟩
    · exact ⟨Builder.build_wellFormed hbuild, Builder.build_parentsAbove hbuild⟩
  have hwf' : proposed.WellFormed := Tree.withTexts_wellFormed hwf _
  have hpa' : ParentsAbove proposed.dirs proposed.files := Tree.withTexts_parentsAbove hpa _
  obtain ⟨file, hf, hjs⟩ : ∃ file, t.files[f]? = some file ∧ j < file.nodes.size := by
    cases hf : t.files[f]? with
    | none => simp [Tree.contains, hf] at hroot
    | some file => exact ⟨file, rfl, by simpa [Tree.contains, hf] using hroot⟩
  -- `bs` is the chain of parent links from the file node down to the scope
  obtain ⟨as, hchain, hlast, hunits⟩ := Tree.exists_chain_unit hwf hf j hjs
  obtain rfl : as = bs := by
    have htrack := Tree.track_getLast_of_isChain hwf hpa hchain
    rw [hlast, hbs] at htrack
    exact (List.append_cancel_left htrack).symm
  have hplain : ∀ a ∈ as, IsPlainName (t.name a) := by
    intro a ha
    obtain ⟨k, rfl, hk0, hks⟩ := hunits a ha
    exact Tree.isPlainName_of_mem_track hwf hf hk hk0 hks
      (by rw [hbs]; exact List.mem_append_right _ ha)
  have hne : as ≠ [] := by
    rintro rfl
    exact hj (NodeId.unit.inj hlast).2.symm
  have hok := fun n => rebaseScope_eq_ok_iff (n := n) hwf' hj hrebased hbs hne hplain
  refine ⟨fun hdistinct => ?_, fun hsame => ?_⟩
  · obtain ⟨file', hf', -⟩ := Tree.exists_rereads_withTexts
      (base.files.map fun g => (g.path, g.proposed)) hf
    have hdistinct' : (proposed.name (.unit f 0) :: as.map t.name).IsChain (· ≠ ·) := by
      rw [Tree.name_fileRoot_withTexts hwf _ hf]
      exact hdistinct
    -- a node the walk ends at carries the names, so when none does the walk fails
    have hfound : ∀ n, rebaseScope base t proposed (.unit f j) = .ok n →
        ∃ i as', n = .unit f i ∧ proposed.contains n ∧
          proposed.track n = proposed.track (.fileRoot f) ++ as' ∧
          as'.map proposed.name = as.map t.name := fun n hn =>
      Tree.walkNames_of_distinct hwf' hpa' (Tree.contains_fileRoot hwf' hf') hdistinct'
        ((hok n).mp hn)
    refine ⟨hfound, fun hnone => rebaseScope_eq_error hwf' hj hrebased hbs hne hplain ?_⟩
    cases hwalk : proposed.walkNames (.unit f 0) (as.map t.name) with
    | none => rfl
    | some n =>
      obtain ⟨i, as', rfl, hcont, htrack, hnames⟩ := hfound n ((hok n).mpr hwalk)
      exact absurd ⟨i, as', hcont, htrack, hnames⟩ hnone
  · -- with one outline the walk in the re-read tree is the walk in the original
    have hsameWalk : proposed.walkNames (.unit f 0) (as.map t.name) =
        t.walkNames (.unit f 0) (as.map t.name) :=
      Tree.walkNames_eq_of_outlineOf hsame _ 0
    have hiff := Tree.walkNames_eq_getLast_iff hwf hpa hchain
    rw [hlast, Tree.isChain_iff_forall_parent hchain] at hiff
    simp only [List.tail_cons, Tree.findChild?_eq_some_iff, true_and] at hiff
    rw [hok, hsameWalk, hiff]

def slotText : String := "# slot\n\ndef g():\n    return token\n\nx = token\n"

/-- A plan that writes a new function in place of the marker line of `slotText`. -/
def slotPlan : Session :=
  { files := [{ path := "", original := slotText, fingerprint := fingerprint slotText,
                proposed := "def extra():\n    return token\n\ndef g():\n    return token\n\nx = token\n",
                found := [], replacements := [] }],
    encoding := .utf8 }

/-- The scope `g` of `slotText` is found in the re-read file as a node with the names of `g`. -/
theorem rebaseScope_follows_names_slot :
    ∃ i as, NodeId.unit 0 2 = .unit 0 i ∧
      (Tree.withTexts (Tree.ofText {} slotText) (slotPlan.files.map fun g => (g.path, g.proposed))).contains
        (.unit 0 2) ∧
      (Tree.withTexts (Tree.ofText {} slotText) (slotPlan.files.map fun g => (g.path, g.proposed))).track
          (.unit 0 2) =
        (Tree.withTexts (Tree.ofText {} slotText) (slotPlan.files.map fun g => (g.path, g.proposed))).track
          (.fileRoot 0) ++ as ∧
      as.map (Tree.withTexts (Tree.ofText {} slotText) (slotPlan.files.map fun g => (g.path, g.proposed))).name =
        [NodeId.unit 0 1].map (Tree.ofText {} slotText).name :=
  ((rebaseScope_follows_names (Or.inl ⟨{}, slotText, rfl⟩) slotPlan (by decide)
    (f := 0) (j := 1) (by decide +kernel) (by decide) (by decide +kernel) (by decide +kernel)
      (by decide +kernel)).1 (by decide +kernel)).1 (.unit 0 2) (by decide +kernel)

def nestedText : String := "def f():\n    def f():\n        x = 1\n    y = 1\n"

/-- A plan renaming the inner `f` of `nestedText` to `g`. -/
def renameInner : Session :=
  { files := [{ path := "", original := nestedText, fingerprint := fingerprint nestedText,
                proposed := "def f():\n    def g():\n        x = 1\n    y = 1\n", found := [],
                replacements := [] }],
    encoding := .utf8 }

def twinText : String := "def f(): pass\ndef f(): pass\n"

/-- A plan changing the body of the first `f` of `twinText`. -/
def editFirstTwin : Session :=
  { files := [{ path := "", original := twinText, fingerprint := fingerprint twinText,
                proposed := "def f(): x\ndef f(): pass\n", found := [], replacements := [] }],
    encoding := .utf8 }

/-- The lookup can move a scope: after a rename `f.f` is found as the outer `f`, and the first of
two definitions of `f` as the second. -/
theorem rebaseScope_moves_scope :
    rebaseScope renameInner (Tree.ofText {} nestedText)
        (Tree.withTexts (Tree.ofText {} nestedText) (renameInner.files.map fun g => (g.path, g.proposed)))
        (.unit 0 2) = .ok (.unit 0 1) ∧
      ((Tree.ofText {} nestedText).track (.unit 0 2)).map (Tree.ofText {} nestedText).name =
        ["", "f", "f"] ∧
      ((Tree.withTexts (Tree.ofText {} nestedText)
          (renameInner.files.map fun g => (g.path, g.proposed))).track (.unit 0 1)).map
        (Tree.withTexts (Tree.ofText {} nestedText)
          (renameInner.files.map fun g => (g.path, g.proposed))).name = ["", "f"] ∧
      rebaseScope editFirstTwin (Tree.ofText {} twinText)
        (Tree.withTexts (Tree.ofText {} twinText) (editFirstTwin.files.map fun g => (g.path, g.proposed)))
        (.unit 0 1) = .ok (.unit 0 2) ∧
      (Tree.withTexts (Tree.ofText {} twinText)
          (editFirstTwin.files.map fun g => (g.path, g.proposed))).outlineOf 0 =
        (Tree.ofText {} twinText).outlineOf 0 ∧
      ∀ i < 3, (Tree.withTexts (Tree.ofText {} twinText)
          (editFirstTwin.files.map fun g => (g.path, g.proposed))).parent? (.unit 0 i) =
        (Tree.ofText {} twinText).parent? (.unit 0 i) := by
  refine ⟨?_, ?_, ?_, ?_, ?_, ?_⟩ <;> decide +kernel

end Edit

end Arbor
