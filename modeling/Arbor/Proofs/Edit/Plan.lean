import Arbor.Edit.Session
import Arbor.Proofs.Edit.Splice
import Arbor.Proofs.Search.FindAll
import Arbor.Proofs.Tree.Lines
import Arbor.Proofs.Tree.Order
/-!
Planning a replacement succeeds, and plans what it should.
-/

namespace Arbor

open Arbor.Pattern Arbor.Text Arbor.Layout Arbor.Edit Arbor.Outline
open String (utf8Len)

/-- Whether a match lies in file `f`. -/
def LineMatch.inFile (f : Nat) (lm : LineMatch) : Bool :=
  match lm.node with
  | .unit g _ => g == f
  | .dir _ => false

/-- The matches of a search from `root` that lie in file `f`, in the order the search finds
them. -/
def Tree.matchesIn (t : Tree) (root : NodeId) (m : Matcher) (f : Nat) : List LineMatch :=
  (t.findAll root m).filter (·.inFile f)

namespace Edit

/-- Byte ranges of a line that run left to right: each is in order, ends no later than the next
starts, and starts and ends between two characters of the line. -/
def LeftToRight (line : String) (spans : List (Nat × Nat)) : Prop :=
  spans.Pairwise (fun p q => p.2 ≤ q.1) ∧
    ∀ p ∈ spans, p.1 ≤ p.2 ∧ isCharBoundary line p.1 ∧ isCharBoundary line p.2

instance (line : String) (spans : List (Nat × Nat)) : Decidable (LeftToRight line spans) :=
  inferInstanceAs (Decidable (_ ∧ _))

/-- The changes a plan should make for the matches `found` of a file: each span of each match,
moved to the offset of its line, replaced by the template expanded for it. -/
def changesFor (m : Matcher) (r : String) (file : ParsedFile) (found : List LineMatch) :
    List (Nat × Nat × String) :=
  found.flatMap fun lm =>
    lm.spans.map fun sp =>
      ((file.lineOffset lm.line).getD 0 + sp.1, (file.lineOffset lm.line).getD 0 + sp.2,
        m.expand lm.text sp r)

/-- The plan a file should get for its matches `found`: its text and that text's fingerprint,
the text with every matched span replaced at once, the matches, and the template expanded for
each matched span. -/
def expectedPlan (m : Matcher) (r : String) (file : ParsedFile) (found : List LineMatch) :
    FilePlan :=
  { path := file.path, original := file.text, fingerprint := fingerprint file.text,
    proposed := replaceRanges file.text 0 (changesFor m r file found), found,
    replacements := found.map fun lm => lm.spans.map fun sp => m.expand lm.text sp r }

end Edit

/-- The file plans a replacement from `root` should give: one for each file with matches, in the
order of the file table. -/
def Tree.expectedPlans (t : Tree) (root : NodeId) (m : Matcher) (r : String) : List FilePlan :=
  ((List.range t.files.size).filter fun f => !(t.matchesIn root m f).isEmpty).map fun f =>
    expectedPlan m r (t.files.getD f default) (t.matchesIn root m f)

namespace Edit

/-! ### Grouping matches by file -/

section Grouping

variable {f : Nat} {groups : List (Nat × List LineMatch)}

theorem addToGroup_new {lm : LineMatch} {j : Nat} (h : lm.node = .unit f j)
    (hf : ∀ g ∈ groups, g.1 ≠ f) : addToGroup groups lm = groups ++ [(f, [lm])] := by
  have hany : groups.any (·.1 == f) = false := by
    simpa using fun g xs hg => hf (g, xs) hg
  simp only [addToGroup, h, hany, Bool.false_eq_true, ↓reduceIte]

theorem addToGroup_last {lm : LineMatch} {j : Nat} (h : lm.node = .unit f j)
    (hf : ∀ g ∈ groups, g.1 ≠ f) (xs : List LineMatch) :
    addToGroup (groups ++ [(f, xs)]) lm = groups ++ [(f, xs ++ [lm])] := by
  simp only [addToGroup, h, List.any_append, List.any_cons, beq_self_eq_true, Bool.true_or,
    Bool.or_true, ↓reduceIte, List.map_append, List.map_cons, List.map_nil]
  congr 1
  -- the groups of other files are left as they are
  conv_rhs => rw [← List.map_id groups]
  refine List.map_congr_left fun g hg => ?_
  obtain ⟨g, ys⟩ := g
  simp [hf (g, ys) hg]

theorem foldl_addToGroup_block (hf : ∀ g ∈ groups, g.1 ≠ f) {xs : List LineMatch}
    (hxs : ∀ lm ∈ xs, ∃ j, lm.node = .unit f j) :
    xs.foldl addToGroup groups = if xs.isEmpty then groups else groups ++ [(f, xs)] := by
  -- after the first match the file has its group, the last one, and the others join it
  have hjoin : ∀ (ys zs : List LineMatch), (∀ lm ∈ zs, ∃ j, lm.node = .unit f j) →
      zs.foldl addToGroup (groups ++ [(f, ys)]) = groups ++ [(f, ys ++ zs)] := by
    intro ys zs
    induction zs generalizing ys with
    | nil => intro _; simp
    | cons lm zs ih =>
      intro hzs
      obtain ⟨j, hj⟩ := hzs lm List.mem_cons_self
      rw [List.foldl_cons, addToGroup_last hj hf, ih _ fun lm' hlm' => hzs lm' (.tail _ hlm')]
      simp
  cases xs with
  | nil => rfl
  | cons lm xs =>
    obtain ⟨j, hj⟩ := hxs lm List.mem_cons_self
    rw [List.foldl_cons, addToGroup_new hj hf, hjoin _ _ fun lm' hlm' => hxs lm' (.tail _ hlm')]
    simp

theorem groupByFile_flatMap {fs : List Nat} (hfs : fs.Nodup) (blocks : Nat → List LineMatch)
    (hblocks : ∀ f ∈ fs, ∀ lm ∈ blocks f, ∃ j, lm.node = .unit f j) :
    groupByFile (fs.flatMap blocks) =
      (fs.filter fun f => !(blocks f).isEmpty).map fun f => (f, blocks f) := by
  -- the groups so far hold files before the rest, so the next file has no group yet
  have hrun : ∀ (fs : List Nat) (groups : List (Nat × List LineMatch)), fs.Nodup →
      (∀ f ∈ fs, ∀ lm ∈ blocks f, ∃ j, lm.node = .unit f j) → (∀ g ∈ groups, g.1 ∉ fs) →
      (fs.flatMap blocks).foldl addToGroup groups =
        groups ++ (fs.filter fun f => !(blocks f).isEmpty).map fun f => (f, blocks f) := by
    intro fs
    induction fs with
    | nil => intro groups _ _ _; simp
    | cons f fs ih =>
      intro groups hnodup hfs hgroups
      obtain ⟨hfnot, hnodup⟩ := List.nodup_cons.mp hnodup
      rw [List.flatMap_cons, List.foldl_append,
        foldl_addToGroup_block (fun g hg hgf => hgroups g hg (hgf ▸ List.mem_cons_self))
          (hfs f List.mem_cons_self)]
      by_cases hempty : (blocks f).isEmpty
      · rw [if_pos hempty, ih groups hnodup (fun f' hf' => hfs f' (.tail _ hf'))
          (fun g hg hgf => hgroups g hg (.tail _ hgf)), List.filter_cons_of_neg (by simp [hempty])]
      · rw [if_neg hempty, ih _ hnodup (fun f' hf' => hfs f' (.tail _ hf')) ?_,
          List.filter_cons_of_pos (by simp [hempty])]
        · simp
        · intro g hg hgf
          rcases List.mem_append.mp hg with hg | hg
          · exact hgroups g hg (.tail _ hgf)
          · obtain rfl : g = (f, blocks f) := by simpa using hg
            exact hfnot hgf
  simpa [groupByFile] using hrun fs [] hfs hblocks (by simp)


end Grouping

/-! ### The edits of a file -/

/-- The edit for span `sp` of match `lm` in `file`: the span moved to the offset of the match's
line, replaced by the template expanded for it, expecting the matched text. -/
def spanEdit (m : Matcher) (r : String) (file : ParsedFile) (lm : LineMatch) (sp : Nat × Nat) :
    Splice :=
  { start := (file.lineOffset lm.line).getD 0 + sp.1,
    stop := (file.lineOffset lm.line).getD 0 + sp.2, insert := m.expand lm.text sp r,
    expected := .ofText (sliceBytes lm.text sp.1 sp.2) }

theorem matchEdits_eq (file : ParsedFile) (m : Matcher) (r : String) (ms : List LineMatch) :
    matchEdits file m r ms = (ms.flatMap fun lm => lm.spans.map (spanEdit m r file lm),
      ms.map fun lm => lm.spans.map fun sp => m.expand lm.text sp r) := by
  simp only [matchEdits, List.map_map, Function.comp_def, List.flatMap, Prod.mk.injEq, and_true]
  congr 1
  refine List.map_congr_left fun lm _ => ?_
  -- each span is zipped with its own expansion
  generalize lm.spans = spans
  induction spans with
  | nil => rfl
  | cons sp spans ih =>
    obtain ⟨a, b⟩ := sp
    simp only [List.map_cons, List.zip_cons_cons, ih]
    rfl

theorem Expectation.holds_ofText (s : String) : (Expectation.ofText s).holds s = true := by
  unfold Expectation.ofText
  split <;> simp [Expectation.holds]

section Clean

variable {m : Matcher} {r : String} {file : ParsedFile}

theorem spanEdit_fits (hwf : file.WellFormed) {lm : LineMatch}
    (hl : file.line lm.line = some lm.text) {a b : Nat} (hab : a < b)
    (ha : isCharBoundary lm.text a) (hb : isCharBoundary lm.text b) :
    (spanEdit m r file lm (a, b)).start < (spanEdit m r file lm (a, b)).stop ∧
      isCharBoundary file.text (spanEdit m r file lm (a, b)).start ∧
      isCharBoundary file.text (spanEdit m r file lm (a, b)).stop ∧
      (spanEdit m r file lm (a, b)).expected.holds (sliceBytes file.text
        (spanEdit m r file lm (a, b)).start (spanEdit m r file lm (a, b)).stop) := by
  obtain ⟨before, after, htext, hoff⟩ := hwf.line_in_text hl
  simp only [spanEdit, hoff, Option.getD_some]
  refine ⟨by omega, isCharBoundary_within htext ha, isCharBoundary_within htext hb, ?_⟩
  rw [sliceBytes_within htext ha hb hab.le]
  exact Expectation.holds_ofText _

theorem spanEdit_stop_le (hwf : file.WellFormed) {lm lm' : LineMatch}
    (hl : file.line lm.line = some lm.text) (hl' : file.line lm'.line = some lm'.text)
    (hll : lm.line < lm'.line) {a b a' b' : Nat} (hb : isCharBoundary lm.text b) :
    (spanEdit m r file lm (a, b)).stop ≤ (spanEdit m r file lm' (a', b')).start := by
  obtain ⟨before, -, -, hoff⟩ := hwf.line_in_text hl
  obtain ⟨before', -, -, hoff'⟩ := hwf.line_in_text hl'
  have hafter := hwf.lineOffset_add_le hl hoff hoff' hll
  have hinside := le_of_isCharBoundary hb
  simp only [spanEdit, hoff, hoff', Option.getD_some]
  omega

theorem clean_spanEdits (hwf : file.WellFormed) {ms : List LineMatch}
    (hline : ∀ lm ∈ ms, file.line lm.line = some lm.text)
    (hspans : ∀ lm ∈ ms, LeftToRight lm.text lm.spans ∧ ∀ sp ∈ lm.spans, sp.1 < sp.2)
    (hord : ms.Pairwise fun lm lm' => lm.line < lm'.line) :
    Clean file.text (ms.flatMap fun lm => lm.spans.map (spanEdit m r file lm)) := by
  have hfits : ∀ e ∈ ms.flatMap (fun lm => lm.spans.map (spanEdit m r file lm)),
      e.start < e.stop ∧ isCharBoundary file.text e.start ∧ isCharBoundary file.text e.stop ∧
        e.expected.holds (sliceBytes file.text e.start e.stop) := by
    intro e he
    obtain ⟨lm, hlm, hsp⟩ := List.mem_flatMap.mp he
    obtain ⟨⟨a, b⟩, hab, rfl⟩ := List.mem_map.mp hsp
    obtain ⟨⟨-, hbound⟩, hne⟩ := hspans lm hlm
    exact spanEdit_fits hwf (hline lm hlm) (hne _ hab) (hbound _ hab).2.1 (hbound _ hab).2.2
  refine ⟨fun e he => (hfits e he).1, fun e he => (hfits e he).2.1,
    fun e he => (hfits e he).2.2.1, fun e he => (hfits e he).2.2.2, ?_⟩
  rw [List.pairwise_flatMap]
  refine ⟨fun lm hlm => ?_, ?_⟩
  · -- the spans of one line keep their order
    rw [List.pairwise_map]
    exact (hspans lm hlm).1.1.imp fun hpq => by simp only [spanEdit]; omega
  · -- the spans of an earlier line end before those of a later one
    refine List.Pairwise.imp_of_mem (fun hlm hlm' hll e he e' he' => ?_) hord
    obtain ⟨⟨a, b⟩, hab, rfl⟩ := List.mem_map.mp he
    obtain ⟨⟨a', b'⟩, -, rfl⟩ := List.mem_map.mp he'
    exact spanEdit_stop_le hwf (hline _ hlm) (hline _ hlm') hll ((hspans _ hlm).1.2 _ hab).2.2

end Clean

theorem leftToRight_findAll {m : Matcher} {line : String}
    (h : LeftToRight line (m.regex.findIter line)) :
    LeftToRight line (m.findAll line) ∧ ∀ sp ∈ m.findAll line, sp.1 < sp.2 := by
  have hsub : List.Sublist (m.findAll line) (m.regex.findIter line) := List.filter_sublist
  refine ⟨⟨h.1.sublist hsub, fun p hp => h.2 p (hsub.subset hp)⟩, fun p hp => ?_⟩
  obtain ⟨hmem, hne⟩ := List.mem_filter.mp hp
  have hle := (h.2 p hmem).1
  simp only [bne_iff_ne, ne_eq] at hne
  omega

theorem map_change_spanEdits (m : Matcher) (r : String) (file : ParsedFile)
    (ms : List LineMatch) :
    (ms.flatMap fun lm => lm.spans.map (spanEdit m r file lm)).map Splice.change =
      changesFor m r file ms := by
  simp [changesFor, List.map_flatMap, Function.comp_def, Splice.change, spanEdit]

theorem mapM_eq_ok_map {α β ε : Type} (l : List α) (f : α → Except ε β) (g : α → β)
    (h : ∀ x ∈ l, f x = .ok (g x)) : l.mapM f = .ok (l.map g) := by
  induction l with
  | nil => rfl
  | cons x xs ih =>
    rw [List.mapM_cons, h x List.mem_cons_self, ih fun y hy => h y (.tail _ hy)]
    rfl

theorem flatMap_ite_eq {α : Type} {fs : List Nat} (hfs : fs.Nodup) (blocks : Nat → List α)
    (f : Nat) :
    fs.flatMap (fun g => if g = f then blocks g else []) = if f ∈ fs then blocks f else [] := by
  induction fs with
  | nil => rfl
  | cons g gs ih =>
    obtain ⟨hg, hgs⟩ := List.nodup_cons.mp hfs
    rw [List.flatMap_cons, ih hgs]
    by_cases hgf : g = f
    · subst hgf
      simp [hg]
    · simp [hgf, Ne.symm hgf]

end Edit

namespace Tree

open Arbor.Edit

variable {t : Tree} {m : Matcher} {f : Nat} {lines : ParsedFile → List Nat}

theorem lineMatch_line {file : ParsedFile} {id : NodeId} {l : Nat} {lm : LineMatch}
    (h : t.lineMatch m file id l = some lm) : lm.line = l := by
  unfold lineMatch at h
  split at h
  · dsimp only at h
    split at h
    · cases h
    · cases h
      rfl
  · cases h

theorem mem_expectedIn {lm : LineMatch} (h : lm ∈ t.expectedIn m f lines) :
    ∃ file, t.files[f]? = some file ∧ lm.line ∈ lines file ∧
      file.line lm.line = some lm.text ∧ lm.spans = m.findAll lm.text ∧
        ∃ j, lm.node = .unit f j := by
  unfold expectedIn at h
  split at h
  · rename_i file hfile
    obtain ⟨l, hl, hlm⟩ := List.mem_filterMap.mp h
    unfold lineMatch at hlm
    split at hlm
    · rename_i text htext
      dsimp only at hlm
      split at hlm
      · cases hlm
      · cases hlm
        exact ⟨file, hfile, hl, htext, rfl, _, rfl⟩
    · cases hlm
  · cases h

/-- The matches of a search from `root` in file `f` of a well-formed tree whose directories each
hold a run of the file table: what the search should find in `f`, if `f` is below `root`. -/
theorem matchesIn_eq_expectedIn (hwf : t.WellFormed) (hord : t.FilesInOrder) (root : NodeId)
    (m : Matcher) (f : Nat) :
    t.matchesIn root m f =
      if f ∈ t.filesBelow (t.size + 1) root then t.expectedIn m f (scannedLines root) else [] := by
  have hnodup := (hord.filesBelow_sorted (t.size + 1) root).nodup
  rw [matchesIn, findAll_eq_of_wellFormed hwf root m, expectedMatches, List.filter_flatMap,
    ← flatMap_ite_eq hnodup (fun g => t.expectedIn m g (scannedLines root)) f]
  refine List.flatMap_congr fun g _ => ?_
  -- the search of file `g` finds matches in `g` only
  by_cases hgf : g = f
  · subst hgf
    rw [if_pos rfl]
    refine List.filter_eq_self.mpr fun lm hlm => ?_
    obtain ⟨-, -, -, -, -, j, hj⟩ := mem_expectedIn hlm
    simp [LineMatch.inFile, hj]
  · rw [if_neg hgf]
    refine List.filter_eq_nil_iff.mpr fun lm hlm => ?_
    obtain ⟨-, -, -, -, -, j, hj⟩ := mem_expectedIn hlm
    simp [LineMatch.inFile, hj, hgf]

theorem expectedIn_increasing (hlines : ∀ file, (lines file).Pairwise (· < ·)) :
    (t.expectedIn m f lines).Pairwise fun lm lm' => lm.line < lm'.line := by
  unfold expectedIn
  split
  · rename_i file _
    rw [List.pairwise_filterMap]
    refine (hlines file).imp fun hll lm hlm lm' hlm' => ?_
    rw [lineMatch_line hlm, lineMatch_line hlm']
    exact hll
  · exact List.Pairwise.nil

theorem scannedLines_increasing (n : NodeId) (file : ParsedFile) :
    (scannedLines n file).Pairwise (· < ·) := by
  unfold scannedLines
  split
  · split
    · exact Span.lines_increasing _
    · exact List.Pairwise.nil
  · rw [List.pairwise_map]
    exact List.pairwise_lt_range.imp fun h => by omega

end Tree

namespace Edit

theorem planFile_eq_ok {t : Tree} (hwf : t.WellFormed) {f : Nat} {file : ParsedFile}
    (hfile : t.files[f]? = some file) {m : Matcher} {r : String}
    (hm : ∀ file ∈ t.files.toList, ∀ line ∈ physicalLines file.text,
      LeftToRight line (m.regex.findIter line))
    {ms : List LineMatch}
    (hline : ∀ lm ∈ ms, file.line lm.line = some lm.text ∧ lm.spans = m.findAll lm.text)
    (hord : ms.Pairwise fun lm lm' => lm.line < lm'.line) :
    planFile t m r f ms = .ok (expectedPlan m r (t.files.getD f default) ms) := by
  have hget : t.files.getD f default = file := by
    simp [Array.getD_eq_getD_getElem?, hfile]
  have hfwf := hwf.files f file hfile
  have hclean : Clean file.text (ms.flatMap fun lm => lm.spans.map (spanEdit m r file lm)) := by
    refine clean_spanEdits hfwf (fun lm hlm => (hline lm hlm).1) (fun lm hlm => ?_) hord
    rw [(hline lm hlm).2]
    exact leftToRight_findAll (hm file (Array.mem_toList_iff.mpr (Array.mem_of_getElem? hfile))
      _ (hfwf.line_mem_physicalLines (hline lm hlm).1))
  rw [planFile, hget]
  dsimp only
  rw [matchEdits_eq]
  simp only [applyAll_eq_ok hclean, map_change_spanEdits]
  rfl

/-- In a well-formed tree whose directories each hold a run of the file table, with a matcher
whose expression runs left to right on every line, the plans of a replacement are the plans
each file should get, one for each file with matches in the order of the file table. -/
theorem planFiles_eq_ok {t : Tree} (hwf : t.WellFormed) (hord : t.FilesInOrder) (root : NodeId)
    (m : Matcher) (r : String)
    (hm : ∀ file ∈ t.files.toList, ∀ line ∈ physicalLines file.text,
      LeftToRight line (m.regex.findIter line)) :
    planFiles t root m r = .ok (t.expectedPlans root m r) := by
  -- the search finds the files below `root` one after another, each once
  generalize hfs : t.filesBelow (t.size + 1) root = fs
  have hfind : t.findAll root m = fs.flatMap fun f => t.expectedIn m f (Tree.scannedLines root) := by
    rw [Tree.findAll_eq_of_wellFormed hwf root m, Tree.expectedMatches, hfs]
  have hsorted : fs.Pairwise (· < ·) := hfs ▸ hord.filesBelow_sorted _ _
  have hnodup : fs.Nodup := hsorted.nodup
  set blocks := fun f => t.expectedIn m f (Tree.scannedLines root) with hblocks
  have hnode : ∀ f ∈ fs, ∀ lm ∈ blocks f, ∃ j, lm.node = .unit f j := by
    intro f _ lm hlm
    obtain ⟨-, -, -, -, -, hj⟩ := Tree.mem_expectedIn hlm
    exact hj
  -- the matches a plan keeps for a file are the search's block for it
  have hin : ∀ f, t.matchesIn root m f = if f ∈ fs then blocks f else [] := fun f => by
    rw [Tree.matchesIn_eq_expectedIn hwf hord, hfs]
  rw [planFiles, hfind, groupByFile_flatMap hnodup blocks hnode, List.mapM_map]
  refine Eq.trans (mapM_eq_ok_map _ _ (fun f => expectedPlan m r (t.files.getD f default) (blocks f))
    fun f hf => ?_) ?_
  · -- each file with a block gets the plan it should
    obtain ⟨lm, hlm⟩ : ∃ lm, lm ∈ blocks f := by
      simpa [List.isEmpty_iff, List.eq_nil_iff_forall_not_mem] using (List.mem_filter.mp hf).2
    obtain ⟨file, hfile, -⟩ := Tree.mem_expectedIn hlm
    refine planFile_eq_ok hwf hfile hm (fun lm hlm => ?_)
      (Tree.expectedIn_increasing fun _ => Tree.scannedLines_increasing root _)
    obtain ⟨file', hfile', -, hl, hspans, -⟩ := Tree.mem_expectedIn hlm
    rw [hfile] at hfile'
    cases hfile'
    exact ⟨hl, hspans⟩
  -- a file has matches below `root` exactly when it is one of the files there with a block
  have hmem : ∀ f, f ∈ fs.filter (fun f => !(blocks f).isEmpty) ↔
      f ∈ (List.range t.files.size).filter fun f => !(t.matchesIn root m f).isEmpty := by
    intro f
    simp only [List.mem_filter, List.mem_range, hin]
    by_cases hf : f ∈ fs
    · simp only [hf, if_true, true_and]
      refine ⟨fun hne => ⟨?_, hne⟩, fun h => h.2⟩
      obtain ⟨lm, hlm⟩ : ∃ lm, lm ∈ blocks f := by
        simpa [List.isEmpty_iff, List.eq_nil_iff_forall_not_mem] using hne
      obtain ⟨file, hfile, -⟩ := Tree.mem_expectedIn hlm
      exact (Array.getElem?_eq_some_iff.mp hfile).1
    · simp [hf]
  have hkeys : fs.filter (fun f => !(blocks f).isEmpty) =
      (List.range t.files.size).filter fun f => !(t.matchesIn root m f).isEmpty := by
    have h₁ := hsorted.filter fun f => !(blocks f).isEmpty
    have h₂ := (List.pairwise_lt_range (n := t.files.size)).filter
      fun f => !(t.matchesIn root m f).isEmpty
    refine List.Perm.eq_of_pairwise (fun a b _ _ hab hba => absurd (hab.trans hba) (lt_irrefl a))
      h₁ h₂ ((List.perm_ext_iff_of_nodup h₁.nodup h₂.nodup).mpr hmem)
  rw [hkeys, Tree.expectedPlans]
  congr 1
  refine List.map_congr_left fun f hf => ?_
  have hf' := (hmem f).mpr hf
  rw [hin f, if_pos (List.mem_filter.mp hf').1]

/-- Planning a replacement from any node of a tree read from text or built from a disk succeeds when
the expression runs left to right, with the plans `expectedPlans` gives. -/
theorem Session.plan_eq_expectedPlans {t : Tree}
    (ht : (∃ loader text, t = Tree.ofText loader text) ∨
      ∃ (b : Builder) (d : Disk) (cwd : List String) (path : String), b.build d cwd path = .ok t)
    (root : NodeId) (m : Matcher) (r : String)
    (hm : ∀ file ∈ t.files.toList, ∀ line ∈ physicalLines file.text,
      LeftToRight line (m.regex.findIter line)) :
    Session.plan t root m r =
      .ok { phase := .pending, files := t.expectedPlans root m r, encoding := t.loader.encoding } := by
  obtain ⟨hwf, hord⟩ : t.WellFormed ∧ t.FilesInOrder := by
    rcases ht with ⟨loader, text, rfl⟩ | ⟨b, d, cwd, path, hbuild⟩
    · exact ⟨Tree.ofText_wellFormed loader text, Tree.ofText_filesInOrder loader text⟩
    · exact ⟨Builder.build_wellFormed hbuild, Builder.build_filesInOrder hbuild⟩
  rw [Session.plan, planFiles_eq_ok hwf hord root m r hm]
  rfl

/-- The matcher of the letter `é`, compiled by hand: record where the match starts, take one `é`,
record where it ends, accept. -/
def eAcuteMatcher : Matcher :=
  ⟨{ pattern := "é" },
    ⟨{ insts := #[.accept, .save 1 0, .step (.range 0xE9 0xE9) 1, .save 0 2], start := 3,
       slots := 2 }, 0, []⟩⟩

/-- Replacing `é` in a two-line text with a carriage return and three two-byte letters. -/
theorem plan_eAcute_eq_expectedPlans :
    ((∃ loader text, Tree.ofText {} "x = é\r\ny = é + é\n" = Tree.ofText loader text) ∨
      ∃ (b : Builder) (d : Disk) (cwd : List String) (path : String),
        b.build d cwd path = .ok (Tree.ofText {} "x = é\r\ny = é + é\n")) ∧
    (∀ file ∈ (Tree.ofText {} "x = é\r\ny = é + é\n").files.toList,
      ∀ line ∈ physicalLines file.text, LeftToRight line (eAcuteMatcher.regex.findIter line)) ∧
    Session.plan (Tree.ofText {} "x = é\r\ny = é + é\n") (.fileRoot 0) eAcuteMatcher "e" =
      .ok { phase := .pending,
            files := (Tree.ofText {} "x = é\r\ny = é + é\n").expectedPlans (.fileRoot 0)
              eAcuteMatcher "e",
            encoding := (Tree.ofText {} "x = é\r\ny = é + é\n").loader.encoding } :=
  ⟨.inl ⟨{}, _, rfl⟩, by decide +kernel,
    Session.plan_eq_expectedPlans (.inl ⟨{}, _, rfl⟩) _ _ _ (by decide +kernel)⟩

end Edit

end Arbor
