import Arbor.Tree.Imports
import Arbor.Proofs.Tree.WellFormed
import Arbor.Proofs.Outline.Declarative
import Arbor.Proofs.Tree.Lines
/-!
Imports follow the `TYPE_CHECKING` rule.
-/

namespace Arbor

open Arbor.Outline Arbor.Layout Arbor.Text

/-! ### Statements start on increasing lines -/

theorem statementsFrom_lines (n : Nat) (ls : List (String × LineKind)) :
    (∀ st ∈ statementsFrom n ls, n ≤ st.line ∧ st.line < n + ls.length) ∧
      (statementsFrom n ls).Pairwise (·.line < ·.line) := by
  fun_induction statementsFrom n ls with
  | case1 => simp
  | case2 n line rest indent text after _ hlen ih =>
    -- the statements after this one start past its line and within the lines it leaves
    obtain ⟨hin, hsorted⟩ := ih
    refine ⟨?_, List.pairwise_cons.mpr ⟨fun st hst => ?_, hsorted⟩⟩
    · intro st hst
      rcases List.mem_cons.mp hst with rfl | hst
      · simp
      · have := hin st hst
        simp only [List.length_cons]
        omega
    · have := hin st hst
      show n < st.line
      omega
  | case3 n line kind rest _ ih =>
    obtain ⟨hin, hsorted⟩ := ih
    refine ⟨fun st hst => ?_, hsorted⟩
    have := hin st hst
    simp only [List.length_cons]
    omega

/-! ### The guard rule -/

def Statement.IsGuard (st : Statement) : Prop := (guardBody? st.text).isSome

instance (st : Statement) : Decidable st.IsGuard := inferInstanceAs (Decidable (_ = true))

/-- Guard `g` of `ss` is still open at statement `k`: every statement after it, up to `k`, is
indented deeper than it. -/
def GuardOpenAt (ss : List Statement) (g k : Nat) : Prop :=
  ∃ G ∈ ss[g]?, G.IsGuard ∧ ∀ j ≤ k, g < j → ∀ S ∈ ss[j]?, G.indent < S.indent

instance (ss : List Statement) (g k : Nat) : Decidable (GuardOpenAt ss g k) := by
  unfold GuardOpenAt
  infer_instance

/-- Statement `k` of `ss` stands under a guard: it is a guard itself, or an earlier guard is
still open at it. -/
def UnderGuard (ss : List Statement) (k : Nat) : Prop :=
  (∃ S ∈ ss[k]?, S.IsGuard) ∨ ∃ g < k, GuardOpenAt ss g k

instance (ss : List Statement) (k : Nat) : Decidable (UnderGuard ss k) := by
  unfold UnderGuard
  infer_instance

/-- The imports a statement makes, flagged `tc`: the names of its body, after the colon of a
guard or else its whole text, split at semicolons. -/
def Statement.importsWith (module : String) (tc : Bool) (st : Statement) : List Import :=
  (((guardBody? st.text).getD st.text).splitOn ";").flatMap fun part =>
    (parseImport (trim part)).map fun (source, name, asName) =>
      { module, source, name, asName, typeChecking := tc, line := st.line }

section Prefix

variable {p q : List Statement} {st : Statement} {g k : Nat}

theorem guardOpenAt_append (hk : k < p.length) (hg : g ≤ k) :
    GuardOpenAt (p ++ q) g k ↔ GuardOpenAt p g k := by
  have hread : ∀ j ≤ k, (p ++ q)[j]? = p[j]? := fun j hj =>
    List.getElem?_append_left (by omega)
  unfold GuardOpenAt
  rw [hread g hg]
  constructor
  · rintro ⟨G, hG, hguard, hdeeper⟩
    exact ⟨G, hG, hguard, fun j hj hgj S hS => hdeeper j hj hgj S (by rwa [hread j hj])⟩
  · rintro ⟨G, hG, hguard, hdeeper⟩
    exact ⟨G, hG, hguard, fun j hj hgj S hS => hdeeper j hj hgj S (by rwa [← hread j hj])⟩

theorem underGuard_append (hk : k < p.length) : UnderGuard (p ++ q) k ↔ UnderGuard p k := by
  unfold UnderGuard
  rw [List.getElem?_append_left hk]
  refine or_congr Iff.rfl (exists_congr fun g => and_congr_right fun hg => ?_)
  exact guardOpenAt_append hk (by omega)

theorem guardOpenAt_concat (hg : g < p.length) :
    GuardOpenAt (p ++ [st]) g p.length ↔
      GuardOpenAt p g p.length ∧ ∀ G ∈ p[g]?, G.indent < st.indent := by
  unfold GuardOpenAt
  rw [List.getElem?_append_left hg]
  constructor
  · rintro ⟨G, hG, hguard, hdeeper⟩
    refine ⟨⟨G, hG, hguard, fun j hj hgj S hS => ?_⟩, fun G' hG' => ?_⟩
    · have hjp : j < p.length := by
        by_contra hjp
        simp [List.getElem?_eq_none (by omega : p.length ≤ j)] at hS
      exact hdeeper j hj hgj S (by rwa [List.getElem?_append_left hjp])
    · obtain rfl := Option.mem_unique hG hG'
      exact hdeeper p.length le_rfl hg st (by simp)
  · rintro ⟨⟨G, hG, hguard, hdeeper⟩, hlast⟩
    refine ⟨G, hG, hguard, fun j hj hgj S hS => ?_⟩
    rcases Nat.lt_or_eq_of_le hj with hjp | rfl
    · exact hdeeper j hj hgj S (by rwa [List.getElem?_append_left hjp] at hS)
    · obtain rfl : S = st := by simpa using hS.symm
      exact hlast G hG

theorem guardOpenAt_concat_self (st : Statement) :
    GuardOpenAt (p ++ [st]) p.length p.length ↔ st.IsGuard := by
  unfold GuardOpenAt
  simp only [List.getElem?_concat_length, Option.mem_def, Option.some.injEq, exists_eq_left']
  exact ⟨fun h => h.1, fun h => ⟨h, fun j hj hgj => absurd hj (by omega)⟩⟩

theorem guardOpenAt_length_concat :
    GuardOpenAt (p ++ [st]) g (p ++ [st]).length ↔ GuardOpenAt (p ++ [st]) g p.length := by
  unfold GuardOpenAt
  refine exists_congr fun G => and_congr_right fun _ => and_congr_right fun _ =>
    ⟨fun hd j hj => hd j (by simp; omega), fun hd j hj hgj S hS => hd j ?_ hgj S hS⟩
  rcases Nat.lt_or_ge j (p.length + 1) with hj' | hj'
  · omega
  · simp [List.getElem?_eq_none (by simp; omega : (p ++ [st]).length ≤ j)] at hS

theorem not_guardOpenAt_of_le (hg : p.length ≤ g) : ¬ GuardOpenAt p g k := by
  rintro ⟨G, hG, -⟩
  simp [List.getElem?_eq_none hg] at hG

end Prefix

/-! ### One guard level decides the rule -/

/-- The guard level left when a statement at `indent` is read: a guard at that indentation or
deeper is closed. -/
def closeGuard (level : Option Nat) (indent : Nat) : Option Nat :=
  match level with
  | some l => if indent ≤ l then none else some l
  | none => none

/-- The reading of one statement: the guard level it leaves and the imports so far. -/
def scanStep (module : String) (acc : Option Nat × List Import) (st : Statement) :
    Option Nat × List Import :=
  let level := closeGuard acc.1 st.indent
  if st.IsGuard then (some (level.getD st.indent), acc.2 ++ st.importsWith module true)
  else (level, acc.2 ++ st.importsWith module level.isSome)

theorem fileImports_eq_foldl (module text : String) :
    fileImports module text = ((statements text).foldl (scanStep module) (none, [])).2 := by
  unfold fileImports
  dsimp only
  congr 2
  funext acc st
  obtain ⟨level, out⟩ := acc
  cases level <;> simp only [scanStep, closeGuard, Statement.IsGuard, Statement.importsWith] <;>
    split <;> simp_all

/-- `level` is the indentation of the outermost guard open at the end of `p`, and none when no
guard is open there. -/
structure GuardLevel (p : List Statement) (level : Option Nat) : Prop where
  closed : level = none → ∀ g, ¬ GuardOpenAt p g p.length
  outermost : ∀ l, level = some l → ∃ g, GuardOpenAt p g p.length ∧ (∃ G ∈ p[g]?, G.indent = l) ∧
    ∀ g', GuardOpenAt p g' p.length → ∀ G ∈ p[g']?, l ≤ G.indent

namespace GuardLevel

variable {p : List Statement} {level : Option Nat} {st : Statement}

theorem nil : GuardLevel [] none :=
  ⟨fun _ g => not_guardOpenAt_of_le (Nat.zero_le g), fun _ h => by cases h⟩

/-- After the closing of a statement, the level kept is that of the outermost guard of `p` still
open at the statement, and none when no guard of `p` is. -/
theorem close (h : GuardLevel p level) (st : Statement) :
    (closeGuard level st.indent = none → ∀ g < p.length, ¬ GuardOpenAt (p ++ [st]) g p.length) ∧
    ∀ l, closeGuard level st.indent = some l → ∃ g < p.length,
      GuardOpenAt (p ++ [st]) g p.length ∧ (∃ G ∈ p[g]?, G.indent = l) ∧
      ∀ g' < p.length, GuardOpenAt (p ++ [st]) g' p.length → ∀ G ∈ p[g']?, l ≤ G.indent := by
  cases level with
  | none =>
    -- no guard of `p` was open, so none is open one statement later
    refine ⟨fun _ g hg hopen => h.closed rfl g ((guardOpenAt_concat hg).mp hopen).1,
      fun l hl => by simp [closeGuard] at hl⟩
    | some l =>
    obtain ⟨g, hopen, ⟨G, hG, rfl⟩, houter⟩ := h.outermost l rfl
    have hg : g < p.length := by
      by_contra hg
      exact not_guardOpenAt_of_le (by omega) hopen
    by_cases hle : st.indent ≤ G.indent
    · -- every open guard sits at or right of the outermost, so the statement closes them all
      refine ⟨fun _ g' hg' hopen' => ?_, fun l' hl' => by simp [closeGuard, hle] at hl'⟩
      obtain ⟨hopen'', hdeeper⟩ := (guardOpenAt_concat hg').mp hopen'
      have houter' := houter g' hopen''
      obtain ⟨G', hG', -⟩ := hopen''
      have := houter' G' hG'
      have := hdeeper G' hG'
      omega
    · -- the outermost guard stays open and stays the outermost
      refine ⟨fun hl => by simp [closeGuard, hle] at hl, fun l' hl' => ?_⟩
      obtain rfl : G.indent = l' := by simpa [closeGuard, hle] using hl'
      refine ⟨g, hg, (guardOpenAt_concat hg).mpr ⟨hopen, fun G' hG' => ?_⟩, ⟨G, hG, rfl⟩,
        fun g' hg' hopen' => houter g' ((guardOpenAt_concat hg').mp hopen').1⟩
      obtain rfl := Option.mem_unique hG hG'
      omega

/-- The scanner's level after one more statement is the outermost open guard's. -/
theorem step (h : GuardLevel p level) :
    GuardLevel (p ++ [st])
      (if st.IsGuard then some ((closeGuard level st.indent).getD st.indent)
        else closeGuard level st.indent) := by
  obtain ⟨hnone, hsome⟩ := h.close st
  -- nothing past the new statement is open, and the new statement is open when it is a guard
  have hpast : ∀ g, p.length < g → ¬ GuardOpenAt (p ++ [st]) g (p ++ [st]).length :=
    fun g hg => not_guardOpenAt_of_le (by simp; omega)
  have hself : GuardOpenAt (p ++ [st]) p.length (p ++ [st]).length ↔ st.IsGuard :=
    guardOpenAt_length_concat.trans (guardOpenAt_concat_self st)
  split
  · next hguard =>
    cases hclose : closeGuard level st.indent with
    | none =>
      -- the new guard is the only one open
      refine ⟨fun h => (Option.some_ne_none _ h).elim, fun l hl => ?_⟩
      obtain rfl : st.indent = l := by simpa using hl
      refine ⟨p.length, hself.mpr hguard, ⟨st, by simp, rfl⟩, fun g' hopen' G' hG' => ?_⟩
      rcases Nat.lt_trichotomy g' p.length with hg' | rfl | hg'
      · exact absurd (guardOpenAt_length_concat.mp hopen') (hnone hclose g' hg')
      · obtain rfl : G' = st := by simpa using hG'.symm
        exact le_rfl
      · exact absurd hopen' (hpast g' hg')
    | some l =>
      -- an outer guard stays open, and the new one sits inside it
      refine ⟨fun h => (Option.some_ne_none _ h).elim, fun l' hl' => ?_⟩
      obtain rfl : l = l' := by simpa using hl'
      obtain ⟨g, hg, hopen, hG, houter⟩ := hsome l hclose
      refine ⟨g, guardOpenAt_length_concat.mpr hopen, by rwa [List.getElem?_append_left hg],
        fun g' hopen' G' hG' => ?_⟩
      rcases Nat.lt_trichotomy g' p.length with hg' | rfl | hg'
      · exact houter g' hg' (guardOpenAt_length_concat.mp hopen') G' (by rwa [List.getElem?_append_left hg'] at hG')
      · obtain rfl : G' = st := by simpa using hG'.symm
        obtain ⟨G, hGmem, rfl⟩ := hG
        exact ((guardOpenAt_concat hg).mp hopen).2 G hGmem |>.le
      · exact absurd hopen' (hpast g' hg')
  · next hguard =>
    -- the new statement opens nothing, so the open guards are those of `p` still open
    refine ⟨fun hclose g hopen => ?_, fun l hl => ?_⟩
    · rcases Nat.lt_trichotomy g p.length with hg | rfl | hg
      · exact hnone hclose g hg (guardOpenAt_length_concat.mp hopen)
      · exact hguard (hself.mp hopen)
      · exact hpast g hg hopen
    · obtain ⟨g, hg, hopen, hG, houter⟩ := hsome l hl
      refine ⟨g, guardOpenAt_length_concat.mpr hopen, by rwa [List.getElem?_append_left hg],
        fun g' hopen' G' hG' => ?_⟩
      rcases Nat.lt_trichotomy g' p.length with hg' | rfl | hg'
      · exact houter g' hg' (guardOpenAt_length_concat.mp hopen') G' (by rwa [List.getElem?_append_left hg'] at hG')
      · exact absurd (hself.mp hopen') hguard
      · exact absurd hopen' (hpast g' hg')

theorem underGuard_concat_iff (h : GuardLevel p level) (st : Statement) :
    UnderGuard (p ++ [st]) p.length ↔ st.IsGuard ∨ (closeGuard level st.indent).isSome := by
  obtain ⟨hnone, hsome⟩ := h.close st
  unfold UnderGuard
  simp only [List.getElem?_concat_length, Option.mem_def, Option.some.injEq, exists_eq_left']
  refine or_congr Iff.rfl ⟨fun ⟨g, hg, hopen⟩ => ?_, fun hlevel => ?_⟩
  · cases hclose : closeGuard level st.indent with
    | none => exact absurd hopen (hnone hclose g hg)
    | some l => rfl
  · obtain ⟨l, hl⟩ := Option.isSome_iff_exists.mp hlevel
    obtain ⟨g, hg, hopen, -⟩ := hsome l hl
    exact ⟨g, hg, hopen⟩

end GuardLevel

theorem scanStep_fst (module : String) (acc : Option Nat × List Import) (st : Statement) :
    (scanStep module acc st).1 = if st.IsGuard then some ((closeGuard acc.1 st.indent).getD st.indent)
      else closeGuard acc.1 st.indent := by
  unfold scanStep
  split <;> rfl

theorem scanStep_snd (module : String) (acc : Option Nat × List Import) (st : Statement) :
    (scanStep module acc st).2 =
      acc.2 ++ st.importsWith module (decide (st.IsGuard ∨ (closeGuard acc.1 st.indent).isSome)) := by
  unfold scanStep
  split <;> simp_all

theorem foldl_scanStep (module : String) (p : List Statement) :
    GuardLevel p (p.foldl (scanStep module) (none, [])).1 ∧
      (p.foldl (scanStep module) (none, [])).2 =
        p.zipIdx.flatMap fun (st, k) => st.importsWith module (decide (UnderGuard p k)) := by
  induction p using List.reverseRecOn with
  | nil => exact ⟨GuardLevel.nil, rfl⟩
  | append_singleton p st ih =>
    obtain ⟨hlevel, hout⟩ := ih
    rw [List.foldl_append, List.foldl_cons, List.foldl_nil, scanStep_fst, scanStep_snd, hout]
    refine ⟨hlevel.step, ?_⟩
    -- the statements before keep their flags, and the new one is flagged by the level
    have hnew : decide (UnderGuard (p ++ [st]) p.length) =
        decide (st.IsGuard ∨ (closeGuard (p.foldl (scanStep module) (none, [])).1 st.indent).isSome) :=
      decide_eq_decide.mpr (hlevel.underGuard_concat_iff st)
    rw [List.zipIdx_append, List.flatMap_append, List.zipIdx_cons, List.zipIdx_nil,
      List.flatMap_singleton, Nat.zero_add]
    dsimp only
    rw [hnew]
    refine congrArg (· ++ _) (List.flatMap_congr fun x hx => ?_)
    have hk : x.2 < p.length := by
      have := (List.mem_zipIdx hx).2.1
      simpa using this
    rw [decide_eq_decide.mpr (underGuard_append hk)]

theorem fileImports_eq (module text : String) :
    fileImports module text = (statements text).zipIdx.flatMap fun (st, k) =>
      st.importsWith module (decide (UnderGuard (statements text) k)) := by
  rw [fileImports_eq_foldl]
  exact (foldl_scanStep module _).2

/-! ### The imports of a file root -/

theorem length_strippedLines (text : String) :
    (strippedLines text).length = (physicalLines text).length := by
  unfold strippedLines
  split <;> simp_all

theorem statements_lines (text : String) :
    (∀ st ∈ statements text, 1 ≤ st.line ∧ st.line ≤ (physicalLines text).length) ∧
      (statements text).Pairwise (·.line < ·.line) := by
  obtain ⟨hin, hsorted⟩ := statementsFrom_lines 1 ((strippedLines text).zip (classify (strippedLines text)))
  refine ⟨fun st hst => ?_, hsorted⟩
  have := hin st hst
  simp only [List.length_zip, length_classify, Nat.min_self, length_strippedLines] at this
  omega

theorem line_of_mem_importsWith {module : String} {tc : Bool} {st : Statement} {i : Import}
    (h : i ∈ st.importsWith module tc) : i.line = st.line := by
  simp only [Statement.importsWith, List.mem_flatMap, List.mem_map] at h
  obtain ⟨_, _, _, _, rfl⟩ := h
  rfl

theorem pairwise_line_flatMap {module : String} {ss : List Statement} (flag : Nat → Bool)
    (h : ss.Pairwise (·.line < ·.line)) :
    ((ss.zipIdx.flatMap fun (st, k) => st.importsWith module (flag k)).map (·.line)).Pairwise (· ≤ ·) := by
  have hzip : ss.zipIdx.Pairwise fun a b => a.1.line < b.1.line := by
    have : (ss.zipIdx.map Prod.fst).Pairwise (·.line < ·.line) := by
      rwa [List.zipIdx_map_fst]
    have hmap := List.pairwise_map.mp this
    exact hmap
  rw [List.pairwise_map, List.pairwise_flatMap]
  refine ⟨fun x _ => ?_, hzip.imp fun hlt i hi j hj => ?_⟩
  · refine List.pairwise_of_forall_mem_list fun i hi j hj => ?_
    rw [line_of_mem_importsWith hi, line_of_mem_importsWith hj]
  · rw [line_of_mem_importsWith hi, line_of_mem_importsWith hj]
    exact hlt.le

/-- The imports of a file root, in the order of their statements, each flagged `TYPE_CHECKING`
exactly when a guard covers it. -/
theorem Tree.imports_fileRoot_typeChecking {t : Tree} (hwf : t.WellFormed) {f : Nat}
    {file : ParsedFile} (hf : t.files[f]? = some file) :
    t.imports (.fileRoot f) =
        (if file.structured then
          (statements file.text).zipIdx.flatMap fun (st, k) =>
            st.importsWith (t.absoluteName (.fileRoot f)) (decide (UnderGuard (statements file.text) k))
        else []) ∧
      ((t.imports (.fileRoot f)).map (·.line)).Pairwise (· ≤ ·) := by
  have hfwf := hwf.files f file hf
  obtain ⟨hsize, -, hspan, -⟩ := hfwf.outline.root
  obtain ⟨hin, hsorted⟩ := statements_lines file.text
  -- the file root spans every line, so every statement of the file is kept
  have hlines : (physicalLines file.text).length = file.lineCount := by
    rw [hfwf.lineCount_eq, physicalLines, List.length_map]
  have heq : t.imports (.fileRoot f) =
      (if file.structured then
        (statements file.text).zipIdx.flatMap fun (st, k) =>
          st.importsWith (t.absoluteName (.fileRoot f)) (decide (UnderGuard (statements file.text) k))
      else []) := by
    simp only [Tree.imports, NodeId.fileRoot, Tree.span?_unit hf hsize, hspan, List.flatMap_cons,
      List.flatMap_nil, List.append_nil, hf]
    cases hs : file.structured with
    | false => rfl
    | true =>
      simp only [Bool.not_true, Bool.false_eq_true, ↓reduceIte, fileImports_eq]
      refine List.filter_eq_self.mpr fun i hi => ?_
      obtain ⟨⟨st, k⟩, hmem, hi⟩ := List.mem_flatMap.mp hi
      have hst := hin st (List.mem_zipIdx_iff_getElem?.mp hmem |> fun h => List.mem_of_getElem? h)
      rw [line_of_mem_importsWith hi]
      simp [Span.contains, hst.1, ← hlines, hst.2]
  refine ⟨heq, ?_⟩
  rw [heq]
  cases file.structured with
  | false => simp
  | true =>
    rw [if_pos rfl]
    exact pairwise_line_flatMap (fun k => decide (UnderGuard (statements file.text) k)) hsorted

/-- The guarded text of the nested-guard example: a guard, an import under it, and one after. -/
def guardedText : String := "if TYPE_CHECKING:\n    import a\nimport b\n"

/-- The rule holds of the tree of the guarded text, a well-formed tree whose one file is outlined. -/
theorem Tree.imports_guardedText :
    (Tree.ofText {} guardedText).WellFormed ∧
      (Tree.ofText {} guardedText).files[0]? = some (({} : Loader).parseText "" "" guardedText true) ∧
      (Tree.ofText {} guardedText).imports (.fileRoot 0) =
        (statements guardedText).zipIdx.flatMap fun (st, k) =>
          st.importsWith ((Tree.ofText {} guardedText).absoluteName (.fileRoot 0))
            (decide (UnderGuard (statements guardedText) k)) := by
  have hwf := Tree.ofText_wellFormed {} guardedText
  have hf : (Tree.ofText {} guardedText).files[0]? = some (({} : Loader).parseText "" "" guardedText true) :=
    rfl
  exact ⟨hwf, hf, (Tree.imports_fileRoot_typeChecking hwf hf).1⟩

end Arbor
