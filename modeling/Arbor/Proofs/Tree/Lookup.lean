import Arbor.Proofs.Tree.Ancestors
import Arbor.Tree.Resolve
/-!
Finding a node again by its dotted name.
-/

namespace Arbor

open Arbor.Outline Arbor.Layout Arbor.Text

/-! ### Splitting a dotted path -/

theorem forall_mem_intercalate {P : Char → Prop} (hdot : P '.') :
    ∀ {names : List String}, (∀ s ∈ names, ∀ c ∈ s.toList, P c) →
      ∀ c ∈ (".".intercalate names).toList, P c
  | [], _ => by simp
  | [s], h => by simpa using h s (by simp)
  | s :: s' :: rest, h => by
    intro c hc
    rw [String.intercalate_cons_cons] at hc
    simp only [String.toList_append, List.mem_append] at hc
    rcases hc with (hc | hc) | hc
    · exact h s (by simp) c hc
    · obtain rfl : c = '.' := by simpa using hc
      exact hdot
    · exact forall_mem_intercalate hdot (fun x hx => h x (List.mem_cons_of_mem s hx)) c hc

theorem splitWhere_of_forall {sep : Char → Bool} :
    ∀ {l : List Char}, (∀ c ∈ l, sep c = false) → splitWhere sep l = [l]
  | [], _ => rfl
  | c :: cs, h => by
    have hc : sep c = false := h c (by simp)
    simp [splitWhere, hc, splitWhere_of_forall fun x hx => h x (List.mem_cons_of_mem c hx)]

theorem splitWhere_append_cons {sep : Char → Bool} {c : Char} (hc : sep c = true) (rest : List Char) :
    ∀ {l : List Char}, (∀ x ∈ l, sep x = false) →
      splitWhere sep (l ++ c :: rest) = l :: splitWhere sep rest
  | [], _ => by simp [splitWhere, hc]
  | x :: xs, h => by
    have hx : sep x = false := h x (by simp)
    simp [splitWhere, hx, splitWhere_append_cons hc rest fun y hy => h y (List.mem_cons_of_mem x hy)]

theorem splitWhere_intercalate {sep : Char → Bool} (hdot : sep '.' = true) :
    ∀ {names : List (List Char)}, names ≠ [] → (∀ n ∈ names, ∀ c ∈ n, sep c = false) →
      splitWhere sep (['.'].intercalate names) = names
  | [n], _, h => by simpa using splitWhere_of_forall (h n (by simp))
  | n :: n' :: rest, _, h => by
    rw [List.intercalate_cons_cons, List.append_assoc, List.singleton_append,
      splitWhere_append_cons hdot _ (h n (by simp)),
      splitWhere_intercalate hdot (List.cons_ne_nil _ _)
        fun m hm => h m (List.mem_cons_of_mem n hm)]

theorem dropCallParens_of_not_mem {s : String} (h : ')' ∉ s.toList) : dropCallParens s = s := by
  unfold dropCallParens
  split
  · rename_i hend
    have hsuffix : ['(', ')'] <:+ s.toList := by simpa [← String.endsWith_toSlice] using hend
    exact absurd (hsuffix.subset (by simp)) h
  · rfl

theorem IsPlainName.dropCallParens_eq {s : String} (h : IsPlainName s) : dropCallParens s = s :=
  dropCallParens_of_not_mem (h.not_mem isWordChar_separators.2.2.2)

/-! ### Walking names down a tree -/

namespace Tree

/-- Where plain names lead from a node: each name moves to the last child that is not content
and has it, or stays at a node that has it itself. -/
def walkNames (t : Tree) : NodeId → List String → Option NodeId
  | cur, [] => some cur
  | cur, s :: rest =>
    match t.findChild? cur s with
    | some c => t.walkNames c rest
    | none => if t.name cur = s then t.walkNames cur rest else none

/-- `c` is the last child of `p` that is not content and has `c`'s name. -/
def IsLastNamed (t : Tree) (p c : NodeId) : Prop :=
  t.kind c ≠ .content ∧ ∃ before after, t.children p = before ++ c :: after ∧
    ∀ d ∈ after, t.kind d = .content ∨ t.name d ≠ t.name c

/-- Every child of a node of file `f` that is not content has a plain name. -/
def PlainChildren (t : Tree) (f : Nat) : Prop :=
  ∀ j c, c ∈ t.children (.unit f j) → t.kind c ≠ .content → IsPlainName (t.name c)

variable {t : Tree} {f : Nat}

theorem findChild?_eq_some_iff {p c : NodeId} {s : String} :
    t.findChild? p s = some c ↔ t.name c = s ∧ t.IsLastNamed p c := by
  unfold findChild? IsLastNamed
  rw [List.find?_eq_some_iff_append]
  simp only [Bool.and_eq_true, bne_iff_ne, ne_eq, beq_iff_eq, Bool.not_eq_eq_eq_not, Bool.not_true,
    Bool.and_eq_false_iff, bne_eq_false_iff_eq, beq_eq_false_iff_ne]
  constructor
  · rintro ⟨⟨hk, rfl⟩, as, bs, hrev, has⟩
    refine ⟨rfl, hk, bs.reverse, as.reverse, ?_, fun d hd => has d (List.mem_reverse.mp hd)⟩
    rw [← List.reverse_reverse (t.children p), hrev]
    simp
  · rintro ⟨rfl, hk, before, after, hch, hafter⟩
    refine ⟨⟨hk, rfl⟩, after.reverse, before.reverse, ?_, fun d hd => hafter d (List.mem_reverse.mp hd)⟩
    simp [hch]

theorem mem_children_of_findChild? {p c : NodeId} {s : String} (h : t.findChild? p s = some c) :
    c ∈ t.children p :=
  List.mem_reverse.mp (List.mem_of_find?_eq_some h)

/-- In a well-formed tree every child of a node of a file that is not content has a plain
name. -/
theorem plainChildren (hwf : t.WellFormed) (f : Nat) : t.PlainChildren f := by
  intro j c hc hk
  obtain ⟨file, i, hf, rfl, hi0, hi, -⟩ := mem_children_unit hwf hc
  rw [kind_unit hf hi] at hk
  rw [name_unit hf hi]
  exact (hwf.files f file hf).names i hi0 hi hk

theorem findChild?_eq_none_of_dot (hplain : t.PlainChildren f) (j : Nat) {s : String}
    (hs : '.' ∈ s.toList) : t.findChild? (.unit f j) s = none := by
  unfold findChild?
  rw [List.find?_eq_none]
  intro c hc
  simp only [Bool.and_eq_true, bne_iff_ne, ne_eq, beq_iff_eq, not_and]
  intro hk hname
  exact (hplain j c (List.mem_reverse.mp hc) hk).not_mem isWordChar_separators.1 (hname ▸ hs)

theorem lastOfRun_lt (segments : Array String) (dotted : Array Bool) :
    ∀ (fuel i : Nat), i < segments.size →
      findDottedChild?.lastOfRun segments dotted fuel i < segments.size
  | 0, _, hi => hi
  | fuel + 1, i, hi => by
    unfold findDottedChild?.lastOfRun
    split
    · rename_i hrun
      -- the run goes on only to a name that is there
      have hnext : i + 1 < segments.size := by
        by_contra hout
        simp [Array.getD_eq_getD_getElem?, Array.getElem?_eq_none (Nat.le_of_not_lt hout)] at hrun
      exact lastOfRun_lt segments dotted fuel (i + 1) hnext
    · exact hi

theorem findDottedChild?_eq_none (hplain : t.PlainChildren f) {segs : Array String}
    (hsegs : ∀ s ∈ segs.toList, IsPlainName s) (dotted : Array Bool) (j : Nat) {first : Nat}
    (hfirst : first < segs.size) : t.findDottedChild? (.unit f j) segs dotted first = none := by
  have hlast := lastOfRun_lt segs dotted dotted.size first hfirst
  unfold findDottedChild?
  simp only [List.findSome?_eq_none_iff, List.mem_map, List.mem_reverse, List.mem_range,
    Option.map_eq_none_iff]
  rintro _ ⟨k, hk, rfl⟩
  -- the run joins the names from `first` to `first + 1 + k`, at least two of them
  have hlen : first + 1 + k < segs.toList.length := by simp; omega
  have hrun : (segs.extract first (first + 1 + k + 1)).toList =
      segs.toList[first] :: (segs.toList.drop (first + 1)).take (k + 1) := by
    rw [Array.toList_extract, List.extract_eq_take_drop, List.drop_eq_getElem_cons (by omega),
      show first + 1 + k + 1 - first = k + 1 + 1 by omega, List.take_succ_cons]
  have hsecond : (segs.toList.drop (first + 1)).take (k + 1) =
      segs.toList[first + 1] :: (segs.toList.drop (first + 2)).take k := by
    rw [List.drop_eq_getElem_cons (by omega), List.take_succ_cons]
  rw [hrun, hsecond, String.intercalate_cons_cons]
  have hplainRun : ∀ s ∈ segs.toList[first] :: segs.toList[first + 1] ::
      (segs.toList.drop (first + 2)).take k, IsPlainName s := by
    intro s hs
    simp only [List.mem_cons] at hs
    rcases hs with rfl | rfl | hs
    · exact hsegs _ (List.getElem_mem _)
    · exact hsegs _ (List.getElem_mem _)
    · exact hsegs s (List.mem_of_mem_drop (List.mem_of_mem_take hs))
  rw [dropCallParens_of_not_mem]
  · exact findChild?_eq_none_of_dot hplain j (by simp)
  · -- every character of the run is a dot or a word character
    have hall : ∀ c ∈ (".".intercalate (segs.toList[first] :: segs.toList[first + 1] ::
        (segs.toList.drop (first + 2)).take k)).toList, c ≠ ')' :=
      forall_mem_intercalate (by decide) fun s hs c hc => (hplainRun s hs).ne_rparen hc
    rw [String.intercalate_cons_cons] at hall
    exact fun hc => hall _ hc rfl

theorem resolveSegments_toOption (hplain : t.PlainChildren f) {expr : String}
    {segs : Array String} (hsegs : ∀ s ∈ segs.toList, IsPlainName s) (dotted : Array Bool) :
    ∀ (fuel j idx : Nat), segs.size - idx ≤ fuel →
      (t.resolveSegments expr segs dotted fuel (.unit f j) idx).toOption =
        t.walkNames (.unit f j) (segs.toList.drop idx) := by
  intro fuel
  induction fuel with
  | zero =>
    intro j idx hidx
    rw [List.drop_of_length_le (by simp; omega)]
    rfl
  | succ fuel ih =>
    intro j idx hidx
    rw [resolveSegments]
    split
    · -- a plain name is neither empty nor dotted: it names a child, or the node itself
      rename_i hlt
      have hseg := hsegs segs[idx] (by simp)
      rw [List.drop_eq_getElem_cons (by simpa using hlt)]
      simp only [Array.getElem_toList, hseg.isEmpty_eq_false, Bool.false_eq_true, ↓reduceIte,
        findDottedChild?_eq_none hplain hsegs dotted j hlt, hseg.dropCallParens_eq, walkNames]
      cases hc : t.findChild? (.unit f j) segs[idx] with
      | some c =>
        obtain ⟨i, rfl⟩ := exists_eq_unit_of_mem_children (mem_children_of_findChild? hc)
        exact ih i (idx + 1) (by omega)
      | none =>
        by_cases hname : t.name (.unit f j) = segs[idx]
        · simp only [hname, beq_self_eq_true, ↓reduceIte]
          exact ih j (idx + 1) (by omega)
        · simp [hname, Except.toOption]
    · rename_i hge
      rw [List.drop_of_length_le (by simp; omega)]
      rfl

/-- Resolving plain names joined by dots, from a node of a file with plain names, walks them. -/
theorem resolveFrom_intercalate (hplain : t.PlainChildren f) {names : List String}
    (hne : names ≠ []) (hnames : ∀ s ∈ names, IsPlainName s) (j : Nat) :
    (t.resolveFrom (.unit f j) (".".intercalate names)).toOption = t.walkNames (.unit f j) names := by
  -- no name holds a backslash, so the path is read as it is written
  have hback : ∀ c ∈ (".".intercalate names).toList, c ≠ '\\' :=
    forall_mem_intercalate (by decide) fun s hs c hc => (hnames s hs).ne_backslash hc
  have hnorm : ((".".intercalate names).toList.map fun c => if c == '\\' then '/' else c) =
      (".".intercalate names).toList := by
    conv_rhs => rw [← List.map_id (".".intercalate names).toList]
    exact List.map_congr_left fun c hc => by simp [hback c hc]
  have hsplit : (splitWhere (fun c => c == '.' || c == '/') (".".intercalate names).toList).map
      String.ofList = names := by
    rw [String.toList_intercalate, show ".".toList = ['.'] from rfl,
      splitWhere_intercalate (by decide) (by simpa using hne) fun n hn c hc => ?_]
    · simp [Function.comp_def]
    · obtain ⟨s, hs, rfl⟩ := List.mem_map.mp hn
      exact (hnames s hs).not_separator hc
  unfold resolveFrom
  simp only [hnorm, hsplit]
  rw [resolveSegments_toOption hplain (by simpa using hnames) _ _ _ _ (by simp)]
  simp

theorem exists_eq_unit_of_parent? {a : NodeId} {j : Nat} (h : t.parent? a = some (.unit f j)) :
    ∃ i, a = .unit f i := by
  match a with
  | .dir _ =>
    obtain ⟨_, -, he⟩ := Option.map_eq_some_iff.mp h
    cases he
  | .unit _ 0 =>
    obtain ⟨_, -, he⟩ := Option.map_eq_some_iff.mp h
    cases he
  | .unit _ (k + 1) =>
    obtain ⟨_, _, -, -, -, he⟩ := parent?_unit_succ_eq_some h
    cases he
    exact ⟨k + 1, rfl⟩

section Walks

variable (hwf : t.WellFormed) (hpa : ParentsAbove t.dirs t.files)
include hwf hpa

theorem walkNames_track : ∀ {names : List String} {j : Nat} {m : NodeId},
    t.walkNames (.unit f j) names = some m →
      ∃ ext, t.track m = t.track (.unit f j) ++ ext ∧ ext.length ≤ names.length := by
  intro names
  induction names with
  | nil =>
    intro j m h
    cases h
    exact ⟨[], by simp, le_rfl⟩
  | cons s rest ih =>
    intro j m h
    simp only [walkNames] at h
    split at h
    · rename_i c hc
      have hmem := mem_children_of_findChild? hc
      obtain ⟨file, i, -, rfl, -⟩ := mem_children_unit hwf hmem
      obtain ⟨ext, hext, hlen⟩ := ih h
      refine ⟨.unit f i :: ext, ?_, by simp; omega⟩
      rw [hext, track_of_parent? hwf hpa (parent?_of_mem_children_unit hwf hmem)]
      simp
    · split at h
      · obtain ⟨ext, hext, hlen⟩ := ih h
        exact ⟨ext, hext, by simp; omega⟩
      · cases h

/-- The walk by the names of a chain of parent links from a node of a file reaches the chain's
end exactly when every node of the chain is the last child of the one before that is not
content and has its name. -/
theorem walkNames_eq_getLast_iff : ∀ {as : List NodeId} {j : Nat},
    (.unit f j :: as).IsChain (fun a b => t.parent? b = some a) →
      (t.walkNames (.unit f j) (as.map t.name) =
          some ((.unit f j :: as).getLast (List.cons_ne_nil _ _)) ↔
        (.unit f j :: as).IsChain fun p c => t.findChild? p (t.name c) = some c) := by
  intro as
  induction as with
  | nil => intro j _; simp [walkNames]
  | cons a rest ih =>
    intro j hchain
    have htrack := track_getLast_of_isChain hwf hpa hchain
    rw [List.isChain_cons_cons] at hchain
    obtain ⟨hpar, hrest⟩ := hchain
    obtain ⟨i, rfl⟩ := exists_eq_unit_of_parent? hpar
    rw [List.getLast_cons (List.cons_ne_nil _ _)] at htrack ⊢
    rw [List.isChain_cons_cons, ← ih hrest]
    simp only [List.map_cons, walkNames]
    constructor
    · intro hwalk
      split at hwalk
      · -- the walk moved down to a child, which the chain's length makes the chain's next node
        rename_i c hc
        have hmem := mem_children_of_findChild? hc
        obtain ⟨file, i', -, rfl, -⟩ := mem_children_unit hwf hmem
        obtain ⟨ext, hext, -⟩ := walkNames_track hwf hpa hwalk
        rw [hext, track_of_parent? hwf hpa (parent?_of_mem_children_unit hwf hmem),
          List.append_assoc, List.singleton_append] at htrack
        obtain ⟨he, -⟩ := List.cons_eq_cons.mp (List.append_cancel_left htrack)
        cases he
        exact ⟨hc, hwalk⟩
      · -- staying leaves the walk one level short of the chain's end
        split at hwalk
        · obtain ⟨ext, hext, hlen⟩ := walkNames_track hwf hpa hwalk
          rw [hext] at htrack
          have hlen' := congrArg List.length (List.append_cancel_left htrack)
          simp only [List.length_cons, List.length_map] at hlen hlen'
          omega
        · cases hwalk
    · rintro ⟨hc, hwalk⟩
      rw [hc]
      exact hwalk

/-- A walk whose names each differ from the one before, the first from the start's own, never
stays: it ends at a node of the file whose way down from the start carries exactly those
names. -/
theorem walkNames_of_distinct : ∀ {names : List String} {j : Nat} {m : NodeId},
    t.contains (.unit f j) → (t.name (.unit f j) :: names).IsChain (· ≠ ·) →
      t.walkNames (.unit f j) names = some m →
        ∃ i as, m = .unit f i ∧ t.contains m ∧ t.track m = t.track (.unit f j) ++ as ∧
          as.map t.name = names := by
  intro names
  induction names with
  | nil =>
    intro j m hj _ h
    cases h
    exact ⟨j, [], rfl, hj, by simp, rfl⟩
  | cons s rest ih =>
    intro j m _ hnames h
    rw [List.isChain_cons_cons] at hnames
    simp only [walkNames] at h
    split at h
    · rename_i c hc
      have hname := (findChild?_eq_some_iff.mp hc).1
      have hmem := mem_children_of_findChild? hc
      obtain ⟨file, i, hf, rfl, -, hi, -⟩ := mem_children_unit hwf hmem
      obtain ⟨i', as, rfl, hm, htrack, has⟩ :=
        ih (by simp [contains_unit hf, hi]) (by rw [hname]; exact hnames.2) h
      refine ⟨i', .unit f i :: as, rfl, hm, ?_, by simp [hname, has]⟩
      rw [htrack, track_of_parent? hwf hpa (parent?_of_mem_children_unit hwf hmem)]
      simp
    · -- a name never equals the one before it, so the walk cannot stay
      rw [if_neg hnames.1] at h
      cases h

end Walks

/-- Along a chain of parent links, a relation holds between neighbours exactly when it holds
between every node past the first and its parent. -/
theorem isChain_iff_forall_parent {R : NodeId → NodeId → Prop} : ∀ {l : List NodeId},
    l.IsChain (fun a b => t.parent? b = some a) →
      (l.IsChain R ↔ ∀ a ∈ l.tail, ∀ p, t.parent? a = some p → R p a)
  | [], _ => by simp
  | [_], _ => by simp
  | x :: y :: rest, h => by
    rw [List.isChain_cons_cons] at h ⊢
    rw [isChain_iff_forall_parent h.2]
    simp only [List.tail_cons, List.forall_mem_cons, h.1, Option.some.injEq, forall_eq']

/-- The way down to a node of a file runs from the file node through nodes of the file past
it, each the parent of the next. -/
theorem exists_chain_unit (hwf : t.WellFormed) {file : ParsedFile} (hf : t.files[f]? = some file) :
    ∀ i, i < file.nodes.size → ∃ as,
      (NodeId.unit f 0 :: as).IsChain (fun a b => t.parent? b = some a) ∧
      (NodeId.unit f 0 :: as).getLast (List.cons_ne_nil _ _) = .unit f i ∧
      ∀ a ∈ as, ∃ k, a = .unit f k ∧ 0 < k ∧ k < file.nodes.size := by
  intro i
  induction i using Nat.strong_induction_on with
  | _ i ih =>
    intro hi
    rcases Nat.eq_zero_or_pos i with rfl | hi0
    · exact ⟨[], .singleton _, rfl, by simp⟩
    · -- the parent comes before the node, and its chain extends by the node
      obtain ⟨p, hp, hpi, -⟩ := (hwf.files f file hf).outline.parent_listed i hi0 hi
      obtain ⟨as, hchain, hlast, hunits⟩ := ih p hpi (by omega)
      refine ⟨as ++ [.unit f i], ?_, by simp, ?_⟩
      · rw [← List.cons_append]
        refine hchain.append (.singleton _) fun x hx y hy => ?_
        rw [List.getLast?_eq_some_getLast (List.cons_ne_nil _ _), hlast, Option.mem_some_iff] at hx
        simp only [List.head?_cons, Option.mem_some_iff] at hy
        subst hx hy
        exact parent?_unit hf hi0 hi hp
      · intro a ha
        rcases List.mem_append.mp ha with ha | ha
        · exact hunits a ha
        · exact ⟨i, List.mem_singleton.mp ha, hi0, hi⟩

/-- In the tree of a text, the dotted name of a node other than the file node that is not content
resolves to the node exactly when every node on its track is the last child of its parent that
is not content and has its name; otherwise it resolves to another node or fails. -/
theorem resolve_absoluteName_eq_ok_iff (ht : ∃ loader text, t = Tree.ofText loader text)
    {n : NodeId} (hn : t.contains n) (hroot : n ≠ t.root) (hk : t.kind n ≠ .content) :
    t.resolve (t.absoluteName n) = .ok n ↔
      ∀ a ∈ t.track n, ∀ p, t.parent? a = some p → t.IsLastNamed p a := by
  obtain ⟨loader, text, rfl⟩ := ht
  have hwf := ofText_wellFormed loader text
  have hpa := ofText_parentsAbove loader text
  -- the one file of the tree, read from the text under the empty name
  have hf : (Tree.ofText loader text).files[0]? = some (loader.parseText "" "" text true) := rfl
  obtain ⟨i, rfl, hi⟩ : ∃ i, n = .unit 0 i ∧ i < (loader.parseText "" "" text true).nodes.size := by
    match n, hn with
    | .unit g i, hn =>
      obtain rfl : g = 0 := by
        cases g with
        | zero => rfl
        | succ g => simp [contains, Tree.ofText] at hn
      exact ⟨i, rfl, by simpa [contains, hf] using hn⟩
  obtain ⟨as, hchain, hlast, hunits⟩ := exists_chain_unit hwf hf i hi
  have hroot0 : (Tree.ofText loader text).parent? (.unit 0 0) = none := rfl
  have htrack : (Tree.ofText loader text).track (.unit 0 i) = .unit 0 0 :: as := by
    rw [← hlast, track_getLast_of_isChain hwf hpa hchain, track_of_parent?_eq_none hroot0]
    rfl
  have hne : as ≠ [] := by
    rintro rfl
    exact hroot hlast.symm
  -- the nodes below the file node are not content, so their names are plain
  have hplain : ∀ a ∈ as, IsPlainName ((Tree.ofText loader text).name a) := by
    intro a ha
    obtain ⟨k, rfl, hk0, hks⟩ := hunits a ha
    have hka : (Tree.ofText loader text).kind (.unit 0 k) ≠ .content := by
      by_cases hki : k = i
      · rw [hki]
        exact hk
      · exact kind_ne_content_of_mem_track hwf (by rw [htrack]; exact List.mem_cons_of_mem _ ha)
          (by simpa using hki)
    rw [kind_unit hf hks] at hka
    rw [name_unit hf hks]
    exact (hwf.files 0 _ hf).names k hk0 hks hka
  have hname : (Tree.ofText loader text).absoluteName (.unit 0 i) =
      ".".intercalate (as.map (Tree.ofText loader text).name) := by
    have hrootName : (Tree.ofText loader text).name (.unit 0 0) = "" := by
      rw [name_unit hf (hwf.files 0 _ hf).outline.root.1]
      exact name_make_root _ _ _ _ _
    rw [absoluteName, htrack, List.map_cons, List.filter_cons, hrootName, List.filter_eq_self.mpr]
    · rfl
    · intro s hs
      obtain ⟨a, ha, rfl⟩ := List.mem_map.mp hs
      simp [(hplain a ha).isEmpty_eq_false]
  have hwalk : ((Tree.ofText loader text).resolveFrom (.unit 0 0)
      (".".intercalate (as.map (Tree.ofText loader text).name))).toOption =
      (Tree.ofText loader text).walkNames (.unit 0 0) (as.map (Tree.ofText loader text).name) :=
    resolveFrom_intercalate (plainChildren hwf 0)
      (by simpa using hne) (by simpa using hplain) 0
  have hok : ∀ e : Except TreeError NodeId, e = .ok (.unit 0 i) ↔ e.toOption = some (.unit 0 i) :=
    fun e => by cases e <;> simp [Except.toOption]
  rw [resolve, hname, hok, show (Tree.ofText loader text).root = .unit 0 0 from rfl, hwalk, htrack,
    ← hlast, walkNames_eq_getLast_iff hwf hpa hchain, isChain_iff_forall_parent hchain]
  simp only [List.tail_cons, List.forall_mem_cons, hroot0, reduceCtorEq, false_implies,
    implies_true, true_and, findChild?_eq_some_iff]

def methodText : String := "class A:\n    def f(): pass\n"

theorem resolve_absoluteName_method :
    (∃ loader text, Tree.ofText {} methodText = Tree.ofText loader text) ∧
      (Tree.ofText {} methodText).contains (.unit 0 2) ∧ NodeId.unit 0 2 ≠ (Tree.ofText {} methodText).root ∧
      (Tree.ofText {} methodText).kind (.unit 0 2) ≠ .content ∧
      ((Tree.ofText {} methodText).resolve ((Tree.ofText {} methodText).absoluteName (.unit 0 2)) =
          .ok (.unit 0 2) ↔
        ∀ a ∈ (Tree.ofText {} methodText).track (.unit 0 2), ∀ p,
          (Tree.ofText {} methodText).parent? a = some p → (Tree.ofText {} methodText).IsLastNamed p a) :=
  ⟨⟨{}, methodText, rfl⟩, by decide +kernel, by decide, by decide +kernel,
    resolve_absoluteName_eq_ok_iff ⟨{}, methodText, rfl⟩ (by decide +kernel) (by decide)
      (by decide +kernel)⟩

end Tree

end Arbor
