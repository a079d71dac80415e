import Arbor.Proofs.Disk.Path
import Mathlib.Data.List.TakeWhile
/-!
The parent of a path.
-/

namespace Arbor.Disk.Path

/-! ### Trimming the end of a path -/

theorem trimEnd_go_of_stuck {cs : List Char} (hsep : ∀ c t, cs ≠ '/' :: c :: t)
    (hdot : ∀ t, cs ≠ '.' :: '/' :: t) : ∀ n, trimEnd.go n cs = cs
  | 0 => trimEnd.go.eq_1 cs
  | n + 1 => trimEnd.go.eq_4 cs n hsep hdot

theorem trimEnd_go_go (n : Nat) (cs : List Char) (hn : cs.length ≤ n) :
    ∀ m, trimEnd.go m (trimEnd.go n cs) = trimEnd.go n cs := by
  fun_induction trimEnd.go n cs with
  | case1 cs =>
    obtain rfl : cs = [] := List.eq_nil_of_length_eq_zero (Nat.le_zero.mp hn)
    exact trimEnd_go_of_stuck (fun _ _ h => by cases h) (fun _ h => by cases h)
  | case2 n c t ih => exact ih (by simp only [List.length_cons] at hn ⊢; omega)
  | case3 n t ih => exact ih (by simp only [List.length_cons] at hn ⊢; omega)
  | case4 n cs hsep hdot => exact trimEnd_go_of_stuck hsep hdot

theorem trimEnd_trimEnd (p : String) : trimEnd (trimEnd p) = trimEnd p := by
  have hlen : p.toList.reverse.length = p.length := by rw [List.length_reverse, String.length_toList]
  conv => lhs; unfold trimEnd
  rw [String.length_ofList, List.length_reverse, String.toList_ofList, List.reverse_reverse]
  unfold trimEnd
  rw [trimEnd_go_go _ _ (Nat.le_of_eq hlen)]

theorem trimEnd_of_stuck {p : String} (hsep : ∀ c t, p.toList.reverse ≠ '/' :: c :: t)
    (hdot : ∀ t, p.toList.reverse ≠ '.' :: '/' :: t) : trimEnd p = p := by
  unfold trimEnd
  rw [trimEnd_go_of_stuck hsep hdot, List.reverse_reverse, String.ofList_toList]

theorem trimEnd_append_name (q : String) {n : String} (hn : IsName n) : trimEnd (q ++ n) = q ++ n := by
  obtain ⟨c, cs, hc⟩ := List.exists_cons_of_ne_nil
    (by simpa using hn.ne_empty : n.toList.reverse ≠ [])
  have hmem : ∀ x ∈ c :: cs, x ∈ n.toList := fun x hx => List.mem_reverse.mp (hc ▸ hx)
  have hrev : (q ++ n).toList.reverse = c :: (cs ++ q.toList.reverse) := by
    simp [String.toList_append, hc]
  apply trimEnd_of_stuck <;> rw [hrev]
  · rintro _ _ h
    exact hn.no_sep (hmem '/' (by simp [List.head_eq_of_cons_eq h]))
  · intro t h
    obtain ⟨rfl, hrest⟩ := List.cons.inj h
    cases cs with
    | nil =>
      -- the name is the one character `.`
      apply hn.ne_here
      apply String.toList_inj.mp
      simpa using congrArg List.reverse hc
    | cons c' cs =>
      obtain ⟨rfl, -⟩ := List.cons.inj hrest
      exact hn.no_sep (hmem '/' (by simp))

theorem trimEnd_append_sep {q : String} (hq : q ≠ "") : trimEnd (q ++ "/") = trimEnd q := by
  obtain ⟨c, cs, hc⟩ := List.exists_cons_of_ne_nil (by simpa using hq : q.toList.reverse ≠ [])
  have hlen : (q ++ "/").length = q.length + 1 := by
    simp [← String.length_toList, String.toList_append]
  unfold trimEnd
  rw [hlen, String.toList_append, List.reverse_append, hc]
  rfl

/-! ### Trimming keeps the parts -/

theorem parts_append_sep {q : String} (hq : q ≠ "") : parts (q ++ "/") = parts q := by
  rw [parts_eq, parts_eq, isAbsolute_append _ hq, segments_append_sep_empty,
    partsOf_append (segments_ne_nil _)]
  simp [partOf]

theorem parts_append_sep_dot (q : String) : parts (q ++ "/" ++ ".") = parts (q ++ "/") := by
  have hne : q ++ "/" ≠ "" := fun h => by simpa using congrArg String.toList h
  have hdot : segments "." = ["."] := segments_of_no_sep (by decide)
  rw [parts_eq, parts_eq, isAbsolute_append _ hne, segments_append_sep, hdot,
    segments_append_sep_empty, partsOf_append (segments_ne_nil _),
    partsOf_append (segments_ne_nil _)]
  simp [partOf]

theorem parts_trimEnd_go (n : Nat) (cs : List Char) :
    parts (String.ofList (trimEnd.go n cs).reverse) = parts (String.ofList cs.reverse) := by
  fun_induction trimEnd.go n cs with
  | case1 cs => rfl
  | case2 n c t ih =>
    have hne : String.ofList (c :: t).reverse ≠ "" := fun h => by simpa using congrArg String.toList h
    have htext : String.ofList ('/' :: c :: t).reverse = String.ofList (c :: t).reverse ++ "/" := by
      rw [List.reverse_cons, String.ofList_append]
    rw [ih, htext, parts_append_sep hne]
  | case3 n t ih =>
    have hsep : String.ofList ('/' :: t).reverse = String.ofList t.reverse ++ "/" := by
      rw [List.reverse_cons, String.ofList_append]
    have hdot : String.ofList ('.' :: '/' :: t).reverse = String.ofList t.reverse ++ "/" ++ "." := by
      rw [List.reverse_cons, List.reverse_cons, String.ofList_append, String.ofList_append]
    rw [ih, hsep, hdot, parts_append_sep_dot]
  | case4 => rfl

theorem parts_trimEnd (p : String) : parts (trimEnd p) = parts p := by
  unfold trimEnd
  rw [parts_trimEnd_go, List.reverse_reverse, String.ofList_toList]

/-! ### The parent of a joined path -/

theorem getLast?_parts_of_fileName? {p n : String} (h : fileName? p = some n) :
    (parts p).getLast? = some (.name n) := by
  unfold fileName? at h
  split at h
  · cases h
    assumption
  · cases h

theorem exists_parent?_of_fileName? {p n : String} (h : fileName? p = some n) :
    ∃ dir, parent? p = some dir := by
  unfold parent?
  dsimp only
  rw [parts_trimEnd, getLast?_parts_of_fileName? h]
  dsimp only
  split
  · exact ⟨_, rfl⟩
  · split <;> exact ⟨_, rfl⟩

theorem trimEnd_of_parent? {p dir : String} (h : parent? p = some dir) : trimEnd dir = dir := by
  unfold parent? at h
  dsimp only at h
  split at h
  · cases h
  · cases h
  · split at h
    · cases h
      rfl
    · split at h
      · cases h
        rfl
      · cases h
        exact trimEnd_trimEnd _

theorem IsName.bne_sep_of_mem_reverse {n : String} (hn : IsName n) :
    ∀ c ∈ n.toList.reverse, (c != '/') = true := by
  intro c hc
  have hne : c ≠ '/' := fun h => hn.no_sep (h ▸ List.mem_reverse.mp hc)
  simpa [bne_iff_ne] using hne

theorem parent?_name {n : String} (hn : IsName n) : parent? n = some "" := by
  have hparts : parts n = [.name n] := by
    rw [parts_eq, hn.isAbsolute_eq_false, segments_of_no_sep hn.no_sep]
    simp [partsOf, partOf_name hn, hn.ne_here]
  have hlast : (parts n).getLast? = some (.name n) := by
    rw [hparts]
    rfl
  unfold parent?
  dsimp only
  rw [show trimEnd n = n from by simpa using trimEnd_append_name "" hn, hlast]
  dsimp only
  rw [List.dropWhile_eq_nil_iff.mpr hn.bne_sep_of_mem_reverse]

theorem parent?_append_sep_name (q : String) {n : String} (hn : IsName n) :
    parent? (q ++ "/" ++ n) = some (trimEnd (q ++ "/")) := by
  have hlast : (parts (q ++ "/" ++ n)).getLast? = some (.name n) := by
    rw [parts_eq, segments_append_sep, segments_of_no_sep hn.no_sep,
      partsOf_append (segments_ne_nil _), filterMap_partOf_name hn, List.getLast?_concat]
  have hrev : (q ++ "/" ++ n).toList.reverse = n.toList.reverse ++ '/' :: q.toList.reverse := by
    simp [String.toList_append]
  unfold parent?
  dsimp only
  rw [trimEnd_append_name _ hn, hlast]
  dsimp only
  rw [hrev, List.dropWhile_append_of_pos hn.bne_sep_of_mem_reverse, List.dropWhile_cons_of_neg (by decide)]
  dsimp only
  -- the text before the separator is empty only for a path in the root
  by_cases hq : q = ""
  · subst hq
    rfl
  · have hne : q.toList.reverse.isEmpty = false := by
      cases h : q.toList.reverse with
      | nil => exact absurd (String.toList_eq_nil_iff.mp (List.reverse_eq_nil_iff.mp h)) hq
      | cons => rfl
    rw [hne, if_neg Bool.false_ne_true, List.reverse_reverse, String.ofList_toList,
      trimEnd_append_sep hq]

theorem parent?_join (a : String) {n : String} (hn : IsName n) :
    parent? (join a n) = some (trimEnd a) := by
  unfold join
  by_cases ha : a = ""
  · subst ha
    rw [if_pos (by simp)]
    exact parent?_name hn
  · rw [if_neg (by simp [hn.isAbsolute_eq_false, ha])]
    split
    · -- a path that ends in a separator already has one before the name
      rename_i hend
      obtain ⟨l, hl⟩ : ['/'] <:+ a.toList := by simpa [← String.endsWith_toSlice] using hend
      have ha' : a = String.ofList l ++ "/" := by
        apply String.toList_inj.mp
        simp [hl]
      rw [ha']
      exact parent?_append_sep_name _ hn
    · rw [parent?_append_sep_name _ hn, trimEnd_append_sep ha]

/-- Replacing the file name of a path that has one keeps its parent. -/
theorem parent?_withFileName {p N n : String} (hp : fileName? p = some N) (hn : IsName n) :
    parent? (withFileName p n) = parent? p := by
  obtain ⟨dir, hdir⟩ := exists_parent?_of_fileName? hp
  unfold withFileName
  rw [hp, hdir]
  dsimp only
  rw [parent?_join _ hn, trimEnd_of_parent? hdir]

/-- Naming a file in a path without a file name puts it in the directory the path names. -/
theorem parent?_withFileName_of_fileName?_eq_none {p n : String} (hp : fileName? p = none)
    (hn : IsName n) : parent? (withFileName p n) = some (trimEnd p) := by
  unfold withFileName
  rw [hp]
  exact parent?_join _ hn

end Arbor.Disk.Path
