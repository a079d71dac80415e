import Arbor.Edit.Confirm
import Arbor.Proofs.Disk.Frame
import Arbor.Proofs.Disk.Parent
import Mathlib.Data.List.Nodup
import Mathlib.Logic.Function.Iterate
/-!
The path a copy goes to is free.
-/

namespace Arbor.Disk

variable {d : Disk}

theorem entry?_of_follow_found {N : String} {P : List String} {e : Entry} :
    ∀ {fuel links : Nat} {cur : List String} {ps : List Part},
      d.follow true fuel links cur (ps ++ [.name N]) = .ok (.found P e) →
      ∃ Q e', d.entry? (Q ++ [N]) = some e'
  | 0, _, _, _, h => by simp [Disk.follow] at h
  | fuel + 1, links, cur, [], h => by
    simp only [List.nil_append] at h
    cases hQ : d.entry? (cur ++ [N]) with
    | none => simp [Disk.follow, hQ] at h
    | some e' => exact ⟨cur, e', hQ⟩
  | fuel + 1, links, cur, .root :: ps, h => by
    rw [List.cons_append, Disk.follow] at h
    exact entry?_of_follow_found h
  | fuel + 1, links, cur, .here :: ps, h => by
    rw [List.cons_append, Disk.follow] at h
    exact entry?_of_follow_found h
  | fuel + 1, links, cur, .up :: ps, h => by
    rw [List.cons_append, Disk.follow] at h
    exact entry?_of_follow_found h
  | fuel + 1, links, cur, .name n :: ps, h => by
    rw [List.cons_append, Disk.follow] at h
    -- a name before the last is a directory to enter or a link whose target takes its place
    have hrest : (ps ++ [Part.name N]).isEmpty = false := by simp
    split at h
    · simp [hrest] at h
    · exact entry?_of_follow_found h
    · simp only [hrest, Bool.false_and, Bool.false_eq_true, if_false] at h
      split at h
      · cases h
      · rw [← List.append_assoc] at h
        exact entry?_of_follow_found h
    · simp [hrest] at h

end Arbor.Disk

namespace Arbor.Edit

open Arbor.Disk

theorem isName_of_underscore {n : String} (hu : '_' ∈ n.toList) (hs : '/' ∉ n.toList) :
    Path.IsName n := by
  refine ⟨?_, hs, ?_, ?_⟩ <;> rintro rfl <;> simp at hu

/-- The sibling a copy goes to replaces the file name with a plain name, longer than the file name
of the path it was made from. -/
theorem copySibling_eq_withFileName (p : String) :
    ∃ name, Path.IsName name ∧ copySibling p = Path.withFileName p name ∧
      ∀ nm, Path.fileName? p = some nm → nm.toList.length < name.toList.length := by
  unfold copySibling
  cases hname : Path.fileName? p with
  | none =>
    have hstem : Path.stem? p = none := by simp [Path.stem?, hname]
    have hext : Path.extension? p = none := by simp [Path.extension?, hname]
    simp only [hstem, hext, Option.getD_none]
    refine ⟨"" ++ "_copy", by decide, rfl, ?_⟩
    intro nm h
    cases h
  | some nm =>
    have hnm := Path.isName_of_fileName? hname
    have hstem : Path.stem? p = some (Path.splitName nm).1 := by simp [Path.stem?, hname]
    have hext : Path.extension? p = (Path.splitName nm).2 := by simp [Path.extension?, hname]
    simp only [hstem, hext, Option.getD_some]
    -- the copy marker goes at the end of a name without extension, and before the extension
    rcases Path.splitName_spec nm with ⟨hnone, hfst⟩ | ⟨ext, hsome, hchars⟩
    · rw [hnone, hfst]
      have hu : '_' ∈ (nm ++ "_copy").toList := by simp
      have hs : '/' ∉ (nm ++ "_copy").toList := by simp [hnm.no_sep]
      refine ⟨_, isName_of_underscore hu hs, rfl, ?_⟩
      intro nm' h
      cases h
      simp
    · rw [hsome]
      have hu : '_' ∈ ((Path.splitName nm).1 ++ "_copy." ++ ext).toList := by simp
      have hs : '/' ∉ ((Path.splitName nm).1 ++ "_copy." ++ ext).toList := by
        have := hnm.no_sep
        rw [hchars] at this
        simp_all
      refine ⟨_, isName_of_underscore hu hs, rfl, ?_⟩
      intro nm' h
      cases h
      rw [hchars]
      simp

/-- The sibling a copy goes to has a file name, longer than the file name of the path it was made
from. -/
theorem fileName?_copySibling (p : String) :
    ∃ N, Path.fileName? (copySibling p) = some N ∧
      ∀ nm, Path.fileName? p = some nm → nm.toList.length < N.toList.length := by
  obtain ⟨name, hname, heq, hlonger⟩ := copySibling_eq_withFileName p
  exact ⟨name, heq ▸ Path.fileName?_withFileName hname, hlonger⟩

variable {d : Disk} {cwd : List String}

theorem exists?_of_copyTarget_go (n : Nat) (p : String)
    (h : d.exists? cwd (copyTarget.go d cwd n p) = true) :
    ∀ j ≤ n, d.exists? cwd (copySibling^[j] p) = true := by
  induction n generalizing p with
  | zero =>
    intro j hj
    obtain rfl : j = 0 := by omega
    exact h
  | succ n ih =>
    intro j hj
    unfold copyTarget.go at h
    split at h
    · rename_i hp
      cases j with
      | zero => exact hp
      | succ j => exact ih (copySibling p) h j (by omega)
    · contradiction

theorem fileName?_copySibling_iterate (p : String) (k : Nat) :
    ∃ N, Path.fileName? (copySibling^[k + 1] p) = some N ∧
      ∀ j < k, ∃ M, Path.fileName? (copySibling^[j + 1] p) = some M ∧
        M.toList.length < N.toList.length := by
  induction k with
  | zero =>
    obtain ⟨N, hN, -⟩ := fileName?_copySibling p
    exact ⟨N, hN, fun j hj => absurd hj (Nat.not_lt_zero j)⟩
  | succ k ih =>
    obtain ⟨N, hN, hbefore⟩ := ih
    obtain ⟨N', hN', hlonger⟩ := fileName?_copySibling (copySibling^[k + 1] p)
    rw [← Function.iterate_succ_apply' copySibling (k + 1) p] at hN'
    refine ⟨N', hN', fun j hj => ?_⟩
    by_cases hjk : j = k
    · subst hjk
      exact ⟨N, hN, hlonger N hN⟩
    · obtain ⟨M, hM, hlt⟩ := hbefore j (by omega)
      exact ⟨M, hM, Nat.lt_trans hlt (hlonger N hN)⟩

theorem fileName?_copySibling_iterate_ne (p : String) {i j : Nat} (hij : i < j) {M N : String}
    (hM : Path.fileName? (copySibling^[i + 1] p) = some M)
    (hN : Path.fileName? (copySibling^[j + 1] p) = some N) : M ≠ N := by
  obtain ⟨N', hN', hshorter⟩ := fileName?_copySibling_iterate p j
  obtain ⟨M', hM', hlt⟩ := hshorter i hij
  rw [hN] at hN'
  rw [hM] at hM'
  cases hN'
  cases hM'
  rintro rfl
  omega

theorem mem_entries_of_exists? {q N : String} (h : d.exists? cwd q = true)
    (hn : Path.fileName? q = some N) : ∃ P e, (P, e) ∈ d.entries ∧ P.getLast? = some N := by
  obtain ⟨ps, hps⟩ : ∃ ps, Path.parts q = ps ++ [.name N] :=
    List.getLast?_eq_some_iff.mp (Path.getLast?_parts_of_fileName? hn)
  unfold Disk.exists? Disk.stat at h
  split at h
  · rename_i P e hloc
    unfold Disk.locate at hloc
    cases hcheck : Disk.checkText q with
    | error err => simp [hcheck, bind, Except.bind] at hloc
    | ok u =>
      simp only [hcheck, bind, Except.bind] at hloc
      rw [hps] at hloc
      obtain ⟨Q, e', hQ⟩ := entry?_of_follow_found hloc
      exact ⟨Q ++ [N], e', mem_of_entry?_eq_some (by simp) hQ, by simp⟩
  · cases h
  · cases h

/-- The path a copy goes to is free: the search tries more paths than the disk has entries, and
each path it tries after the first that exists has an entry of its own, under its file name. -/
theorem exists?_copyTarget (p : String) : d.exists? cwd (copyTarget d cwd p) = false := by
  by_contra hne
  have hall := exists?_of_copyTarget_go (d.entries.length + 1) p (by simpa [copyTarget] using hne)
  -- an entry for each path tried after the first, one path for each entry and one more
  have hat : ∀ j, ∃ P : List String, j ≤ d.entries.length → (∃ e, (P, e) ∈ d.entries) ∧
      ∃ N, P.getLast? = some N ∧ Path.fileName? (copySibling^[j + 1] p) = some N := by
    intro j
    by_cases hj : j ≤ d.entries.length
    · obtain ⟨N, hN, -⟩ := fileName?_copySibling_iterate p j
      obtain ⟨P, e, hmem, hlast⟩ := mem_entries_of_exists? (hall (j + 1) (by omega)) hN
      exact ⟨P, fun _ => ⟨⟨e, hmem⟩, N, hlast, hN⟩⟩
    · exact ⟨[], fun h => absurd h hj⟩
  choose place hplace using hat
  have hnodup : ((List.range (d.entries.length + 1)).map place).Nodup := by
    refine List.Nodup.map_on (fun i hi j hj hij => ?_) List.nodup_range
    rw [List.mem_range] at hi hj
    obtain ⟨-, Ni, hNi, hfi⟩ := hplace i (by omega)
    obtain ⟨-, Nj, hNj, hfj⟩ := hplace j (by omega)
    rw [hij, hNj, Option.some.injEq] at hNi
    subst hNi
    by_contra hne'
    rcases Nat.lt_or_gt_of_ne hne' with hlt | hlt
    · exact fileName?_copySibling_iterate_ne p hlt hfi hfj rfl
    · exact fileName?_copySibling_iterate_ne p hlt hfj hfi rfl
  have hsub : (List.range (d.entries.length + 1)).map place ⊆ d.entries.map (·.1) := by
    intro P hP
    obtain ⟨j, hj, rfl⟩ := List.mem_map.mp hP
    obtain ⟨⟨e, hmem⟩, -⟩ := hplace j (by simpa [Nat.lt_succ_iff] using hj)
    exact List.mem_map.mpr ⟨_, hmem, rfl⟩
  have hlen := hnodup.length_le_of_subset hsub
  simp only [List.length_map, List.length_range] at hlen
  omega

end Arbor.Edit
