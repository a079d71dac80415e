import Arbor.Proofs.Edit.Copy
import Arbor.Proofs.Edit.FileByFile
/-!
A copy never overwrites a file.
-/

namespace Arbor.Disk

variable {d d' d'' : Disk}

/-- Every file of `d` is in `d'`, at the same place, with the same bytes and the same flag. -/
def KeepsFiles (d d' : Disk) : Prop :=
  ∀ P bytes readOnly, d.entry? P = some (.file bytes readOnly) →
    d'.entry? P = some (.file bytes readOnly)

theorem KeepsFiles.refl (d : Disk) : KeepsFiles d d := fun _ _ _ h => h

theorem KeepsFiles.trans (h₁ : KeepsFiles d d') (h₂ : KeepsFiles d' d'') : KeepsFiles d d'' :=
  fun P bytes readOnly h => h₂ P bytes readOnly (h₁ P bytes readOnly h)

/-- What a target says is at its place: the entry found, or nothing. -/
def Target.entry? : Target → Option Entry
  | .found _ e => some e
  | .absent .. => none

theorem entry?_place_of_follow {t : Target} :
    ∀ {last : Bool} {fuel links : Nat} {cur : List String} {ps : List Part},
      d.follow last fuel links cur ps = .ok t →
        (∃ P, t = .found P .directory) ∨ d.entry? t.place = t.entry?
  | _, 0, _, _, _, h => by simp [follow] at h
  | _, _ + 1, _, cur, [], h => by
    rw [follow] at h
    cases h
    exact .inl ⟨cur, rfl⟩
  | _, _ + 1, _, _, .root :: _, h => by
    rw [follow] at h
    exact entry?_place_of_follow h
  | _, _ + 1, _, _, .here :: _, h => by
    rw [follow] at h
    exact entry?_place_of_follow h
  | _, _ + 1, _, _, .up :: _, h => by
    rw [follow] at h
    exact entry?_place_of_follow h
  | _, _ + 1, _, cur, .name m :: _, h => by
    simp only [follow] at h
    -- a directory is entered; anything else ends the walk at the name, or fails
    cases hent : d.entry? (cur ++ [m]) with
    | none =>
      simp only [hent] at h
      split at h
      · cases h
        exact .inr hent
      · cases h
    | some e =>
      cases e with
      | directory =>
        simp only [hent] at h
        exact entry?_place_of_follow h
      | link t =>
        simp only [hent] at h
        split at h
        · cases h
          exact .inr hent
        · split at h
          · cases h
          · exact entry?_place_of_follow h
      | file =>
        simp only [hent] at h
        split at h
        · cases h
          exact .inr hent
        · cases h
      | socket =>
        simp only [hent] at h
        split at h
        · cases h
          exact .inr hent
        · cases h

theorem follow_true_of_follow_false {P : List String} {e : Entry} (he : ∀ t, e ≠ .link t) :
    ∀ {fuel links : Nat} {cur : List String} {ps : List Part},
      d.follow false fuel links cur ps = .ok (.found P e) →
        d.follow true fuel links cur ps = .ok (.found P e)
  | 0, _, _, _, h => by simp [follow] at h
  | _ + 1, _, _, [], h => by
    rw [follow] at h ⊢
    exact h
  | _ + 1, _, _, .root :: _, h => by
    rw [follow] at h ⊢
    exact follow_true_of_follow_false he h
  | _ + 1, _, _, .here :: _, h => by
    rw [follow] at h ⊢
    exact follow_true_of_follow_false he h
  | _ + 1, _, _, .up :: _, h => by
    rw [follow] at h ⊢
    exact follow_true_of_follow_false he h
  | _ + 1, links, cur, .name m :: rest, h => by
    simp only [follow] at h ⊢
    cases hent : d.entry? (cur ++ [m]) with
    | none =>
      simp only [hent] at h
      split at h <;> cases h
    | some e' =>
      cases e' with
      | directory =>
        simp only [hent] at h ⊢
        exact follow_true_of_follow_false he h
      | link t =>
        -- a link at the end is found itself, and `e` is no link; before the end both follow it
        simp only [hent] at h ⊢
        by_cases hr : rest.isEmpty = true
        · simp only [hr, Bool.not_false, Bool.and_self, if_true, Except.ok.injEq,
            Target.found.injEq] at h
          exact absurd h.2.symm (he t)
        · simp only [hr, Bool.false_and, Bool.false_eq_true, if_false] at h ⊢
          split at h
          · cases h
          · rw [if_neg ‹_›]
            exact follow_true_of_follow_false he h
      | file =>
        simp only [hent] at h ⊢
        exact h
      | socket =>
        simp only [hent] at h ⊢
        exact h

variable {cwd : List String} {p : String}

theorem locate_eq_bind (d : Disk) (cwd : List String) (p : String) (last : Bool) :
    d.locate cwd p last = (checkText p).bind fun _ =>
      d.follow last ((Path.parts p).length + (linkMax + 1) * (d.longestTarget + 1) + 1) 0 cwd
        (Path.parts p) :=
  rfl

theorem entry?_place_of_locate {last : Bool} {t : Target} (h : d.locate cwd p last = .ok t) :
    (∃ P, t = .found P .directory) ∨ d.entry? t.place = t.entry? := by
  rw [locate_eq_bind] at h
  cases hc : checkText p with
  | error err => simp [hc, Except.bind] at h
  | ok u =>
    simp only [hc, Except.bind] at h
    exact entry?_place_of_follow h

theorem locate_true_of_locate_false {P : List String} {e : Entry} (he : ∀ t, e ≠ .link t)
    (h : d.locate cwd p false = .ok (.found P e)) : d.locate cwd p true = .ok (.found P e) := by
  rw [locate_eq_bind] at h ⊢
  cases hc : checkText p with
  | error err => simp [hc, Except.bind] at h
  | ok u =>
    simp only [hc, Except.bind] at h ⊢
    exact follow_true_of_follow_false he h

theorem keepsFiles_replaceFile {bytes : ByteArray} (hfree : d.exists? cwd p = false)
    (h : d.replaceFile cwd p bytes = .ok d') : KeepsFiles d d' := by
  obtain ⟨dir, -, -, t, hloc, hnotDir, rfl⟩ := replaceFile_eq_ok h
  have hat : d.entry? t.place = t.entry? :=
    (entry?_place_of_locate hloc).resolve_left fun ⟨P, hP⟩ => hnotDir P hP
  -- the place the file goes to is a real place and holds no file
  have hplace : t.place ≠ [] := by
    cases t with
    | absent a n => simp [Target.place]
    | found Q e =>
      intro hnil
      rw [Target.place] at hnil
      rw [Target.place, hnil, entry?_nil, Target.entry?] at hat
      exact hnotDir Q (by rw [← Option.some.inj hat])
  have hnoFile : ∀ b ro, d.entry? t.place ≠ some (.file b ro) := by
    intro b ro hfile
    rw [hat] at hfile
    cases t with
    | absent a n => cases hfile
    | found Q e =>
      -- a file found without following a link at the end is found through links too
      obtain rfl := Option.some.inj hfile
      have htrue := locate_true_of_locate_false (fun _ hl => by cases hl) hloc
      have hexists : d.exists? cwd p = true := by simp [exists?, stat, htrue, Except.toBool]
      rw [hfree] at hexists
      cases hexists
  intro P b ro hP
  rw [entry?_put _ hplace, if_neg (fun hPt : P = t.place => hnoFile b ro (hPt ▸ hP))]
  exact hP

end Arbor.Disk

namespace Arbor.Edit

open Arbor.Disk

variable {d d' : Disk} {cwd : List String}

/-! ### The path a copy goes to -/

theorem copyTarget_of_exists?_eq_false {p : String} (h : d.exists? cwd p = false) :
    copyTarget d cwd p = p := by
  simp [copyTarget, copyTarget.go, h]

theorem exists_copyTarget_go_eq_iterate : ∀ (n : Nat) (p : String),
    ∃ k, copyTarget.go d cwd n p = copySibling^[k] p
  | 0, _ => ⟨0, rfl⟩
  | n + 1, p => by
    unfold copyTarget.go
    split
    · obtain ⟨k, hk⟩ := exists_copyTarget_go_eq_iterate n (copySibling p)
      exact ⟨k + 1, hk⟩
    · exact ⟨0, rfl⟩

theorem parent?_copySibling {p N : String} (hp : Path.fileName? p = some N) :
    Path.parent? (copySibling p) = Path.parent? p := by
  obtain ⟨name, hname, heq, -⟩ := copySibling_eq_withFileName p
  rw [heq, Path.parent?_withFileName hp hname]

theorem parent?_copySibling_iterate (k : Nat) :
    ∀ {p N : String}, Path.fileName? p = some N →
      Path.parent? (copySibling^[k] p) = Path.parent? p := by
  induction k with
  | zero => intro _ _ _; rfl
  | succ k ih =>
    intro p N hp
    obtain ⟨N', hN', -⟩ := fileName?_copySibling p
    rw [Function.iterate_succ_apply, ih hN', parent?_copySibling hp]

theorem parent?_copySibling_iterate_of_fileName?_eq_none {p : String}
    (hp : Path.fileName? p = none) (k : Nat) :
    Path.parent? (copySibling^[k + 1] p) = some (Path.trimEnd p) := by
  obtain ⟨name, hname, heq, -⟩ := copySibling_eq_withFileName p
  obtain ⟨N, hN, -⟩ := fileName?_copySibling p
  rw [Function.iterate_succ_apply, parent?_copySibling_iterate k hN, heq,
    Path.parent?_withFileName_of_fileName?_eq_none hp hname]

/-! ### A confirm in copy mode -/

theorem keepsFiles_write_copy {f f' : FilePlan} {enc : Encoding}
    (h : f.write enc .copy d cwd = .ok (f', d')) : KeepsFiles d d' := by
  obtain ⟨bytes, target, snapshot, -, hrep, -, hmode⟩ := write_eq_ok h
  rcases hmode with ⟨hm, -⟩ | ⟨-, rfl, -⟩
  · cases hm
  · exact keepsFiles_replaceFile (exists?_copyTarget f.path) hrep

namespace Session

variable {s : Session}

theorem keepsFiles_confirmFile {enc : Encoding} (acc : List FilePlan × Report × Disk)
    (f : FilePlan) : KeepsFiles acc.2.2 (confirmFile enc .copy cwd acc f).2.2 := by
  cases hw : f.write enc .copy acc.2.2 cwd with
  | ok r =>
    obtain ⟨g, d'⟩ := r
    rw [confirmFile_of_ok hw]
    exact keepsFiles_write_copy hw
  | error e =>
    rw [confirmFile_of_error hw]
    exact KeepsFiles.refl _

theorem keepsFiles_confirmUpTo (hmode : s.mode = .copy) {i j : Nat} (hij : i ≤ j)
    (hj : j ≤ s.files.length) :
    KeepsFiles (s.confirmUpTo d cwd i).2.2 (s.confirmUpTo d cwd j).2.2 := by
  induction j, hij using Nat.le_induction with
  | base => exact KeepsFiles.refl _
  | succ j hij ih =>
    have hlt : j < s.files.length := hj
    rw [confirmUpTo_succ hlt, hmode]
    exact (ih (Nat.le_of_lt hlt)).trans (keepsFiles_confirmFile _ _)

theorem keepsFiles_confirm (hmode : s.mode = .copy) {t t' : Tree} {r : Report} {s' : Session}
    (h : s.confirm t d cwd = .ok (r, s', t', d')) : KeepsFiles d d' := by
  obtain ⟨-, hout⟩ := confirm_eq_ok_iff.mp h
  have hd' : d' = (s.confirmUpTo d cwd s.files.length).2.2 := congrArg (·.2.2.2) hout
  rw [hd']
  exact keepsFiles_confirmUpTo hmode (Nat.zero_le _) (Nat.le_refl _)

end Session

/-- A copy goes beside its file, to a free path, and a confirm in copy mode keeps every file it
finds or writes. -/
theorem copyTarget_free_beside (d : Disk) (cwd : List String) (p : String) :
    d.exists? cwd (copyTarget d cwd p) = false ∧
      (d.exists? cwd p = false → copyTarget d cwd p = p) ∧
      (∀ N, Path.fileName? p = some N → Path.parent? (copyTarget d cwd p) = Path.parent? p) ∧
      (Path.fileName? p = none →
        copyTarget d cwd p = p ∨ Path.parent? (copyTarget d cwd p) = some (Path.trimEnd p)) ∧
      ∀ (s : Session) (t t' : Tree) (r : Report) (s' : Session) (d' : Disk), s.mode = .copy →
        s.confirm t d cwd = .ok (r, s', t', d') →
          KeepsFiles d d' ∧ ∀ i j, i ≤ j → j ≤ s.files.length →
            KeepsFiles (s.confirmUpTo d cwd i).2.2 (s.confirmUpTo d cwd j).2.2 := by
  obtain ⟨k, htarget⟩ : ∃ k, copyTarget d cwd p = copySibling^[k] p :=
    exists_copyTarget_go_eq_iterate _ _
  refine ⟨exists?_copyTarget p, copyTarget_of_exists?_eq_false, ?_, ?_, ?_⟩
  · intro N hp
    rw [htarget, parent?_copySibling_iterate k hp]
  · intro hp
    cases k with
    | zero => exact .inl htarget
    | succ k => exact .inr (htarget ▸ parent?_copySibling_iterate_of_fileName?_eq_none hp k)
  · intro s t t' r s' d' hmode h
    exact ⟨Session.keepsFiles_confirm hmode h, fun _ _ hij hj =>
      Session.keepsFiles_confirmUpTo hmode hij hj⟩

end Arbor.Edit
