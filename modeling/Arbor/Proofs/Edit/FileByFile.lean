import Arbor.Proofs.Edit.Write
/-!
Confirming and rolling back, file by file.
-/

namespace Arbor.Edit

open Arbor.Disk

/-- Whether a file has been written and not put back. -/
def FileStatus.isWritten : FileStatus → Bool
  | .written .. => true
  | _ => false

/-- Whether writing a file failed. -/
def FileStatus.isFailed : FileStatus → Bool
  | .failed => true
  | _ => false

/-- Whether a file has been put back. -/
def FileStatus.isRestored : FileStatus → Bool
  | .restored => true
  | _ => false

/-- The first `i + 1` steps of a fold are the first `i` steps and then step `i`. -/
theorem foldl_take_succ {α β : Type} (g : β → α → β) (init : β) (l : List α) {i : Nat}
    (hi : i < l.length) : (l.take (i + 1)).foldl g init = g ((l.take i).foldl g init) l[i] := by
  rw [List.take_add_one, List.getElem?_eq_getElem hi, Option.toList_some, List.foldl_append]
  rfl

variable {d d' : Disk} {cwd : List String} {f g : FilePlan} {enc : Encoding} {mode : WriteMode}
  {force : Bool} {acc : List FilePlan × Report × Disk} {e : EditError}

theorem write_eq_ok_status (h : f.write enc mode d cwd = .ok (g, d')) :
    ∃ target snapshot written, g = { f with status := .written target snapshot written } := by
  obtain ⟨bytes, target, snapshot, -, -, rfl, -⟩ := write_eq_ok h
  exact ⟨target, snapshot, _, rfl⟩

theorem restore_eq_ok_status {target : String} {snapshot : Option ByteArray} {written : UInt64}
    (hw : f.status = .written target snapshot written) (h : f.restore force d cwd = .ok (g, d')) :
    g = { f with status := .restored } := by
  unfold FilePlan.restore at h
  rw [hw] at h
  simp only [bind, Except.bind, pure, Except.pure] at h
  -- every way through ends in the same plan, or in an error
  repeat' split at h
  all_goals first
    | (cases h; rfl)
    | simp at h

namespace Session

/-! ### Turns -/

/-- A confirm turn whose write succeeds keeps the written plan and reports the file successful. -/
theorem confirmFile_of_ok (h : f.write enc mode acc.2.2 cwd = .ok (g, d')) :
    confirmFile enc mode cwd acc f =
      (acc.1 ++ [g], { acc.2.1 with successful := acc.2.1.successful ++ [f.path] }, d') := by
  obtain ⟨target, snapshot, written, rfl⟩ := write_eq_ok_status h
  obtain ⟨files, r, d⟩ := acc
  simp only [confirmFile, h]

/-- A confirm turn whose write fails marks the file failed, reports why, and leaves the disk. -/
theorem confirmFile_of_error (h : f.write enc mode acc.2.2 cwd = .error e) :
    confirmFile enc mode cwd acc f =
      (acc.1 ++ [{ f with status := .failed }],
        { acc.2.1 with failed := acc.2.1.failed ++ [(f.path, e)] }, acc.2.2) := by
  obtain ⟨files, r, d⟩ := acc
  simp only [confirmFile, h]

/-- A rollback turn passes over a file that was never written. -/
theorem rollbackFile_of_unwritten (h : f.status = .planned ∨ f.status = .failed) :
    rollbackFile force cwd acc f = (acc.1 ++ [f], acc.2.1, acc.2.2) := by
  obtain ⟨files, r, d⟩ := acc
  rcases h with h | h <;> simp only [rollbackFile, h]

/-- A rollback turn reports a file put back before as put back again, and leaves the disk. -/
theorem rollbackFile_of_restored (h : f.status = .restored) :
    rollbackFile force cwd acc f =
      (acc.1 ++ [f], { acc.2.1 with successful := acc.2.1.successful ++ [f.path] }, acc.2.2) := by
  obtain ⟨files, r, d⟩ := acc
  simp only [rollbackFile, h]

/-- A rollback turn that puts back a written file marks it put back and reports it successful. -/
theorem rollbackFile_of_ok {target : String} {snapshot : Option ByteArray} {written : UInt64}
    (hw : f.status = .written target snapshot written)
    (h : f.restore force acc.2.2 cwd = .ok (g, d')) :
    rollbackFile force cwd acc f =
      (acc.1 ++ [{ f with status := .restored }],
        { acc.2.1 with successful := acc.2.1.successful ++ [f.path] }, d') := by
  obtain rfl := restore_eq_ok_status hw h
  obtain ⟨files, r, d⟩ := acc
  simp only [rollbackFile, hw, h]

/-- A rollback turn that cannot put back a written file keeps it written, reports why, and leaves
the disk. -/
theorem rollbackFile_of_error {target : String} {snapshot : Option ByteArray} {written : UInt64}
    (hw : f.status = .written target snapshot written)
    (h : f.restore force acc.2.2 cwd = .error e) :
    rollbackFile force cwd acc f =
      (acc.1 ++ [f], { acc.2.1 with failed := acc.2.1.failed ++ [(f.path, e)] }, acc.2.2) := by
  obtain ⟨files, r, d⟩ := acc
  simp only [rollbackFile, hw, h]

variable {s : Session} {t : Tree} {i : Nat}

/-- The files handled, the report and the disk after the first `i` turns of a confirm. -/
def confirmUpTo (s : Session) (d : Disk) (cwd : List String) (i : Nat) :
    List FilePlan × Report × Disk :=
  (s.files.take i).foldl (confirmFile s.encoding s.mode cwd) ([], {}, d)

/-- The files handled, the report and the disk after the first `i` turns of a rollback. -/
def rollbackUpTo (s : Session) (force : Bool) (d : Disk) (cwd : List String) (i : Nat) :
    List FilePlan × Report × Disk :=
  (s.files.take i).foldl (rollbackFile force cwd) ([], {}, d)

theorem confirmUpTo_zero : s.confirmUpTo d cwd 0 = ([], {}, d) := rfl

theorem rollbackUpTo_zero : s.rollbackUpTo force d cwd 0 = ([], {}, d) := rfl

theorem confirmUpTo_succ (hi : i < s.files.length) :
    s.confirmUpTo d cwd (i + 1) =
      confirmFile s.encoding s.mode cwd (s.confirmUpTo d cwd i) s.files[i] :=
  foldl_take_succ _ _ _ hi

theorem rollbackUpTo_succ (hi : i < s.files.length) :
    s.rollbackUpTo force d cwd (i + 1) = rollbackFile force cwd (s.rollbackUpTo force d cwd i) s.files[i] :=
  foldl_take_succ _ _ _ hi

/-- A confirm is taken exactly while the session is pending. It then goes through every file,
confirms the session with the files as the turns left them, and reads the files reported
successful into the tree again. -/
theorem confirm_eq_ok_iff {out : Report × Session × Tree × Disk} :
    s.confirm t d cwd = .ok out ↔ s.phase = .pending ∧
      out = ((s.confirmUpTo d cwd s.files.length).2.1,
        { s with phase := .confirmed, files := (s.confirmUpTo d cwd s.files.length).1 },
        t.refresh (s.confirmUpTo d cwd s.files.length).2.2 cwd
          (s.confirmUpTo d cwd s.files.length).2.1.successful,
        (s.confirmUpTo d cwd s.files.length).2.2) := by
  rw [confirmUpTo, List.take_length]
  by_cases hp : s.phase = .pending
  · simp [Session.confirm, hp, eq_comm]
  · simp [Session.confirm, hp]

/-- A confirm asked for once the session is no longer pending is refused. -/
theorem confirm_of_not_pending (hp : s.phase ≠ .pending) :
    s.confirm t d cwd = .error (.invalidState s.phase .confirm) := by
  simp [Session.confirm, hp]

/-- A rollback is taken exactly once the session is no longer pending. It then goes through every
file, marks the session rolled back with the files as the turns left them, and reads the files
reported successful into the tree again. -/
theorem rollback_eq_ok_iff {out : Report × Session × Tree × Disk} :
    s.rollback force t d cwd = .ok out ↔ s.phase ≠ .pending ∧
      out = ((s.rollbackUpTo force d cwd s.files.length).2.1,
        { s with phase := .rolledBack, files := (s.rollbackUpTo force d cwd s.files.length).1 },
        t.refresh (s.rollbackUpTo force d cwd s.files.length).2.2 cwd
          (s.rollbackUpTo force d cwd s.files.length).2.1.successful,
        (s.rollbackUpTo force d cwd s.files.length).2.2) := by
  rw [rollbackUpTo, List.take_length]
  by_cases hp : s.phase = .pending
  · simp [Session.rollback, hp]
  · simp only [Session.rollback, beq_iff_eq, hp, if_false, Except.ok.injEq, ne_eq,
      not_false_eq_true, true_and]
    exact eq_comm

/-- A rollback asked for while the session is pending is refused. -/
theorem rollback_of_pending (hp : s.phase = .pending) :
    s.rollback force t d cwd = .error (.invalidState .pending .rollBack) := by
  simp [Session.rollback, hp]

/-! ### Runs -/

/-- What a confirm turn makes of a file: its plan written somewhere, or failed. -/
def ConfirmedAs (f g : FilePlan) : Prop :=
  (∃ target snapshot written, g = { f with status := .written target snapshot written }) ∨
    g = { f with status := .failed }

/-- What a rollback turn makes of a file: a written file put back, or the file as it was. -/
def RolledBackAs (f g : FilePlan) : Prop :=
  g = f ∨ (f.status.isWritten = true ∧ g = { f with status := .restored })

/-- After the first turns of a confirm, each file handled is written or failed, and the report
lists the written ones as successful and the failed ones as failed, in plan order. -/
theorem confirmUpTo_spec (s : Session) (d : Disk) (cwd : List String) :
    ∀ {i : Nat}, i ≤ s.files.length →
    List.Forall₂ ConfirmedAs (s.files.take i) (s.confirmUpTo d cwd i).1 ∧
      (s.confirmUpTo d cwd i).2.1.successful =
        ((s.confirmUpTo d cwd i).1.filter (·.status.isWritten)).map (·.path) ∧
      (s.confirmUpTo d cwd i).2.1.failed.map (·.1) =
        ((s.confirmUpTo d cwd i).1.filter (·.status.isFailed)).map (·.path)
  | 0, _ => ⟨.nil, rfl, rfl⟩
  | i + 1, hi => by
    obtain ⟨hfiles, hsucc, hfail⟩ := confirmUpTo_spec s d cwd (Nat.le_of_succ_le hi)
    have htake : s.files.take (i + 1) = s.files.take i ++ [s.files[i]] := by
      rw [List.take_add_one, List.getElem?_eq_getElem hi, Option.toList_some]
    rw [confirmUpTo_succ hi, htake]
    -- the turn either writes the file or marks it failed
    cases hw : s.files[i].write s.encoding s.mode (s.confirmUpTo d cwd i).2.2 cwd with
    | ok res =>
      obtain ⟨g, d'⟩ := res
      obtain ⟨target, snapshot, written, rfl⟩ := write_eq_ok_status hw
      rw [confirmFile_of_ok hw]
      refine ⟨List.rel_append hfiles (.cons (.inl ⟨_, _, _, rfl⟩) .nil), ?_, ?_⟩
      · simp [hsucc, FileStatus.isWritten]
      · simp [hfail, FileStatus.isFailed]
    | error e =>
      rw [confirmFile_of_error hw]
      refine ⟨List.rel_append hfiles (.cons (.inr rfl) .nil), ?_, ?_⟩
      · simp [hsucc, FileStatus.isWritten]
      · simp [hfail, FileStatus.isFailed]

theorem rollbackUpTo_spec (s : Session) (force : Bool) (d : Disk) (cwd : List String) :
    ∀ {i : Nat}, i ≤ s.files.length →
    List.Forall₂ RolledBackAs (s.files.take i) (s.rollbackUpTo force d cwd i).1 ∧
      (s.rollbackUpTo force d cwd i).2.1.successful =
        ((s.rollbackUpTo force d cwd i).1.filter (·.status.isRestored)).map (·.path) ∧
      (s.rollbackUpTo force d cwd i).2.1.failed.map (·.1) =
        ((s.rollbackUpTo force d cwd i).1.filter (·.status.isWritten)).map (·.path)
  | 0, _ => ⟨.nil, rfl, rfl⟩
  | i + 1, hi => by
    obtain ⟨hfiles, hsucc, hfail⟩ := rollbackUpTo_spec s force d cwd (Nat.le_of_succ_le hi)
    have htake : s.files.take (i + 1) = s.files.take i ++ [s.files[i]] := by
      rw [List.take_add_one, List.getElem?_eq_getElem hi, Option.toList_some]
    rw [rollbackUpTo_succ hi, htake]
    -- one case for each status the file can have
    cases hs : s.files[i].status with
    | planned =>
      rw [rollbackFile_of_unwritten (.inl hs)]
      refine ⟨List.rel_append hfiles (.cons (.inl rfl) .nil), ?_, ?_⟩
      · simp [hsucc, hs, FileStatus.isRestored]
      · simp [hfail, hs, FileStatus.isWritten]
    | failed =>
      rw [rollbackFile_of_unwritten (.inr hs)]
      refine ⟨List.rel_append hfiles (.cons (.inl rfl) .nil), ?_, ?_⟩
      · simp [hsucc, hs, FileStatus.isRestored]
      · simp [hfail, hs, FileStatus.isWritten]
    | restored =>
      rw [rollbackFile_of_restored hs]
      refine ⟨List.rel_append hfiles (.cons (.inl rfl) .nil), ?_, ?_⟩
      · simp [hsucc, hs, FileStatus.isRestored]
      · simp [hfail, hs, FileStatus.isWritten]
    | written target snapshot written =>
      cases hr : s.files[i].restore force (s.rollbackUpTo force d cwd i).2.2 cwd with
      | ok res =>
        rw [rollbackFile_of_ok hs hr]
        refine ⟨List.rel_append hfiles (.cons (.inr ⟨by simp [hs, FileStatus.isWritten], rfl⟩) .nil),
          ?_, ?_⟩
        · simp [hsucc, FileStatus.isRestored]
        · simp [hfail, FileStatus.isWritten]
      | error e =>
        rw [rollbackFile_of_error hs hr]
        refine ⟨List.rel_append hfiles (.cons (.inl rfl) .nil), ?_, ?_⟩
        · simp [hsucc, hs, FileStatus.isRestored]
        · simp [hfail, hs, FileStatus.isWritten]

theorem confirmUpTo_fst_succ (hi : i < s.files.length) :
    ∃ g, (s.confirmUpTo d cwd (i + 1)).1 = (s.confirmUpTo d cwd i).1 ++ [g] := by
  rw [confirmUpTo_succ hi]
  cases hw : s.files[i].write s.encoding s.mode (s.confirmUpTo d cwd i).2.2 cwd with
  | ok res => exact ⟨res.1, by rw [confirmFile_of_ok hw]⟩
  | error e => exact ⟨_, by rw [confirmFile_of_error hw]⟩

/-- The files a confirm has handled after `i` turns stay as they are through the later turns. -/
theorem confirmUpTo_fst_prefix {j : Nat} (hij : i ≤ j) (hj : j ≤ s.files.length) :
    (s.confirmUpTo d cwd i).1 <+: (s.confirmUpTo d cwd j).1 := by
  induction j with
  | zero => obtain rfl : i = 0 := Nat.le_zero.mp hij; exact List.prefix_refl _
  | succ j ih =>
    rcases Nat.lt_or_eq_of_le hij with hlt | rfl
    · obtain ⟨g, hg⟩ : ∃ g, (s.confirmUpTo d cwd (j + 1)).1 = (s.confirmUpTo d cwd j).1 ++ [g] :=
        confirmUpTo_fst_succ hj
      rw [hg]
      exact (ih (Nat.le_of_lt_succ hlt) (Nat.le_of_succ_le hj)).trans (List.prefix_append _ _)
    · exact List.prefix_refl _

/-- After a whole confirm, each file is written or failed, and the report lists the written ones
as successful and the failed ones as failed, in plan order. -/
theorem confirmUpTo_length_spec (s : Session) (d : Disk) (cwd : List String) :
    List.Forall₂ ConfirmedAs s.files (s.confirmUpTo d cwd s.files.length).1 ∧
      (s.confirmUpTo d cwd s.files.length).2.1.successful =
        ((s.confirmUpTo d cwd s.files.length).1.filter (·.status.isWritten)).map (·.path) ∧
      (s.confirmUpTo d cwd s.files.length).2.1.failed.map (·.1) =
        ((s.confirmUpTo d cwd s.files.length).1.filter (·.status.isFailed)).map (·.path) := by
  have h := confirmUpTo_spec s d cwd (Nat.le_refl s.files.length)
  rwa [List.take_length] at h

/-- After a whole rollback, each file is as it was or, if it was written, put back; the report
lists the files put back as successful and the files still written as failed, in plan order. -/
theorem rollbackUpTo_length_spec (s : Session) (force : Bool) (d : Disk) (cwd : List String) :
    List.Forall₂ RolledBackAs s.files (s.rollbackUpTo force d cwd s.files.length).1 ∧
      (s.rollbackUpTo force d cwd s.files.length).2.1.successful =
        ((s.rollbackUpTo force d cwd s.files.length).1.filter (·.status.isRestored)).map (·.path) ∧
      (s.rollbackUpTo force d cwd s.files.length).2.1.failed.map (·.1) =
        ((s.rollbackUpTo force d cwd s.files.length).1.filter (·.status.isWritten)).map (·.path) := by
  have h := rollbackUpTo_spec s force d cwd (Nat.le_refl s.files.length)
  rwa [List.take_length] at h

end Session

end Arbor.Edit
