import Arbor.Proofs.Edit.FileByFile
/-!
Changes made from outside are not lost.
-/

namespace Arbor.Edit

open Arbor.Disk

variable {d d' : Disk} {cwd : List String} {f g : FilePlan} {enc : Encoding} {mode : WriteMode}
  {acc : List FilePlan × Report × Disk}

/-- A file that still holds what its plan was made from: its bytes decode in the encoding to a
text with the plan's fingerprint. -/
def FilePlan.Unchanged (f : FilePlan) (enc : Encoding) (d : Disk) (cwd : List String) : Prop :=
  ∃ bytes text, d.contents cwd f.path = .ok bytes ∧ enc.decode bytes = .ok text ∧
    Edit.fingerprint text = f.fingerprint

/-- A file changed from outside in a way only its fingerprint tells: a writable file whose bytes
decode, to a text with a fingerprint other than the plan's. -/
def FilePlan.Stale (f : FilePlan) (enc : Encoding) (d : Disk) (cwd : List String) : Prop :=
  ∃ bytes text, d.stat cwd f.path = .ok (.file bytes false) ∧ enc.decode bytes = .ok text ∧
    Edit.fingerprint text ≠ f.fingerprint

/-- A writable file whose bytes do not decode in the encoding. -/
def FilePlan.Undecodable (f : FilePlan) (enc : Encoding) (d : Disk) (cwd : List String) : Prop :=
  ∃ bytes e, d.stat cwd f.path = .ok (.file bytes false) ∧ enc.decode bytes = .error e

/-- A file that is read-only, or whose bytes cannot be read. -/
def FilePlan.Inaccessible (f : FilePlan) (d : Disk) (cwd : List String) : Prop :=
  (∃ bytes, d.stat cwd f.path = .ok (.file bytes true)) ∨ ∃ e, d.contents cwd f.path = .error e

/-- A written file whose target still holds bytes with the fingerprint of those written there. -/
def FilePlan.Kept (f : FilePlan) (d : Disk) (cwd : List String) : Prop :=
  ∃ target snapshot written, f.status = .written target snapshot written ∧
    ∃ current, d.contents cwd target = .ok current ∧ fingerprintBytes current = written

theorem readUnchanged_eq_ok_iff {current : ByteArray} :
    f.readUnchanged enc d cwd = .ok current ↔ d.stat cwd f.path = .ok (.file current false) ∧
      ∃ text, enc.decode current = .ok text ∧ fingerprint text = f.fingerprint := by
  constructor
  · intro h
    have hstat := readUnchanged_eq_ok h
    unfold FilePlan.readUnchanged at h
    rw [hstat] at h
    simp only [Disk.contents, hstat] at h
    split at h
    · cases h
    · rename_i text hdec
      split at h
      · rename_i hfp
        cases h
        exact ⟨hstat, text, hdec, by simpa using hfp⟩
      · cases h
  · rintro ⟨hstat, text, hdec, hfp⟩
    simp [FilePlan.readUnchanged, Disk.contents, hstat, hdec, hfp]

theorem unchanged_of_write (hmode : mode = .overwrite) (h : f.write enc mode d cwd = .ok (g, d')) :
    f.Unchanged enc d cwd := by
  obtain ⟨-, -, -, -, -, -, ⟨-, rfl, current, -, hcur⟩ | ⟨hcopy, -⟩⟩ := write_eq_ok h
  · obtain ⟨hstat, text, hdec, hfp⟩ := readUnchanged_eq_ok_iff.mp hcur
    exact ⟨current, text, by simp [Disk.contents, hstat], hdec, hfp⟩
  · exact absurd (hcopy.symm.trans hmode) (by decide)

theorem write_of_readUnchanged_error (hpath : f.path.isEmpty = false) {bytes : ByteArray}
    (henc : enc.encode f.proposed = .ok bytes) {e : EditError}
    (hread : f.readUnchanged enc d cwd = .error e) : f.write enc .overwrite d cwd = .error e := by
  simp [FilePlan.write, hpath, henc, hread, bind, Except.bind, pure, Except.pure]

theorem write_of_stale (hpath : f.path.isEmpty = false) {bytes : ByteArray}
    (henc : enc.encode f.proposed = .ok bytes) (hstale : f.Stale enc d cwd) :
    f.write enc .overwrite d cwd = .error (.conflict f.path) := by
  obtain ⟨current, text, hstat, hdec, hfp⟩ := hstale
  refine write_of_readUnchanged_error hpath henc ?_
  simp [FilePlan.readUnchanged, Disk.contents, hstat, hdec, hfp]

theorem write_of_undecodable (hpath : f.path.isEmpty = false) {bytes : ByteArray}
    (henc : enc.encode f.proposed = .ok bytes) (h : f.Undecodable enc d cwd) :
    f.write enc .overwrite d cwd = .error (.decode f.path enc.name) := by
  obtain ⟨current, e, hstat, hdec⟩ := h
  refine write_of_readUnchanged_error hpath henc ?_
  simp [FilePlan.readUnchanged, Disk.contents, hstat, hdec]

theorem write_of_inaccessible (hpath : f.path.isEmpty = false) {bytes : ByteArray}
    (henc : enc.encode f.proposed = .ok bytes) (h : f.Inaccessible d cwd) :
    ∃ cause, f.write enc .overwrite d cwd = .error (.io f.path cause) := by
  suffices hread : ∃ cause, f.readUnchanged enc d cwd = .error (.io f.path cause) by
    obtain ⟨cause, hread⟩ := hread
    exact ⟨cause, write_of_readUnchanged_error hpath henc hread⟩
  unfold FilePlan.readUnchanged
  rcases h with ⟨bytes, hstat⟩ | ⟨e, hcont⟩
  · exact ⟨_, by rw [hstat]⟩
  · -- the path leads nowhere, or to something other than a file
    cases hstat : d.stat cwd f.path with
    | error e' => exact ⟨_, rfl⟩
    | ok entry =>
      cases entry with
      | file bytes ro => simp [Disk.contents, hstat] at hcont
      | directory | link _ | socket => exact ⟨e.message, by simp [hcont]⟩

theorem kept_of_restore {target : String} {snapshot : Option ByteArray} {written : UInt64}
    (hw : f.status = .written target snapshot written) (h : f.restore false d cwd = .ok (g, d')) :
    f.Kept d cwd := by
  refine ⟨target, snapshot, written, hw, ?_⟩
  unfold FilePlan.restore at h
  rw [hw] at h
  simp only [bind, Except.bind, Bool.not_false, if_true] at h
  -- the check reads the target before anything else is done
  split at h
  · cases h
  · rename_i current hcur
    refine ⟨current, hcur, ?_⟩
    by_contra hne
    simp [hne, throw, throwThe, MonadExceptOf.throw] at h

theorem restore_of_unreadable {target : String} {snapshot : Option ByteArray} {written : UInt64}
    (hw : f.status = .written target snapshot written) {e : IoError}
    (hcur : d.contents cwd target = .error e) :
    f.restore false d cwd = .error (.io target e.message) := by
  simp [FilePlan.restore, hw, hcur, bind, Except.bind, throw, throwThe, MonadExceptOf.throw]

theorem restore_of_changed {target : String} {snapshot : Option ByteArray} {written : UInt64}
    (hw : f.status = .written target snapshot written) {current : ByteArray}
    (hcur : d.contents cwd target = .ok current) (hne : fingerprintBytes current ≠ written) :
    f.restore false d cwd = .error (.conflict target) := by
  simp [FilePlan.restore, hw, hcur, hne, bind, Except.bind, throw, throwThe, MonadExceptOf.throw]

namespace Session

theorem confirmFile_of_not_unchanged (h : ¬ f.Unchanged enc acc.2.2 cwd) :
    ∃ e, confirmFile enc .overwrite cwd acc f =
      (acc.1 ++ [{ f with status := .failed }],
        { acc.2.1 with failed := acc.2.1.failed ++ [(f.path, e)] }, acc.2.2) := by
  cases hw : f.write enc .overwrite acc.2.2 cwd with
  | error e => exact ⟨e, confirmFile_of_error hw⟩
  | ok res => exact absurd (unchanged_of_write rfl hw) h

theorem confirmFile_of_stale (hpath : f.path.isEmpty = false) {bytes : ByteArray}
    (henc : enc.encode f.proposed = .ok bytes) (hstale : f.Stale enc acc.2.2 cwd) :
    confirmFile enc .overwrite cwd acc f =
      (acc.1 ++ [{ f with status := .failed }],
        { acc.2.1 with failed := acc.2.1.failed ++ [(f.path, .conflict f.path)] }, acc.2.2) :=
  confirmFile_of_error (write_of_stale hpath henc hstale)

theorem confirmFile_of_undecodable (hpath : f.path.isEmpty = false) {bytes : ByteArray}
    (henc : enc.encode f.proposed = .ok bytes) (h : f.Undecodable enc acc.2.2 cwd) :
    confirmFile enc .overwrite cwd acc f =
      (acc.1 ++ [{ f with status := .failed }],
        { acc.2.1 with failed := acc.2.1.failed ++ [(f.path, .decode f.path enc.name)] }, acc.2.2) :=
  confirmFile_of_error (write_of_undecodable hpath henc h)

theorem confirmFile_of_inaccessible (hpath : f.path.isEmpty = false) {bytes : ByteArray}
    (henc : enc.encode f.proposed = .ok bytes) (h : f.Inaccessible acc.2.2 cwd) :
    ∃ cause, confirmFile enc .overwrite cwd acc f =
      (acc.1 ++ [{ f with status := .failed }],
        { acc.2.1 with failed := acc.2.1.failed ++ [(f.path, .io f.path cause)] }, acc.2.2) := by
  obtain ⟨cause, hw⟩ := write_of_inaccessible hpath henc h
  exact ⟨cause, confirmFile_of_error hw⟩

theorem rollbackFile_of_not_kept (h : ¬ f.Kept acc.2.2 cwd) :
    (rollbackFile false cwd acc f).2.2 = acc.2.2 ∧
      (f.status.isWritten = true → ∃ e, (rollbackFile false cwd acc f).2.1 =
        { acc.2.1 with failed := acc.2.1.failed ++ [(f.path, e)] }) := by
  cases hs : f.status with
  | planned => simp [rollbackFile_of_unwritten (.inl hs), FileStatus.isWritten]
  | failed => simp [rollbackFile_of_unwritten (.inr hs), FileStatus.isWritten]
  | restored => simp [rollbackFile_of_restored hs, FileStatus.isWritten]
  | written target snapshot written =>
    cases hr : f.restore false acc.2.2 cwd with
    | error e => exact ⟨by rw [rollbackFile_of_error hs hr], fun _ => ⟨e, by rw [rollbackFile_of_error hs hr]⟩⟩
    | ok res => exact absurd (kept_of_restore hs hr) h

theorem rollbackFile_of_changed {target : String} {snapshot : Option ByteArray} {written : UInt64}
    (hw : f.status = .written target snapshot written) {current : ByteArray}
    (hcur : acc.2.2.contents cwd target = .ok current) (hne : fingerprintBytes current ≠ written) :
    rollbackFile false cwd acc f =
      (acc.1 ++ [f], { acc.2.1 with failed := acc.2.1.failed ++ [(f.path, .conflict target)] },
        acc.2.2) :=
  rollbackFile_of_error hw (restore_of_changed hw hcur hne)

theorem rollbackFile_of_unreadable {target : String} {snapshot : Option ByteArray}
    {written : UInt64} (hw : f.status = .written target snapshot written) {e : IoError}
    (hcur : acc.2.2.contents cwd target = .error e) :
    rollbackFile false cwd acc f =
      (acc.1 ++ [f], { acc.2.1 with failed := acc.2.1.failed ++ [(f.path, .io target e.message)] },
        acc.2.2) :=
  rollbackFile_of_error hw (restore_of_unreadable hw hcur)

/-- No change made from outside is lost: a turn that finds its file changed, undecodable or
unreadable leaves the disk and reports the file failed with that error. -/
theorem turns_keep_outside_changes (s : Session) (d : Disk) (cwd : List String) :
    (s.mode = .overwrite → ∀ i (hi : i < s.files.length),
      (¬ s.files[i].Unchanged s.encoding (s.confirmUpTo d cwd i).2.2 cwd →
        (s.confirmUpTo d cwd (i + 1)).2.2 = (s.confirmUpTo d cwd i).2.2 ∧
        ∃ e, (s.confirmUpTo d cwd (i + 1)).2.1.failed =
          (s.confirmUpTo d cwd i).2.1.failed ++ [(s.files[i].path, e)]) ∧
      (s.files[i].path.isEmpty = false → (∃ bytes, s.encoding.encode s.files[i].proposed = .ok bytes) →
        (s.files[i].Stale s.encoding (s.confirmUpTo d cwd i).2.2 cwd →
          (s.confirmUpTo d cwd (i + 1)).2.1.failed =
            (s.confirmUpTo d cwd i).2.1.failed ++ [(s.files[i].path, .conflict s.files[i].path)]) ∧
        (s.files[i].Undecodable s.encoding (s.confirmUpTo d cwd i).2.2 cwd →
          (s.confirmUpTo d cwd (i + 1)).2.1.failed =
            (s.confirmUpTo d cwd i).2.1.failed ++
              [(s.files[i].path, .decode s.files[i].path s.encoding.name)]) ∧
        (s.files[i].Inaccessible (s.confirmUpTo d cwd i).2.2 cwd →
          ∃ cause, (s.confirmUpTo d cwd (i + 1)).2.1.failed =
            (s.confirmUpTo d cwd i).2.1.failed ++ [(s.files[i].path, .io s.files[i].path cause)]))) ∧
    (∀ i (hi : i < s.files.length),
      (¬ s.files[i].Kept (s.rollbackUpTo false d cwd i).2.2 cwd →
        (s.rollbackUpTo false d cwd (i + 1)).2.2 = (s.rollbackUpTo false d cwd i).2.2 ∧
        (s.files[i].status.isWritten = true → ∃ e, (s.rollbackUpTo false d cwd (i + 1)).2.1.failed =
          (s.rollbackUpTo false d cwd i).2.1.failed ++ [(s.files[i].path, e)])) ∧
      ∀ target snapshot written, s.files[i].status = .written target snapshot written →
        (∀ current, (s.rollbackUpTo false d cwd i).2.2.contents cwd target = .ok current →
          fingerprintBytes current ≠ written →
          (s.rollbackUpTo false d cwd (i + 1)).2.1.failed =
            (s.rollbackUpTo false d cwd i).2.1.failed ++ [(s.files[i].path, .conflict target)]) ∧
        ∀ e, (s.rollbackUpTo false d cwd i).2.2.contents cwd target = .error e →
          (s.rollbackUpTo false d cwd (i + 1)).2.1.failed =
            (s.rollbackUpTo false d cwd i).2.1.failed ++ [(s.files[i].path, .io target e.message)]) := by
  refine ⟨fun hmode i hi => ⟨fun h => ?_, fun hpath ⟨bytes, henc⟩ =>
      ⟨fun hstale => ?_, fun hundec => ?_, fun hinacc => ?_⟩⟩,
    fun i hi => ⟨fun h => ?_, fun target snapshot written hw =>
      ⟨fun current hcur hne => ?_, fun e hcur => ?_⟩⟩⟩
  · obtain ⟨e, he⟩ := confirmFile_of_not_unchanged h
    rw [confirmUpTo_succ hi, hmode, he]
    exact ⟨rfl, e, rfl⟩
  · rw [confirmUpTo_succ hi, hmode, confirmFile_of_stale hpath henc hstale]
  · rw [confirmUpTo_succ hi, hmode, confirmFile_of_undecodable hpath henc hundec]
  · obtain ⟨cause, hc⟩ := confirmFile_of_inaccessible hpath henc hinacc
    rw [confirmUpTo_succ hi, hmode, hc]
    exact ⟨cause, rfl⟩
  · obtain ⟨hdisk, hfail⟩ := rollbackFile_of_not_kept h
    rw [rollbackUpTo_succ hi]
    exact ⟨hdisk, fun hw => by obtain ⟨e, he⟩ := hfail hw; exact ⟨e, by rw [he]⟩⟩
  · rw [rollbackUpTo_succ hi, rollbackFile_of_changed hw hcur hne]
  · rw [rollbackUpTo_succ hi, rollbackFile_of_unreadable hw hcur]

def undecodableDisk : Disk := { entries := [(["a.py"], .file ⟨#[0xff]⟩ false)] }

/-- A pending session that would rewrite `a.py` from `x = 1`. -/
def rewriteSession : Session :=
  { files := [{ path := "a.py", original := "x = 1\n", fingerprint := fingerprint "x = 1\n",
                proposed := "y = 1\n", found := [], replacements := [] }],
    encoding := .utf8 }

/-- A file overwritten from outside with bytes that do not decode is not as planned, and a
confirm reports it failed as undecodable, not as a conflict. -/
theorem confirm_reports_undecodable_change :
    ¬ rewriteSession.files[0].Unchanged .utf8 undecodableDisk [] ∧
      (rewriteSession.confirm default undecodableDisk []).map (·.1.failed) =
        .ok [("a.py", .decode "a.py" "UTF-8")] := by
  refine ⟨?_, by decide +kernel⟩
  rintro ⟨bytes, text, hbytes, hdec, -⟩
  have hread : undecodableDisk.contents [] "a.py" = .ok ⟨#[0xff]⟩ := by decide +kernel
  rw [show rewriteSession.files[0].path = "a.py" from rfl, hread] at hbytes
  cases hbytes
  have hfail : Encoding.utf8.decode ⟨#[0xff]⟩ = .error (.decode .utf8) := by decide +kernel
  rw [hfail] at hdec
  cases hdec

end Session

end Arbor.Edit
