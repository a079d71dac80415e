import Arbor.Proofs.Edit.Copy
/-!
Writing one planned file and putting it back.
-/

namespace Arbor.Disk

/-- The disk with place `T` holding the kept bytes as a writable file, or nothing. -/
def putBack (d : Disk) (T : List String) : Option ByteArray → Disk
  | some bytes => d.put T (.file bytes false)
  | none => d.erase T

end Arbor.Disk

namespace Arbor.Edit

open Arbor.Disk

variable {d d' : Disk} {cwd : List String}

theorem readUnchanged_eq_ok {f : FilePlan} {enc : Encoding} {current : ByteArray}
    (h : f.readUnchanged enc d cwd = .ok current) :
    d.stat cwd f.path = .ok (.file current false) := by
  unfold FilePlan.readUnchanged at h
  split at h
  · cases h
  · cases h
  · rename_i e hnotro hstat
    split at h
    · cases h
    · rename_i bytes hcontents
      -- the bytes read are the bytes returned, whatever the decoding and fingerprint checks
      have hcur : bytes = current := by
        split at h
        · cases h
        · split at h
          · cases h
            rfl
          · cases h
      subst hcur
      unfold Disk.contents at hcontents
      rw [hstat] at hcontents
      cases e with
      | file b ro =>
        cases hcontents
        cases ro with
        | false => exact hstat
        | true => exact (hnotro _ rfl).elim
      | _ => cases hcontents

/-- A write that succeeds encoded the proposed text and replaced its target: an overwrite its
own path, after reading it unchanged, and a copy the first free path beside it. -/
theorem write_eq_ok {f f' : FilePlan} {enc : Encoding} {mode : WriteMode}
    (h : f.write enc mode d cwd = .ok (f', d')) :
    ∃ bytes target snapshot, enc.encode f.proposed = .ok bytes ∧
      d.replaceFile cwd target bytes = .ok d' ∧
      f' = { f with status := .written target snapshot (fingerprintBytes bytes) } ∧
      ((mode = .overwrite ∧ target = f.path ∧
          ∃ current, snapshot = some current ∧ f.readUnchanged enc d cwd = .ok current) ∨
        (mode = .copy ∧ target = copyTarget d cwd f.path ∧ snapshot = none)) := by
  unfold FilePlan.write at h
  simp only [bind, Except.bind, pure, Except.pure] at h
  -- each stage that fails throws: an empty path, a text that does not encode, a file changed
  -- since it was read, and a replacement the disk refuses
  split at h
  · simp [throw, throwThe, MonadExceptOf.throw] at h
  · split at h
    · rename_i bytes hbytes
      cases mode with
      | overwrite =>
        simp only at h
        split at h
        · cases h
        · rename_i current hcur
          split at h
          · rename_i d'' hrep
            cases h
            exact ⟨bytes, f.path, some current, hbytes, hrep, rfl,
              .inl ⟨rfl, rfl, current, rfl, hcur⟩⟩
          · simp [throw, throwThe, MonadExceptOf.throw] at h
      | copy =>
        simp only at h
        split at h
        · rename_i d'' hrep
          cases h
          exact ⟨bytes, _, none, hbytes, hrep, rfl, .inr ⟨rfl, rfl, rfl⟩⟩
        · simp [throw, throwThe, MonadExceptOf.throw] at h
    · simp [throw, throwThe, MonadExceptOf.throw] at h

/-- What a rollback needs of a file written to `target`: the target's place held the snapshot or
nothing, and the place of the temporary file held nothing. -/
structure WrittenAt (d : Disk) (cwd : List String) (mode : WriteMode) (path target : String)
    (snapshot : Option ByteArray) (T F : List String) : Prop where
  place : d.placeOf cwd target = some T
  before : d.entry? T = snapshot.map fun s => .file s false
  above : d.isDirAt T.dropLast = true
  temp : ∃ dir, Path.parent? target = some dir ∧ d.placeOf cwd (tempBeside dir) = some F
  temp_empty : d.entry? F = none
  overwrite : mode = .overwrite → target = path ∧ snapshot.isSome
  copy : mode = .copy → snapshot = none

/-- A file written by a confirm: the written bytes encode the proposed text, the plan now records
the target, the snapshot and the written bytes' fingerprint, and the disk holds those bytes,
writable, at the place the target named. -/
theorem write_spec (hd : d.NoLinks) (hc : d.Closed) (hcwd : d.isDirAt cwd = true)
    {f f' : FilePlan} {enc : Encoding} {mode : WriteMode}
    (h : f.write enc mode d cwd = .ok (f', d')) :
    ∃ target snapshot bytes T F, enc.encode f.proposed = .ok bytes ∧
      f' = { f with status := .written target snapshot (fingerprintBytes bytes) } ∧
      d' = d.put T (.file bytes false) ∧ WrittenAt d cwd mode f.path target snapshot T F := by
  obtain ⟨bytes, target, snap, henc, hrep, rfl, hmode⟩ := write_eq_ok h
  obtain ⟨dir, hdir, ⟨a, n, hfresh⟩, t, hloc, -, rfl⟩ := replaceFile_eq_ok hrep
  -- the target leads to what the disk holds at its place, and so does the temporary file
  have hT := placeOf_of_locate hloc
  obtain ⟨ht, habove⟩ := locate_eq_targetAt hd hc hcwd hT false
  rw [hloc] at ht
  have hF := placeOf_of_locate hfresh
  obtain ⟨hf, -⟩ := locate_eq_targetAt hd hc hcwd hF false
  rw [hfresh] at hf
  have hFempty := targetAt_absent (Except.ok.inj hf).symm
  have hlast : d.locate cwd target true = .ok t := by rw [locate_true hd, hloc]
  rcases hmode with ⟨hmode, rfl, current, rfl, hcur⟩ | ⟨hmode, htarget, rfl⟩
  · -- an overwrite found a writable file at the target
    have hstat := readUnchanged_eq_ok hcur
    unfold Disk.stat at hstat
    split at hstat
    · rename_i P e hfound
      cases hstat
      rw [hlast] at hfound
      cases hfound
      obtain ⟨-, hentry⟩ := targetAt_found (Except.ok.inj ht).symm
      refine ⟨_, _, bytes, _, _, henc, rfl, by rw [isReadOnly_of_found hlast],
        ⟨hT, by simpa using hentry, habove, ⟨dir, hdir, hF⟩, hFempty, fun _ => ⟨rfl, rfl⟩,
          (fun h => by cases hmode; cases h)⟩⟩
    · cases hstat
    · cases hstat
  · -- a copy goes to a free path
    subst htarget
    have hfree : d.exists? cwd (copyTarget d cwd f.path) = false := exists?_copyTarget f.path
    cases t with
    | found P e =>
      simp [Disk.exists?, Disk.stat, hlast, Except.toBool] at hfree
    | absent a' n' =>
      have hentry := targetAt_absent (Except.ok.inj ht).symm
      refine ⟨_, _, bytes, _, _, henc, rfl, by rw [isReadOnly_of_absent hlast],
        ⟨hT, by simpa using hentry, habove, ⟨dir, hdir, hF⟩, hFempty,
          (fun h => by cases hmode; cases h), fun _ => rfl⟩⟩

/-- Putting back a written file whose place still holds the written bytes succeeds, forced or
not: the kept bytes go back, through a temporary file that must be absent, or the copy is
removed. -/
theorem restore_eq_ok (hd : d.NoLinks) (hc : d.Closed) (hcwd : d.isDirAt cwd = true)
    {f : FilePlan} {target : String} {snapshot : Option ByteArray} {bytes : ByteArray}
    {T : List String} (hf : f.status = .written target snapshot (fingerprintBytes bytes))
    (hT : d.placeOf cwd target = some T) (hheld : d.entry? T = some (.file bytes false))
    (htemp : snapshot.isSome →
      ∃ dir F, Path.parent? target = some dir ∧ d.placeOf cwd (tempBeside dir) = some F ∧
        d.entry? F = none)
    (force : Bool) :
    f.restore force d cwd = .ok ({ f with status := .restored }, d.putBack T snapshot) := by
  have hloc : d.locate cwd target false = .ok (.found T (.file bytes false)) := by
    rw [(locate_eq_targetAt hd hc hcwd hT false).1]
    simp [targetAt, hheld]
  have hlast : d.locate cwd target true = .ok (.found T (.file bytes false)) := by
    rw [locate_true hd, hloc]
  unfold FilePlan.restore
  rw [hf]
  dsimp only
  -- an unforced restore reads back the written bytes, so its check passes
  rw [contents_of_found hlast]
  cases snapshot with
  | some kept =>
    obtain ⟨dir, F, hdir, hF, hFempty⟩ := htemp rfl
    obtain ⟨hfresh, -⟩ := locate_eq_targetAt hd hc hcwd hF false
    have hfresh' : d.locate cwd (tempBeside dir) false =
        .ok (.absent F.dropLast (F.getLast?.getD "")) := by
      rw [hfresh]
      simp [targetAt, hFempty]
    dsimp only
    rw [replaceFile_of_found hdir hfresh' hloc (by simp [Entry.kind]),
      isReadOnly_of_found hlast]
    cases force <;> simp [bind, Except.bind, pure, Except.pure, putBack]
  | none =>
    dsimp only
    rw [removeFile_of_found hloc (by simp [Entry.kind])]
    cases force <;> simp [bind, Except.bind, pure, Except.pure, putBack]

end Arbor.Edit
