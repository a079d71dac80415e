import Arbor.Proofs.Edit.FileByFile
/-!
The life of an edit session.
-/

namespace Arbor.Edit

open Arbor.Disk

/-- What can happen to a session and its files. -/
inductive Event where
  | outside (d : Disk)
  | confirm
  | rollback (force : Bool)

/-- A session with the tree it keeps up to date and the disk it works on. -/
structure World where
  session : Session
  tree : Tree
  disk : Disk

/-- What a confirm's snapshot says of its target on the disk before the write: the bytes the
target held, or that nothing was there. -/
def HeldBefore (d : Disk) (cwd : List String) (target : String) : Option ByteArray → Prop
  | some bytes => d.contents cwd target = .ok bytes
  | none => d.exists? cwd target = false

theorem heldBefore_of_write {d d' : Disk} {cwd : List String} {f g : FilePlan} {enc : Encoding}
    {mode : WriteMode} {target : String} {snapshot : Option ByteArray} {written : UInt64}
    (h : f.write enc mode d cwd = .ok (g, d')) (hg : g.status = .written target snapshot written) :
    HeldBefore d cwd target snapshot := by
  obtain ⟨bytes, target', snapshot', -, -, rfl, hmode⟩ := write_eq_ok h
  obtain ⟨rfl, rfl, -⟩ : target' = target ∧ snapshot' = snapshot ∧ _ := by simpa using hg
  rcases hmode with ⟨-, rfl, current, rfl, hcur⟩ | ⟨-, rfl, rfl⟩
  · -- the bytes kept are those read
    have hstat := readUnchanged_eq_ok hcur
    simp [HeldBefore, Disk.contents, hstat]
  · exact exists?_copyTarget f.path

namespace Session

variable {s : Session} {d : Disk} {cwd : List String} {i : Nat}

theorem length_confirmUpTo (hi : i ≤ s.files.length) : (s.confirmUpTo d cwd i).1.length = i := by
  obtain ⟨hfiles, -⟩ := confirmUpTo_spec s d cwd hi
  rw [← hfiles.length_eq, List.length_take, Nat.min_eq_left hi]

theorem heldBefore_of_confirmUpTo {g : FilePlan} {target : String} {snapshot : Option ByteArray}
    {written : UInt64} (hg : (s.confirmUpTo d cwd s.files.length).1[i]? = some g)
    (hw : g.status = .written target snapshot written) :
    HeldBefore (s.confirmUpTo d cwd i).2.2 cwd target snapshot := by
  have hi : i < s.files.length := by
    have hlt := (List.getElem?_eq_some_iff.mp hg).1
    rwa [length_confirmUpTo (Nat.le_refl _)] at hlt
  -- the file is the one turn `i` added, which the later turns keep
  have hprefix : (s.confirmUpTo d cwd (i + 1)).1 <+: (s.confirmUpTo d cwd s.files.length).1 :=
    confirmUpTo_fst_prefix hi (Nat.le_refl _)
  have hlen : (s.confirmUpTo d cwd i).1.length = i := length_confirmUpTo (Nat.le_of_lt hi)
  have hturn : (s.confirmUpTo d cwd (i + 1)).1[i]? = some g := by
    rw [List.prefix_iff_eq_take.mp hprefix, length_confirmUpTo hi,
      List.getElem?_take_of_lt (Nat.lt_succ_self i), hg]
  rw [confirmUpTo_succ hi] at hturn
  cases hwrite : s.files[i].write s.encoding s.mode (s.confirmUpTo d cwd i).2.2 cwd with
  | ok res =>
    rw [confirmFile_of_ok hwrite, List.getElem?_append_right (Nat.le_of_eq hlen), hlen,
      Nat.sub_self] at hturn
    cases hturn
    exact heldBefore_of_write hwrite hw
  | error e =>
    rw [confirmFile_of_error hwrite, List.getElem?_append_right (Nat.le_of_eq hlen), hlen,
      Nat.sub_self] at hturn
    cases hturn
    cases hw

theorem rollbackUpTo_of_none_written (force : Bool) (d : Disk) (cwd : List String)
    (hnone : ∀ f ∈ s.files, f.status.isWritten = false) :
    ∀ {i : Nat}, i ≤ s.files.length →
      (s.rollbackUpTo force d cwd i).1 = s.files.take i ∧ (s.rollbackUpTo force d cwd i).2.2 = d
  | 0, _ => ⟨rfl, rfl⟩
  | i + 1, hi => by
    obtain ⟨hfiles, hdisk⟩ := rollbackUpTo_of_none_written force d cwd hnone (Nat.le_of_succ_le hi)
    have htake : s.files.take (i + 1) = s.files.take i ++ [s.files[i]] := by
      rw [List.take_add_one, List.getElem?_eq_getElem hi, Option.toList_some]
    have hw := hnone s.files[i] (List.getElem_mem hi)
    rw [rollbackUpTo_succ hi, htake]
    cases hs : s.files[i].status with
    | planned => rw [rollbackFile_of_unwritten (.inl hs), hfiles]; exact ⟨rfl, hdisk⟩
    | failed => rw [rollbackFile_of_unwritten (.inr hs), hfiles]; exact ⟨rfl, hdisk⟩
    | restored => rw [rollbackFile_of_restored hs, hfiles]; exact ⟨rfl, hdisk⟩
    | written target snapshot written => simp [hs, FileStatus.isWritten] at hw

end Session

namespace World

variable {cwd : List String} {w : World} {force : Bool}

/-- One event: the world after it, and what a call answered. A refused call leaves the world as it
was. -/
def step (cwd : List String) (w : World) : Event → World × Option (Except EditError Report)
  | .outside d => ({ w with disk := d }, none)
  | .confirm =>
    match w.session.confirm w.tree w.disk cwd with
    | .ok (r, s, t, d) => (⟨s, t, d⟩, some (.ok r))
    | .error e => (w, some (.error e))
  | .rollback force =>
    match w.session.rollback force w.tree w.disk cwd with
    | .ok (r, s, t, d) => (⟨s, t, d⟩, some (.ok r))
    | .error e => (w, some (.error e))

/-- The world event `k` of a run finds: the world after the events before it. -/
def before (cwd : List String) (w : World) (evs : List Event) (k : Nat) : World :=
  (evs.take k).foldl (fun w e => (w.step cwd e).1) w

/-- What event `k` of a run answered, if it is a call. -/
def answer (cwd : List String) (w : World) (evs : List Event) (k : Nat) :
    Option (Except EditError Report) :=
  match evs[k]? with
  | some e => ((w.before cwd evs k).step cwd e).2
  | none => none

/-- Event `k` of a run is a confirm that was taken. -/
def ConfirmedAt (cwd : List String) (w : World) (evs : List Event) (k : Nat) : Prop :=
  evs[k]? = some .confirm ∧ ∃ r, w.answer cwd evs k = some (.ok r)

/-- A session waiting for its confirm: pending, with every file planned. -/
def Waiting (w : World) : Prop :=
  w.session.phase = .pending ∧ ∀ f ∈ w.session.files, f.status = .planned

/-- A session past its confirm: no longer pending, with no file planned. -/
def Settled (w : World) : Prop :=
  w.session.phase ≠ .pending ∧ ∀ f ∈ w.session.files, f.status ≠ .planned

/-- A session with nothing left to put back: past its confirm, with no file written. -/
def Quiet (w : World) : Prop :=
  w.session.phase ≠ .pending ∧ ∀ f ∈ w.session.files, f.status.isWritten = false

/-! ### One event -/

theorem before_zero {evs : List Event} : w.before cwd evs 0 = w := rfl

theorem before_succ {evs : List Event} {k : Nat} (hk : k < evs.length) :
    w.before cwd evs (k + 1) = ((w.before cwd evs k).step cwd evs[k]).1 :=
  foldl_take_succ _ _ _ hk

theorem answer_eq {evs : List Event} {k : Nat} (hk : k < evs.length) :
    w.answer cwd evs k = ((w.before cwd evs k).step cwd evs[k]).2 := by
  simp [answer, List.getElem?_eq_getElem hk]

theorem answer_eq_none {evs : List Event} {k : Nat} (hk : evs.length ≤ k) :
    w.answer cwd evs k = none := by
  simp [answer, List.getElem?_eq_none hk]

theorem step_outside (d : Disk) : w.step cwd (.outside d) = ({ w with disk := d }, none) := rfl

theorem step_confirm_of_pending (cwd : List String) (hp : w.session.phase = .pending) :
    ∃ r, (w.step cwd .confirm).2 = some (.ok r) ∧
      (w.step cwd .confirm).1.session.phase = .confirmed ∧
      List.Forall₂ Session.ConfirmedAs w.session.files (w.step cwd .confirm).1.session.files ∧
      (w.step cwd .confirm).1.session.files =
        (w.session.confirmUpTo w.disk cwd w.session.files.length).1 := by
  have hok : w.session.confirm w.tree w.disk cwd = _ := Session.confirm_eq_ok_iff.mpr ⟨hp, rfl⟩
  obtain ⟨hspec, -⟩ := Session.confirmUpTo_length_spec w.session w.disk cwd
  exact ⟨(w.session.confirmUpTo w.disk cwd w.session.files.length).2.1, by simp [step, hok],
    by simp [step, hok], by simpa [step, hok] using hspec, by simp [step, hok]⟩

theorem step_confirm_of_not_pending (hp : w.session.phase ≠ .pending) :
    w.step cwd .confirm = (w, some (.error (.invalidState w.session.phase .confirm))) := by
  simp [step, Session.confirm_of_not_pending hp]

theorem step_rollback_of_pending (hp : w.session.phase = .pending) :
    w.step cwd (.rollback force) = (w, some (.error (.invalidState .pending .rollBack))) := by
  simp [step, Session.rollback_of_pending hp]

theorem step_rollback_of_not_pending (cwd : List String) (force : Bool)
    (hp : w.session.phase ≠ .pending) :
    ∃ r, (w.step cwd (.rollback force)).2 = some (.ok r) ∧
      (w.step cwd (.rollback force)).1.session.phase = .rolledBack ∧
      (w.step cwd (.rollback force)).1.session.files =
        (w.session.rollbackUpTo force w.disk cwd w.session.files.length).1 ∧
      r = (w.session.rollbackUpTo force w.disk cwd w.session.files.length).2.1 ∧
      (w.step cwd (.rollback force)).1.disk =
        (w.session.rollbackUpTo force w.disk cwd w.session.files.length).2.2 := by
  have hok : w.session.rollback force w.tree w.disk cwd = _ :=
    Session.rollback_eq_ok_iff.mpr ⟨hp, rfl⟩
  exact ⟨(w.session.rollbackUpTo force w.disk cwd w.session.files.length).2.1, by simp [step, hok],
    by simp [step, hok], by simp [step, hok], rfl, by simp [step, hok]⟩

theorem step_of_error {ev : Event} {e : EditError} (h : (w.step cwd ev).2 = some (.error e)) :
    (∃ phase request, e = .invalidState phase request) ∧ (w.step cwd ev).1 = w := by
  cases ev with
  | outside d => cases h
  | confirm =>
    by_cases hp : w.session.phase = .pending
    · obtain ⟨r, hr, -⟩ := step_confirm_of_pending cwd hp
      rw [hr] at h
      cases h
    · rw [step_confirm_of_not_pending hp] at h ⊢
      cases h
      exact ⟨⟨_, _, rfl⟩, rfl⟩
  | rollback force =>
    by_cases hp : w.session.phase = .pending
    · rw [step_rollback_of_pending hp] at h ⊢
      cases h
      exact ⟨⟨_, _, rfl⟩, rfl⟩
    · obtain ⟨r, hr, -⟩ := step_rollback_of_not_pending cwd force hp
      rw [hr] at h
      cases h

theorem confirmedAt_iff {evs : List Event} {k : Nat} (hk : k < evs.length) :
    w.ConfirmedAt cwd evs k ↔ evs[k] = .confirm ∧
      ∃ r, ((w.before cwd evs k).step cwd evs[k]).2 = some (.ok r) := by
  simp [ConfirmedAt, answer_eq hk, List.getElem?_eq_getElem hk]

theorem not_planned_of_confirmedAs {fs gs : List FilePlan} (h : List.Forall₂ Session.ConfirmedAs fs gs) :
    ∀ g ∈ gs, g.status ≠ .planned := by
  induction h with
  | nil => simp
  | @cons f g fs gs hfg _ ih =>
    intro g' hg'
    rcases List.mem_cons.mp hg' with rfl | hg'
    · unfold Session.ConfirmedAs at hfg
      rcases hfg with ⟨target, snapshot, written, rfl⟩ | rfl <;> simp
    · exact ih g' hg'

theorem not_planned_of_rolledBackAs {fs gs : List FilePlan} (h : List.Forall₂ Session.RolledBackAs fs gs)
    (hfs : ∀ f ∈ fs, f.status ≠ .planned) : ∀ g ∈ gs, g.status ≠ .planned := by
  induction h with
  | nil => simp
  | @cons f g fs gs hfg _ ih =>
    intro g' hg'
    rcases List.mem_cons.mp hg' with rfl | hg'
    · unfold Session.RolledBackAs at hfg
      rcases hfg with rfl | ⟨-, rfl⟩
      · exact hfs _ (by simp)
      · simp
    · exact ih (fun f hf => hfs f (by simp [hf])) g' hg'

theorem step_waiting_or_settled (cwd : List String) (ev : Event) (hw : w.Waiting ∨ w.Settled) :
    (w.Waiting ∧ Waiting (w.step cwd ev).1 ∧ ¬ (ev = .confirm ∧ ∃ r, (w.step cwd ev).2 = some (.ok r))) ∨
      (Settled (w.step cwd ev).1 ∧ (w.Settled ∨ ev = .confirm ∧ ∃ r, (w.step cwd ev).2 = some (.ok r))) := by
  cases ev with
  | outside d =>
    rcases hw with hw | hw
    · exact .inl ⟨hw, hw, by simp⟩
    · exact .inr ⟨hw, .inl hw⟩
  | confirm =>
    rcases hw with hw | hw
    · -- a waiting session takes the confirm
      obtain ⟨r, hr, hphase, hfiles, -⟩ := step_confirm_of_pending cwd hw.1
      refine .inr ⟨⟨by simp [hphase], not_planned_of_confirmedAs hfiles⟩, .inr ⟨rfl, r, hr⟩⟩
    · rw [step_confirm_of_not_pending hw.1]
      exact .inr ⟨hw, .inl hw⟩
  | rollback force =>
    rcases hw with hw | hw
    · rw [step_rollback_of_pending hw.1]
      exact .inl ⟨hw, hw, by simp⟩
    · -- a settled session takes the rollback, which plans nothing
      obtain ⟨r, -, hphase, hfiles, -⟩ := step_rollback_of_not_pending cwd force hw.1
      obtain ⟨hspec, -⟩ := Session.rollbackUpTo_length_spec w.session force w.disk cwd
      rw [← hfiles] at hspec
      exact .inr ⟨⟨by simp [hphase], not_planned_of_rolledBackAs hspec hw.2⟩, .inl hw⟩

theorem step_of_quiet (cwd : List String) (hq : w.Quiet) (ev : Event) :
    Quiet (w.step cwd ev).1 ∧ (w.step cwd ev).1.session.files = w.session.files ∧
      ∀ force, ev = .rollback force → ∃ r, (w.step cwd ev).2 = some (.ok r) ∧
        r.successful = (w.session.files.filter (·.status.isRestored)).map (·.path) ∧
        (w.step cwd ev).1.disk = w.disk := by
  cases ev with
  | outside d => exact ⟨hq, rfl, fun _ h => by cases h⟩
  | confirm =>
    rw [step_confirm_of_not_pending hq.1]
    exact ⟨hq, rfl, fun _ h => by cases h⟩
  | rollback force =>
    obtain ⟨r, hr, hphase, hfiles, rfl, hdisk⟩ := step_rollback_of_not_pending cwd force hq.1
    -- with nothing written, the rollback's turns leave every file and the disk
    obtain ⟨hsame, hsame_disk⟩ := Session.rollbackUpTo_of_none_written force w.disk cwd hq.2
      (Nat.le_refl w.session.files.length)
    rw [List.take_length] at hsame
    obtain ⟨-, hsucc, -⟩ := Session.rollbackUpTo_length_spec w.session force w.disk cwd
    refine ⟨⟨by simp [hphase], by rw [hfiles, hsame]; exact hq.2⟩, by rw [hfiles, hsame],
      fun force' h => ?_⟩
    cases h
    exact ⟨_, hr, by rw [hsucc, hsame], by rw [hdisk, hsame_disk]⟩

theorem quiet_of_clean {r : Report} (hr : (w.step cwd (.rollback force)).2 = some (.ok r))
    (hclean : r.isClean = true) : Quiet (w.step cwd (.rollback force)).1 := by
  have hp : w.session.phase ≠ .pending := by
    intro hp
    rw [step_rollback_of_pending hp] at hr
    cases hr
  obtain ⟨r', hr', hphase, hfiles, rfl, -⟩ := step_rollback_of_not_pending cwd force hp
  rw [hr'] at hr
  cases hr
  obtain ⟨-, -, hfail⟩ := Session.rollbackUpTo_length_spec w.session force w.disk cwd
  have hempty : (w.session.rollbackUpTo force w.disk cwd w.session.files.length).2.1.failed = [] := by
    simpa [Report.isClean] using hclean
  rw [hempty, List.map_nil, eq_comm, List.map_eq_nil_iff, List.filter_eq_nil_iff] at hfail
  refine ⟨by simp [hphase], fun f hf => ?_⟩
  rw [hfiles] at hf
  simpa using hfail f hf

/-! ### Every run -/

theorem before_waiting_or_settled (cwd : List String) (hw : w.Waiting) (evs : List Event) :
    ∀ k ≤ evs.length,
      (Waiting (w.before cwd evs k) ∧ ∀ j < k, ¬ w.ConfirmedAt cwd evs j) ∨
      (Settled (w.before cwd evs k) ∧ ∃ j < k, w.ConfirmedAt cwd evs j)
  | 0, _ => .inl ⟨hw, fun j hj => absurd hj (Nat.not_lt_zero j)⟩
  | k + 1, hk => by
    have hk' : k < evs.length := hk
    have ih := before_waiting_or_settled cwd hw evs k (Nat.le_of_lt hk')
    rw [before_succ hk']
    have hstep := step_waiting_or_settled cwd evs[k]
      (ih.imp (fun h => h.1) (fun h => h.1))
    rw [← confirmedAt_iff hk'] at hstep
    rcases hstep with ⟨hwait, hwait', hnot⟩ | ⟨hset', hcase⟩
    · -- still waiting: no confirm before, and event `k` is none
      rcases ih with ⟨-, hbefore⟩ | ⟨hset, -⟩
      · refine .inl ⟨hwait', fun j hj => ?_⟩
        rcases Nat.lt_succ_iff_lt_or_eq.mp hj with hj | rfl
        · exact hbefore j hj
        · exact hnot
      · exact absurd hwait.1 hset.1
    · refine .inr ⟨hset', ?_⟩
      rcases hcase with hset | hconf
      · rcases ih with ⟨hwait, -⟩ | ⟨-, j, hj, hconf⟩
        · exact absurd hwait.1 hset.1
        · exact ⟨j, Nat.lt_succ_of_lt hj, hconf⟩
      · exact ⟨k, Nat.lt_succ_self k, hconf⟩

theorem before_quiet {evs : List Event} {j : Nat} (hq : Quiet (w.before cwd evs j)) :
    ∀ m, j ≤ m → m ≤ evs.length →
      Quiet (w.before cwd evs m) ∧ (w.before cwd evs m).session.files = (w.before cwd evs j).session.files
  | 0, hj, _ => by
    obtain rfl : j = 0 := Nat.le_zero.mp hj
    exact ⟨hq, rfl⟩
  | m + 1, hj, hm => by
    rcases Nat.lt_or_eq_of_le hj with hlt | rfl
    · obtain ⟨hqm, hfiles⟩ := before_quiet hq m (Nat.le_of_lt_succ hlt) (Nat.le_of_succ_le hm)
      obtain ⟨hq', hfiles', -⟩ := step_of_quiet cwd hqm evs[m]
      rw [before_succ hm]
      exact ⟨hq', hfiles'.trans hfiles⟩
    · exact ⟨hq, rfl⟩

theorem pending_of_confirmedAt {evs : List Event} {k : Nat} (h : w.ConfirmedAt cwd evs k) :
    (w.before cwd evs k).session.phase = .pending := by
  have hk : k < evs.length := by
    by_contra hk
    simp [ConfirmedAt, List.getElem?_eq_none (Nat.le_of_not_lt hk)] at h
  obtain ⟨hev, r, hr⟩ := (confirmedAt_iff hk).mp h
  by_contra hp
  rw [hev, step_confirm_of_not_pending hp] at hr
  cases hr

theorem not_confirmedAt_of_confirmedAt (hw : w.Waiting) {evs : List Event} {k : Nat}
    (h : w.ConfirmedAt cwd evs k) : ∀ j < k, ¬ w.ConfirmedAt cwd evs j := by
  have hk : k < evs.length := by
    by_contra hk
    simp [ConfirmedAt, List.getElem?_eq_none (Nat.le_of_not_lt hk)] at h
  rcases before_waiting_or_settled cwd hw evs k (Nat.le_of_lt hk) with ⟨-, hnone⟩ | ⟨hset, -⟩
  · exact hnone
  · exact absurd (pending_of_confirmedAt h) hset.1

theorem rollback_refused_iff (hw : w.Waiting) {evs : List Event} {k : Nat} {force : Bool}
    (hev : evs[k]? = some (.rollback force)) :
    (∃ e, w.answer cwd evs k = some (.error e)) ↔ ∀ j < k, ¬ w.ConfirmedAt cwd evs j := by
  obtain ⟨hk, hev'⟩ := List.getElem?_eq_some_iff.mp hev
  rw [answer_eq hk, hev']
  rcases before_waiting_or_settled cwd hw evs k (Nat.le_of_lt hk) with ⟨hwait, hnone⟩ | ⟨hset, hsome⟩
  · rw [step_rollback_of_pending hwait.1]
    exact ⟨fun _ => hnone, fun _ => ⟨_, rfl⟩⟩
  · obtain ⟨r, hr, -⟩ := step_rollback_of_not_pending cwd force hset.1
    rw [hr]
    obtain ⟨j, hj, hconf⟩ := hsome
    constructor
    · rintro ⟨e, he⟩
      cases he
    · intro hnone
      exact absurd hconf (hnone j hj)

theorem answer_eq_error {evs : List Event} {k : Nat} {e : EditError}
    (h : w.answer cwd evs k = some (.error e)) :
    (∃ phase request, e = .invalidState phase request) ∧ w.before cwd evs (k + 1) = w.before cwd evs k := by
  have hk : k < evs.length := by
    by_contra hk
    rw [answer_eq_none (Nat.le_of_not_lt hk)] at h
    cases h
  rw [answer_eq hk] at h
  obtain ⟨hphase, hsame⟩ := step_of_error h
  exact ⟨hphase, by rw [before_succ hk, hsame]⟩

theorem heldBefore_of_confirmedAt {evs : List Event} {k i : Nat} (h : w.ConfirmedAt cwd evs k)
    {g : FilePlan} {target : String} {snapshot : Option ByteArray} {written : UInt64}
    (hg : (w.before cwd evs (k + 1)).session.files[i]? = some g)
    (hs : g.status = .written target snapshot written) :
    HeldBefore ((w.before cwd evs k).session.confirmUpTo (w.before cwd evs k).disk cwd i).2.2
      cwd target snapshot := by
  have hk : k < evs.length := by
    by_contra hk
    simp [ConfirmedAt, List.getElem?_eq_none (Nat.le_of_not_lt hk)] at h
  obtain ⟨hev, -⟩ := (confirmedAt_iff hk).mp h
  obtain ⟨-, -, -, -, hfiles⟩ := step_confirm_of_pending cwd (pending_of_confirmedAt h)
  rw [before_succ hk, hev, hfiles] at hg
  exact Session.heldBefore_of_confirmUpTo hg hs

theorem rollback_after_clean {evs : List Event} {j k : Nat} {force force' : Bool} {r : Report}
    (hjk : j < k) (hj : evs[j]? = some (.rollback force)) (hr : w.answer cwd evs j = some (.ok r))
    (hclean : r.isClean = true) (hk : evs[k]? = some (.rollback force')) :
    ∃ r', w.answer cwd evs k = some (.ok r') ∧ r'.successful = r.successful ∧
      (w.before cwd evs (k + 1)).disk = (w.before cwd evs k).disk := by
  obtain ⟨hj', hevj⟩ := List.getElem?_eq_some_iff.mp hj
  obtain ⟨hk', hevk⟩ := List.getElem?_eq_some_iff.mp hk
  rw [answer_eq hj', hevj] at hr
  -- the clean rollback reported the files it left put back
  have hp : (w.before cwd evs j).session.phase ≠ .pending := by
    intro hp
    rw [step_rollback_of_pending hp] at hr
    cases hr
  obtain ⟨r₀, hr₀, -, hfiles, rfl, -⟩ := step_rollback_of_not_pending cwd force hp
  rw [hr₀] at hr
  cases hr
  obtain ⟨-, hsucc, -⟩ := Session.rollbackUpTo_length_spec (w.before cwd evs j).session force
    (w.before cwd evs j).disk cwd
  have hq : Quiet (w.before cwd evs (j + 1)) := by
    rw [before_succ hj', hevj]
    exact quiet_of_clean hr₀ hclean
  have hfiles' : (w.before cwd evs (j + 1)).session.files =
      ((w.before cwd evs j).session.rollbackUpTo force (w.before cwd evs j).disk cwd
        (w.before cwd evs j).session.files.length).1 := by
    rw [before_succ hj', hevj, hfiles]
  -- from then on nothing is left to put back, and the files stay
  obtain ⟨hqk, hsame⟩ := before_quiet hq k hjk (Nat.le_of_lt hk')
  obtain ⟨-, -, hroll⟩ := step_of_quiet cwd hqk evs[k]
  obtain ⟨r', hr', hsucc', hdisk⟩ := hroll force' hevk
  refine ⟨r', by rw [answer_eq hk', hr'], ?_, by rw [before_succ hk', hdisk]⟩
  rw [hsucc', hsame, hfiles', hsucc]

/-- Over every run of confirms, rollbacks and outside changes, a confirm is taken once and only
while pending, a rollback only after it, and a refused call changes nothing. -/
theorem lifecycle (cwd : List String) (w : World) (hw : w.Waiting) (evs : List Event) :
    (∀ j k, w.ConfirmedAt cwd evs j → w.ConfirmedAt cwd evs k → j = k) ∧
    (∀ k, w.ConfirmedAt cwd evs k → (w.before cwd evs k).session.phase = .pending) ∧
    (∀ k force, evs[k]? = some (.rollback force) →
      ((∃ e, w.answer cwd evs k = some (.error e)) ↔ ∀ j < k, ¬ w.ConfirmedAt cwd evs j)) ∧
    (∀ k e, w.answer cwd evs k = some (.error e) →
      (∃ phase request, e = .invalidState phase request) ∧
        w.before cwd evs (k + 1) = w.before cwd evs k) ∧
    (∀ k ≤ evs.length, (∃ j < k, w.ConfirmedAt cwd evs j) →
      ∀ f ∈ (w.before cwd evs k).session.files, f.status ≠ .planned) ∧
    (∀ k, w.ConfirmedAt cwd evs k → ∀ i g target snapshot written,
      (w.before cwd evs (k + 1)).session.files[i]? = some g →
      g.status = .written target snapshot written →
      HeldBefore ((w.before cwd evs k).session.confirmUpTo (w.before cwd evs k).disk cwd i).2.2
        cwd target snapshot) ∧
    (∀ k force, evs[k]? = some (.rollback force) →
      ∀ i (hi : i < (w.before cwd evs k).session.files.length),
      (w.before cwd evs k).session.files[i].status = .failed →
      (w.before cwd evs k).session.rollbackUpTo force (w.before cwd evs k).disk cwd (i + 1) =
        (((w.before cwd evs k).session.rollbackUpTo force (w.before cwd evs k).disk cwd i).1 ++
            [(w.before cwd evs k).session.files[i]],
          ((w.before cwd evs k).session.rollbackUpTo force (w.before cwd evs k).disk cwd i).2.1,
          ((w.before cwd evs k).session.rollbackUpTo force (w.before cwd evs k).disk cwd i).2.2)) ∧
    (∀ k force, evs[k]? = some (.rollback force) →
      ∀ i (hi : i < (w.before cwd evs k).session.files.length),
      (w.before cwd evs k).session.files[i].status = .restored →
      (w.before cwd evs k).session.rollbackUpTo force (w.before cwd evs k).disk cwd (i + 1) =
        (((w.before cwd evs k).session.rollbackUpTo force (w.before cwd evs k).disk cwd i).1 ++
            [(w.before cwd evs k).session.files[i]],
          { ((w.before cwd evs k).session.rollbackUpTo force (w.before cwd evs k).disk cwd i).2.1 with
            successful :=
              ((w.before cwd evs k).session.rollbackUpTo force (w.before cwd evs k).disk cwd i).2.1.successful ++
                [(w.before cwd evs k).session.files[i].path] },
          ((w.before cwd evs k).session.rollbackUpTo force (w.before cwd evs k).disk cwd i).2.2)) ∧
    (∀ j k force force' r, j < k → evs[j]? = some (.rollback force) →
      w.answer cwd evs j = some (.ok r) → r.isClean = true → evs[k]? = some (.rollback force') →
      ∃ r', w.answer cwd evs k = some (.ok r') ∧ r'.successful = r.successful ∧
        (w.before cwd evs (k + 1)).disk = (w.before cwd evs k).disk) := by
  refine ⟨fun j k hj hk => ?_, fun k h => pending_of_confirmedAt h,
    fun k force hev => rollback_refused_iff hw hev, fun k e h => answer_eq_error h,
    fun k hk hconf => ?_, fun k h i g target snapshot written hg hs => heldBefore_of_confirmedAt h hg hs,
    fun k force _ i hi hs => ?_, fun k force _ i hi hs => ?_,
    fun j k force force' r hjk hj hr hclean hk => rollback_after_clean hjk hj hr hclean hk⟩
  · -- two taken confirms are one
    rcases Nat.lt_trichotomy j k with hlt | heq | hgt
    · exact absurd hj (not_confirmedAt_of_confirmedAt hw hk j hlt)
    · exact heq
    · exact absurd hk (not_confirmedAt_of_confirmedAt hw hj k hgt)
  · -- after a taken confirm the world is settled
    rcases before_waiting_or_settled cwd hw evs k hk with ⟨-, hnone⟩ | ⟨hset, -⟩
    · obtain ⟨j, hj, hc⟩ := hconf
      exact absurd hc (hnone j hj)
    · exact hset.2
  · rw [Session.rollbackUpTo_succ hi, Session.rollbackFile_of_unwritten (.inr hs)]
  · rw [Session.rollbackUpTo_succ hi, Session.rollbackFile_of_restored hs]

/-- A world waiting to rewrite `a.py` from `x = 1`, which the disk holds. -/
def rewriteWorld : World where
  session :=
    { files := [{ path := "a.py", original := "x = 1\n", fingerprint := fingerprint "x = 1\n",
                  proposed := "y = 1\n", found := [], replacements := [] }],
      encoding := .utf8 }
  tree := default
  disk := { entries := [(["a.py"], .file "x = 1\n".toUTF8 false)] }

/-- Confirmed, rolled back and rolled back again by force, the world takes its confirm at most
once. -/
theorem rewriteWorld_confirms_once : rewriteWorld.Waiting ∧
    ∀ j k, rewriteWorld.ConfirmedAt [] [.confirm, .rollback false, .rollback true] j →
      rewriteWorld.ConfirmedAt [] [.confirm, .rollback false, .rollback true] k → j = k :=
  have hw : rewriteWorld.Waiting := ⟨rfl, by simp [rewriteWorld]⟩
  ⟨hw, (lifecycle [] rewriteWorld hw [.confirm, .rollback false, .rollback true]).1⟩

end World

end Arbor.Edit
