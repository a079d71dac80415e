import Arbor.Proofs.Edit.Conflict
/-!
A confirm undone by a rollback.
-/

namespace Arbor.Disk

/-- What a disk shows at a place once each place of `W` holds its bytes as a writable file. -/
def overlay (d : Disk) (W : List (List String × ByteArray)) (P : List String) : Option Entry :=
  match W.lookup P with
  | some bytes => some (.file bytes false)
  | none => d.entry? P

variable {d D : Disk} {W : List (List String × ByteArray)} {P T : List String} {b : ByteArray}

@[simp] theorem overlay_nil : d.overlay [] P = d.entry? P := rfl

theorem overlay_cons :
    d.overlay ((T, b) :: W) P = if P = T then some (.file b false) else d.overlay W P := by
  by_cases h : P = T
  · simp [overlay, h]
  · simp [overlay, List.lookup_cons, beq_eq_false_iff_ne.mpr h, h]

theorem overlay_of_not_mem (hP : P ∉ W.map (·.1)) : d.overlay W P = d.entry? P := by
  induction W with
  | nil => rfl
  | cons w W ih =>
    have hPw : P ≠ w.1 := fun h => hP (by simp [h])
    rw [overlay_cons, if_neg hPw]
    exact ih fun h => hP (List.mem_cons_of_mem _ h)

theorem overlay_of_mem (hP : P ∈ W.map (·.1)) : ∃ b, d.overlay W P = some (.file b false) := by
  induction W with
  | nil => cases hP
  | cons w W ih =>
    rw [overlay_cons]
    by_cases h : P = w.1
    · exact ⟨w.2, if_pos h⟩
    · rw [if_neg h]
      exact ih (by simpa [h] using hP)

theorem overlay_append (hT : T ∉ W.map (·.1)) :
    d.overlay (W ++ [(T, b)]) P = if P = T then some (.file b false) else d.overlay W P := by
  induction W with
  | nil => rw [List.nil_append, overlay_cons, overlay_nil]
  | cons w W ih =>
    have hTw : T ≠ w.1 := fun h => hT (by simp [h])
    rw [List.cons_append, overlay_cons, overlay_cons, ih fun h => hT (List.mem_cons_of_mem _ h)]
    by_cases hP : P = w.1
    · subst hP
      simp [Ne.symm hTw]
    · simp [hP]

/-- A disk seen from an earlier one: it shows the places of `W` holding their bytes and every
other place as the earlier disk did, with the same directories; it is closed and without links,
and `W` names each place once. -/
structure Overlaid (D d : Disk) (W : List (List String × ByteArray)) : Prop where
  entry : ∀ P, D.entry? P = d.overlay W P
  sameDirs : SameDirs D d
  noLinks : D.NoLinks
  closed : D.Closed
  nodup : (W.map (·.1)).Nodup

theorem Overlaid.refl (hd : d.NoLinks) (hc : d.Closed) : Overlaid d d [] :=
  ⟨fun _ => rfl, fun _ => rfl, hd, hc, .nil⟩

/-- A place where nothing is shows no written bytes. -/
theorem Overlaid.not_mem (ho : Overlaid D d W) (h : D.entry? P = none) : P ∉ W.map (·.1) := by
  intro hP
  obtain ⟨b, hb⟩ : ∃ b, d.overlay W P = some (.file b false) := overlay_of_mem hP
  rw [ho.entry, hb] at h
  cases h

/-- Writing bytes to a place that holds no directory and none of the written bytes yet, in a
directory, adds the place to those written. -/
theorem Overlaid.put (ho : Overlaid D d W) (hT : T ∉ W.map (·.1)) (hne : T ≠ [])
    (hdir : D.isDirAt T = false) (habove : D.isDirAt T.dropLast = true) :
    Overlaid (D.put T (.file b false)) d (W ++ [(T, b)]) where
  entry P := by rw [entry?_put _ hne, overlay_append hT, ho.entry]
  sameDirs Q := (sameDirs_put hne hdir (by simp [Entry.kind]) Q).symm.trans (ho.sameDirs Q)
  noLinks := ho.noLinks.put (by simp [Entry.kind])
  closed := ho.closed.put hne habove hdir
  nodup := by
    rw [List.map_append, List.nodup_append]
    exact ⟨ho.nodup, by simp, fun x hx y hy => by simp at hy; subst hy; exact fun h => hT (h ▸ hx)⟩

/-- Putting back the first written place, with what the earlier disk held there: a writable file
or nothing, in a directory. -/
theorem Overlaid.putBack (ho : Overlaid D d ((T, b) :: W)) {snapshot : Option ByteArray}
    (hT : d.entry? T = snapshot.map fun s => .file s false) (habove : d.isDirAt T.dropLast = true) :
    Overlaid (D.putBack T snapshot) d W := by
  have hheld : D.entry? T = some (.file b false) := by rw [ho.entry, overlay_cons, if_pos rfl]
  have hne : T ≠ [] := by
    rintro rfl
    cases hheld
  have hdir : D.isDirAt T = false := by simp [isDirAt, hheld]
  have habove' : D.isDirAt T.dropLast = true := by rw [ho.sameDirs]; exact habove
  obtain ⟨hTW, hnodup⟩ := List.nodup_cons.mp ho.nodup
  -- every other place shows the same on both sides
  have hother : ∀ P, P ≠ T → D.entry? P = d.overlay W P := fun P hP => by
    rw [ho.entry, overlay_cons, if_neg hP]
  cases snapshot with
  | some kept =>
    refine ⟨fun P => ?_, fun Q => ?_, ho.noLinks.put (by simp [Entry.kind]),
      ho.closed.put hne habove' hdir, hnodup⟩
    · rw [Disk.putBack, entry?_put _ hne]
      by_cases hP : P = T
      · subst hP
        rw [if_pos rfl, overlay_of_not_mem hTW, hT]
        rfl
      · rw [if_neg hP, hother P hP]
    · exact (sameDirs_put hne hdir (by simp [Entry.kind]) Q).symm.trans (ho.sameDirs Q)
  | none =>
    refine ⟨fun P => ?_, fun Q => ?_, ho.noLinks.erase T, ho.closed.erase hne, hnodup⟩
    · rw [Disk.putBack, entry?_erase hne]
      by_cases hTP : T <+: P
      · rw [if_pos hTP]
        by_cases hP : P = T
        · subst hP
          rw [overlay_of_not_mem hTW, hT]
          rfl
        · -- nothing lies under the file at `T`
          rw [← hother P hP]
          cases hQ : D.entry? P with
          | none => rfl
          | some e =>
            have := ho.closed.isDirAt_of_prefix hQ hTP (Ne.symm hP)
            rw [hdir] at this
            cases this
      · rw [if_neg hTP]
        exact hother P fun h => hTP (h ▸ List.prefix_refl T)
    · exact (sameDirs_erase ho.closed hne hdir Q).symm.trans (ho.sameDirs Q)

end Arbor.Disk

namespace Arbor.Edit

open Arbor.Disk

variable {d D : Disk} {cwd : List String} {enc : Encoding} {mode : WriteMode}
  {W : List (List String × ByteArray)} {path target : String} {snapshot : Option ByteArray}
  {T F : List String}

namespace WrittenAt

theorem ne_nil (hw : WrittenAt d cwd mode path target snapshot T F) : T ≠ [] := by
  rintro rfl
  have h := hw.before
  rw [entry?_nil] at h
  cases snapshot <;> cases h

theorem isDirAt_eq_false (hw : WrittenAt d cwd mode path target snapshot T F) :
    d.isDirAt T = false := by
  cases snapshot <;> simp [isDirAt, hw.before]

theorem entry?_ne_none (hw : WrittenAt d cwd .overwrite path target snapshot T F) :
    d.entry? T ≠ none := by
  obtain ⟨-, hsome⟩ := hw.overwrite rfl
  rw [hw.before]
  cases snapshot with
  | none => cases hsome
  | some kept => simp

theorem of_overlaid (hw : WrittenAt D cwd mode path target snapshot T F) (ho : Overlaid D d W)
    (hd : d.NoLinks) (hT : T ∉ W.map (·.1)) (hF : F ∉ W.map (·.1)) :
    WrittenAt d cwd mode path target snapshot T F where
  place := placeOf_sameDirs ho.noLinks hd ho.sameDirs hw.place
  before := by rw [← overlay_of_not_mem hT, ← ho.entry]; exact hw.before
  above := by rw [← ho.sameDirs]; exact hw.above
  temp := by
    obtain ⟨dir, hdir, hF'⟩ := hw.temp
    exact ⟨dir, hdir, placeOf_sameDirs ho.noLinks hd ho.sameDirs hF'⟩
  temp_empty := by rw [← overlay_of_not_mem hF, ← ho.entry]; exact hw.temp_empty
  overwrite := hw.overwrite
  copy := hw.copy

end WrittenAt

/-- A file a confirm wrote, seen from the disk before the confirm: `w` is a place with bytes that
encode the proposed text, and the plan records the target, what the target's place held there and
the fingerprint of those bytes. -/
def WrittenTo (d : Disk) (cwd : List String) (enc : Encoding) (mode : WriteMode) (g : FilePlan)
    (w : List String × ByteArray) : Prop :=
  ∃ target snapshot F, g.status = .written target snapshot (fingerprintBytes w.2) ∧
    enc.encode g.proposed = .ok w.2 ∧ WrittenAt d cwd mode g.path target snapshot w.1 F

theorem entry?_ne_none_of_writtenTo {gs : List FilePlan}
    (h : List.Forall₂ (WrittenTo d cwd enc .overwrite) gs W) : ∀ w ∈ W, d.entry? w.1 ≠ none := by
  induction h with
  | nil => simp
  | cons hgw _ ih =>
    intro w hw
    rcases List.mem_cons.mp hw with rfl | hw
    · obtain ⟨target, snapshot, F, -, -, hat⟩ := hgw
      exact hat.entry?_ne_none
    · exact ih w hw

namespace Session

/-- The turns of a confirm keep their disk the disk before the confirm with the written places
holding the written bytes. An overwrite writes its file's own place, which no file handled before
it names; a copy writes where nothing is. -/
theorem confirmFold_overlaid (enc : Encoding) (mode : WriteMode) (hd : d.NoLinks)
    (hcwd : d.isDirAt cwd = true) :
    ∀ (l : List FilePlan) (acc : List FilePlan × Report × Disk) (W : List (List String × ByteArray)),
    Overlaid acc.2.2 d W →
    List.Forall₂ (WrittenTo d cwd enc mode) (acc.1.filter (·.status.isWritten)) W →
    (mode = .overwrite →
      l.Pairwise fun f g => ∀ P ∈ d.placeOf cwd f.path, ∀ Q ∈ d.placeOf cwd g.path, P ≠ Q) →
    (mode = .overwrite → ∀ w ∈ W, ∀ f ∈ l, d.placeOf cwd f.path ≠ some w.1) →
    ∃ W', Overlaid (l.foldl (confirmFile enc mode cwd) acc).2.2 d W' ∧
      List.Forall₂ (WrittenTo d cwd enc mode)
        ((l.foldl (confirmFile enc mode cwd) acc).1.filter (·.status.isWritten)) W'
  | [], _, W, ho, hW, _, _ => ⟨W, ho, hW⟩
  | f :: l, acc, W, ho, hW, hpw, hfresh => by
    rw [List.foldl_cons]
    have hrest : mode = .overwrite →
        l.Pairwise fun f g => ∀ P ∈ d.placeOf cwd f.path, ∀ Q ∈ d.placeOf cwd g.path, P ≠ Q :=
      fun hm => (List.pairwise_cons.mp (hpw hm)).2
    cases hwr : f.write enc mode acc.2.2 cwd with
    | error e =>
      -- a failed turn leaves the disk and writes nothing
      rw [confirmFile_of_error hwr]
      refine confirmFold_overlaid enc mode hd hcwd l _ W ho ?_ hrest
        fun hm w hw g hg => hfresh hm w hw g (List.mem_cons_of_mem _ hg)
      simpa [FileStatus.isWritten] using hW
    | ok res =>
      obtain ⟨g, D'⟩ := res
      have hcwd' : acc.2.2.isDirAt cwd = true := by rw [ho.sameDirs]; exact hcwd
      obtain ⟨target, snapshot, bytes, T, F, henc, rfl, rfl, hat⟩ :=
        write_spec ho.noLinks ho.closed hcwd' hwr
      have hplace : d.placeOf cwd target = some T :=
        placeOf_sameDirs ho.noLinks hd ho.sameDirs hat.place
      -- the place written is not among those written before
      have hTW : T ∉ W.map (·.1) := by
        cases mode with
        | copy => exact ho.not_mem (by simpa [hat.copy rfl] using hat.before)
        | overwrite =>
          intro hT
          obtain ⟨w, hw, rfl⟩ := List.mem_map.mp hT
          obtain ⟨rfl, -⟩ := hat.overwrite rfl
          exact hfresh rfl w hw f List.mem_cons_self hplace
      have hat' := hat.of_overlaid ho hd hTW (ho.not_mem hat.temp_empty)
      rw [confirmFile_of_ok hwr]
      refine confirmFold_overlaid enc mode hd hcwd l _ (W ++ [(T, bytes)])
        (ho.put hTW hat.ne_nil hat.isDirAt_eq_false hat.above) ?_ hrest ?_
      · simpa [FileStatus.isWritten] using
          List.rel_append hW (.cons ⟨target, snapshot, F, rfl, henc, hat'⟩ .nil)
      · intro hm w hw g hg
        rcases List.mem_append.mp hw with hw | hw
        · exact hfresh hm w hw g (List.mem_cons_of_mem _ hg)
        · -- the new place is the file's own, which no later file names
          obtain rfl := List.mem_singleton.mp hw
          obtain ⟨rfl, -⟩ := hat.overwrite hm
          exact fun hg' => (List.pairwise_cons.mp (hpw hm)).1 g hg T hplace T hg' rfl

theorem rollbackFold_restores (force : Bool) (hd : d.NoLinks) (hcwd : d.isDirAt cwd = true) :
    ∀ (l : List FilePlan) (acc : List FilePlan × Report × Disk) (W : List (List String × ByteArray)),
    Overlaid acc.2.2 d W →
    List.Forall₂ (WrittenTo d cwd enc mode) (l.filter (·.status.isWritten)) W →
    (∀ g ∈ l, g.status.isWritten = true ∨ g.status = .failed) →
    (l.foldl (rollbackFile force cwd) acc).2.1 =
        { acc.2.1 with
          successful := acc.2.1.successful ++ (l.filter (·.status.isWritten)).map (·.path) } ∧
      Overlaid (l.foldl (rollbackFile force cwd) acc).2.2 d []
  | [], acc, W, ho, hW, _ => by
    obtain rfl := List.forall₂_nil_left_iff.mp hW
    exact ⟨by simp, ho⟩
  | g :: l, acc, W, ho, hW, hst => by
    rw [List.foldl_cons]
    have hst' : ∀ g ∈ l, g.status.isWritten = true ∨ g.status = .failed :=
      fun g' hg' => hst g' (List.mem_cons_of_mem _ hg')
    rcases hst g List.mem_cons_self with hwr | hfail
    · have hcons : (g :: l).filter (·.status.isWritten) = g :: l.filter (·.status.isWritten) :=
        List.filter_cons_of_pos hwr
      rw [hcons] at hW
      obtain ⟨w, W', hgw, hW', rfl⟩ := List.forall₂_cons_left_iff.mp hW
      obtain ⟨target, snapshot, F, hs, henc, hat⟩ := hgw
      have hheld : Disk.entry? acc.2.2 w.1 = some (.file w.2 false) := by
        rw [ho.entry, overlay_cons, if_pos rfl]
      -- an overwrite puts the kept bytes back through its temporary file, still absent
      have htemp : snapshot.isSome → ∃ dir F, Path.parent? target = some dir ∧
          acc.2.2.placeOf cwd (tempBeside dir) = some F ∧ Disk.entry? acc.2.2 F = none := by
        intro hsome
        cases mode with
        | copy => rw [hat.copy rfl] at hsome; cases hsome
        | overwrite =>
          obtain ⟨dir, hdir, hF⟩ := hat.temp
          have hFW : F ∉ (w :: W').map (·.1) := fun hF' => by
            obtain ⟨w', hw', hw'F⟩ := List.mem_map.mp hF'
            exact entry?_ne_none_of_writtenTo (.cons ⟨target, snapshot, F, hs, henc, hat⟩ hW') w' hw'
              (hw'F ▸ hat.temp_empty)
          refine ⟨dir, F, hdir, placeOf_sameDirs hd ho.noLinks (fun Q => (ho.sameDirs Q).symm) hF, ?_⟩
          rw [ho.entry, overlay_of_not_mem hFW, hat.temp_empty]
      have hcwd' : acc.2.2.isDirAt cwd = true := by rw [ho.sameDirs]; exact hcwd
      have hr := restore_eq_ok ho.noLinks ho.closed hcwd' hs
        (placeOf_sameDirs hd ho.noLinks (fun Q => (ho.sameDirs Q).symm) hat.place) hheld htemp force
      rw [rollbackFile_of_ok hs hr]
      obtain ⟨hrep, ho'⟩ := rollbackFold_restores force hd hcwd l
        (acc.1 ++ [{ g with status := .restored }],
          { acc.2.1 with successful := acc.2.1.successful ++ [g.path] },
          acc.2.2.putBack w.1 snapshot) W' (ho.putBack hat.before hat.above) hW' hst'
      refine ⟨?_, ho'⟩
      rw [hrep, hcons]
      simp
    · have hcons : (g :: l).filter (·.status.isWritten) = l.filter (·.status.isWritten) :=
        List.filter_cons_of_neg (by simp [hfail, FileStatus.isWritten])
      rw [hcons] at hW
      rw [rollbackFile_of_unwritten (.inr hfail)]
      obtain ⟨hrep, ho'⟩ := rollbackFold_restores force hd hcwd l (acc.1 ++ [g], acc.2.1, acc.2.2) W ho hW hst'
      exact ⟨by rw [hrep, hcons], ho'⟩

theorem written_or_failed_of_confirmedAs {fs gs : List FilePlan}
    (h : List.Forall₂ ConfirmedAs fs gs) : ∀ g ∈ gs, g.status.isWritten = true ∨ g.status = .failed := by
  induction h with
  | nil => simp
  | @cons f g fs gs hfg _ ih =>
    intro g' hg'
    rcases List.mem_cons.mp hg' with rfl | hg'
    · unfold ConfirmedAs at hfg
      rcases hfg with ⟨target, snapshot, written, rfl⟩ | rfl
      · exact .inl rfl
      · exact .inr rfl
    · exact ih g' hg'

/-- A confirm followed at once by a rollback gives the disk back as it was, and the rollback puts
back exactly the files the confirm wrote. -/
theorem rollback_confirm_restores (s : Session) (t : Tree) (force : Bool) (hd : d.NoLinks)
    (hc : d.Closed) (hcwd : d.isDirAt cwd = true) (hp : s.phase = .pending)
    (hplaces : s.mode = .overwrite → (s.files.filterMap fun f => d.placeOf cwd f.path).Nodup) :
    ∃ r s' t' d', s.confirm t d cwd = .ok (r, s', t', d') ∧
      ∃ r₂ s₂ t₂ d₂, s'.rollback force t' d' cwd = .ok (r₂, s₂, t₂, d₂) ∧
        (∀ P, d₂.entry? P = d.entry? P) ∧ r₂.isClean = true ∧ r₂.successful = r.successful := by
  -- the confirm's turns, from the disk before it
  have hconf : s.confirmUpTo d cwd s.files.length =
      s.files.foldl (confirmFile s.encoding s.mode cwd) ([], {}, d) := by
    rw [confirmUpTo, List.take_length]
  obtain ⟨W, ho, hW⟩ := confirmFold_overlaid s.encoding s.mode hd hcwd s.files ([], {}, d) []
    (Overlaid.refl hd hc) .nil (fun hm => List.pairwise_filterMap.mp (hplaces hm))
    (fun _ w hw => by cases hw)
  rw [← hconf] at ho hW
  obtain ⟨hfiles, hsucc, -⟩ := confirmUpTo_length_spec s d cwd
  refine ⟨_, _, _, _, confirm_eq_ok_iff.mpr ⟨hp, rfl⟩, ?_⟩
  -- the rollback's turns, from the disk the confirm left
  have hroll : ({ s with phase := .confirmed, files := (s.confirmUpTo d cwd s.files.length).1 } :
      Session).rollbackUpTo force (s.confirmUpTo d cwd s.files.length).2.2 cwd
        (s.confirmUpTo d cwd s.files.length).1.length =
      (s.confirmUpTo d cwd s.files.length).1.foldl (rollbackFile force cwd)
        ([], {}, (s.confirmUpTo d cwd s.files.length).2.2) := by
    rw [rollbackUpTo, List.take_length]
  obtain ⟨hrep, ho'⟩ := rollbackFold_restores force hd hcwd _ ([], {}, _) W ho hW
    (written_or_failed_of_confirmedAs hfiles)
  refine ⟨_, _, _, _, rollback_eq_ok_iff.mpr ⟨by simp, rfl⟩, ?_, ?_, ?_⟩
  · intro P
    rw [hroll, ho'.entry, overlay_nil]
  · simp [hroll, hrep, Report.isClean]
  · rw [hroll, hrep, hsucc]
    simp

def plannedDisk : Disk := { entries := [(["a.py"], .file "x = 1\n".toUTF8 false)] }

/-- Rewriting `a.py` and rolling it back gives the disk back. -/
theorem rewriteSession_round_trip : plannedDisk.NoLinks ∧ plannedDisk.Closed ∧
    plannedDisk.isDirAt [] = true ∧ rewriteSession.phase = .pending ∧
    (rewriteSession.mode = .overwrite →
      (rewriteSession.files.filterMap fun f => plannedDisk.placeOf [] f.path).Nodup) ∧
    ∃ r s' t' d', rewriteSession.confirm default plannedDisk [] = .ok (r, s', t', d') ∧
      ∃ r₂ s₂ t₂ d₂, s'.rollback false t' d' [] = .ok (r₂, s₂, t₂, d₂) ∧
        (∀ P, d₂.entry? P = plannedDisk.entry? P) ∧ r₂.isClean = true ∧
        r₂.successful = r.successful := by
  have hd : plannedDisk.NoLinks := by simp [NoLinks, plannedDisk, Entry.kind]
  have hc : plannedDisk.Closed := by
    intro x hx i hi
    obtain rfl : x = (["a.py"], .file "x = 1\n".toUTF8 false) := by simpa [plannedDisk] using hx
    obtain rfl : i = 0 := by simpa using hi
    rfl
  have hplaces : rewriteSession.mode = .overwrite →
      (rewriteSession.files.filterMap fun f => plannedDisk.placeOf [] f.path).Nodup := by
    intro _
    cases h : plannedDisk.placeOf [] "a.py" <;> simp [rewriteSession, h]
  exact ⟨hd, hc, rfl, rfl, hplaces,
    rollback_confirm_restores rewriteSession default false hd hc rfl rfl hplaces⟩

end Session

end Arbor.Edit
