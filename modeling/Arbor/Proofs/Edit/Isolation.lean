import Mathlib.Data.List.Pairwise
import Arbor.Proofs.Edit.RoundTrip
/-!
Files confirmed apart from each other.
-/

namespace Arbor.Disk

variable {d : Disk} {cwd : List String} {p : String} {P : List String}

theorem stat_of_place (hd : d.NoLinks) (hc : d.Closed) (hcwd : d.isDirAt cwd = true)
    (hp : d.placeOf cwd p = some P) {e : Entry} (he : d.entry? P = some e) :
    d.stat cwd p = .ok e := by
  have hloc := (locate_eq_targetAt hd hc hcwd hp true).1
  simp [stat, hloc, targetAt, he]

theorem exists?_of_place (hd : d.NoLinks) (hc : d.Closed) (hcwd : d.isDirAt cwd = true)
    (hp : d.placeOf cwd p = some P) (he : d.entry? P = none) : d.exists? cwd p = false := by
  have hloc := (locate_eq_targetAt hd hc hcwd hp true).1
  simp [exists?, stat, hloc, targetAt, he, Except.toBool]

theorem overlay_of_mem_nodup {W : List (List String × ByteArray)} {w : List String × ByteArray}
    (hw : w ∈ W) (hnd : (W.map (·.1)).Nodup) : d.overlay W w.1 = some (.file w.2 false) := by
  induction W with
  | nil => cases hw
  | cons v W ih =>
    obtain ⟨hv, hnd'⟩ := List.nodup_cons.mp hnd
    rw [overlay_cons]
    rcases List.mem_cons.mp hw with rfl | hw
    · exact if_pos rfl
    · have hne : w.1 ≠ v.1 := fun h => hv (List.mem_map.mpr ⟨w, hw, h⟩)
      rw [if_neg hne]
      exact ih hw hnd'

end Arbor.Disk

namespace Arbor.Edit

open Arbor.Disk

theorem exists_of_mem_forall₂_left {α β : Type} {R : α → β → Prop} {l₁ : List α} {l₂ : List β}
    (h : List.Forall₂ R l₁ l₂) {a : α} (ha : a ∈ l₁) : ∃ b ∈ l₂, R a b := by
  induction h with
  | nil => cases ha
  | cons hab _ ih =>
    rcases List.mem_cons.mp ha with rfl | ha
    · exact ⟨_, List.mem_cons_self, hab⟩
    · obtain ⟨b, hb, hR⟩ := ih ha
      exact ⟨b, List.mem_cons_of_mem _ hb, hR⟩

theorem exists_of_mem_forall₂_right {α β : Type} {R : α → β → Prop} {l₁ : List α} {l₂ : List β}
    (h : List.Forall₂ R l₁ l₂) {b : β} (hb : b ∈ l₂) : ∃ a ∈ l₁, R a b := by
  induction h with
  | nil => cases hb
  | cons hab _ ih =>
    rcases List.mem_cons.mp hb with rfl | hb
    · exact ⟨_, List.mem_cons_self, hab⟩
    · obtain ⟨a, ha, hR⟩ := ih hb
      exact ⟨a, List.mem_cons_of_mem _ ha, hR⟩

/-- Two files name distinct places, where both name one. -/
def PlacesApart (d : Disk) (cwd : List String) (f g : FilePlan) : Prop :=
  ∀ P ∈ d.placeOf cwd f.path, ∀ Q ∈ d.placeOf cwd g.path, P ≠ Q

instance {d : Disk} {cwd : List String} : Std.Symm (PlacesApart d cwd) :=
  ⟨fun _ _ h P hP Q hQ => (h Q hQ P hP).symm⟩

namespace Session

variable {s : Session} {d : Disk} {cwd : List String}

theorem foldl_confirmFile (enc : Encoding) (mode : WriteMode) (cwd : List String) :
    ∀ (l : List FilePlan) (acc : List FilePlan × Report × Disk),
    l.foldl (confirmFile enc mode cwd) acc =
      (acc.1 ++ (l.foldl (confirmFile enc mode cwd) ([], {}, acc.2.2)).1,
        { successful :=
            acc.2.1.successful ++ (l.foldl (confirmFile enc mode cwd) ([], {}, acc.2.2)).2.1.successful,
          failed := acc.2.1.failed ++ (l.foldl (confirmFile enc mode cwd) ([], {}, acc.2.2)).2.1.failed },
        (l.foldl (confirmFile enc mode cwd) ([], {}, acc.2.2)).2.2)
  | [], acc => by simp
  | f :: l, acc => by
    rw [List.foldl_cons, List.foldl_cons, foldl_confirmFile enc mode cwd l,
      foldl_confirmFile enc mode cwd l (confirmFile enc mode cwd ([], {}, acc.2.2) f)]
    -- the turn of `f` adds the same to both
    cases hw : f.write enc mode acc.2.2 cwd with
    | ok res =>
      have h₀ : confirmFile enc mode cwd ([], {}, acc.2.2) f = _ := confirmFile_of_ok hw
      rw [confirmFile_of_ok hw, h₀]
      simp
    | error e =>
      have h₀ : confirmFile enc mode cwd ([], {}, acc.2.2) f = _ := confirmFile_of_error hw
      rw [confirmFile_of_error hw, h₀]
      simp

theorem confirm_without_failed {t t' : Tree} {d' : Disk} {r : Report} {s' : Session}
    (hout : s.confirm t d cwd = .ok (r, s', t', d')) {pre post : List FilePlan} {f : FilePlan}
    {e : EditError} (hs : s.files = pre ++ f :: post)
    (he : f.write s.encoding s.mode (s.confirmUpTo d cwd pre.length).2.2 cwd = .error e) :
    ∃ r₀ s₀, ({ s with files := pre ++ post } : Session).confirm t d cwd = .ok (r₀, s₀, t', d') ∧
      r₀.successful = r.successful ∧
      (∃ fs₁ fs₂, r.failed = fs₁ ++ (f.path, e) :: fs₂ ∧ r₀.failed = fs₁ ++ fs₂) ∧
      ∃ gs₁ gs₂, s'.files = gs₁ ++ { f with status := .failed } :: gs₂ ∧
        s₀ = { s' with files := gs₁ ++ gs₂ } := by
  obtain ⟨hp, hout⟩ := confirm_eq_ok_iff.mp hout
  simp only [Prod.mk.injEq] at hout
  obtain ⟨rfl, rfl, rfl, rfl⟩ := hout
  -- the turns before `f`, the turn of `f`, and the turns after it from the disk it left
  set A := pre.foldl (confirmFile s.encoding s.mode cwd) ([], {}, d) with hA
  set X := post.foldl (confirmFile s.encoding s.mode cwd) ([], {}, A.2.2) with hX
  have hpre : s.confirmUpTo d cwd pre.length = A := by
    simp [confirmUpTo, hs, hA]
  rw [hpre] at he
  have hall : s.confirmUpTo d cwd s.files.length =
      (A.1 ++ [{ f with status := .failed }] ++ X.1,
        { successful := A.2.1.successful ++ X.2.1.successful,
          failed := A.2.1.failed ++ [(f.path, e)] ++ X.2.1.failed }, X.2.2) := by
    rw [confirmUpTo, List.take_length, hs, List.foldl_append, List.foldl_cons, ← hA,
      confirmFile_of_error he, foldl_confirmFile]
  have hwithout : ({ s with files := pre ++ post } : Session).confirmUpTo d cwd
      ({ s with files := pre ++ post } : Session).files.length =
      (A.1 ++ X.1,
        { successful := A.2.1.successful ++ X.2.1.successful,
          failed := A.2.1.failed ++ X.2.1.failed }, X.2.2) := by
    rw [confirmUpTo, List.take_length, List.foldl_append, ← hA, foldl_confirmFile]
  rw [hall]
  refine ⟨{ successful := A.2.1.successful ++ X.2.1.successful,
            failed := A.2.1.failed ++ X.2.1.failed },
    { s with phase := .confirmed, files := A.1 ++ X.1 },
    confirm_eq_ok_iff.mpr ⟨hp, ?_⟩, rfl, ⟨A.2.1.failed, X.2.1.failed, by simp, rfl⟩,
    ⟨A.1, X.1, by simp, rfl⟩⟩
  rw [hwithout]

theorem path_of_confirmedAs {f g : FilePlan} (h : ConfirmedAs f g) : g.path = f.path := by
  unfold ConfirmedAs at h
  rcases h with ⟨target, snapshot, written, rfl⟩ | rfl <;> rfl

theorem map_path_of_confirmedAs {fs gs : List FilePlan} (h : List.Forall₂ ConfirmedAs fs gs) :
    gs.map (·.path) = fs.map (·.path) := by
  induction h with
  | nil => rfl
  | cons hfg _ ih => simp [path_of_confirmedAs hfg, ih]

/-- Files whose paths name distinct places still do once confirmed. -/
theorem pairwise_placesApart_of_confirmedAs {fs gs : List FilePlan}
    (h : List.Forall₂ ConfirmedAs fs gs) (hfs : fs.Pairwise (PlacesApart d cwd)) :
    gs.Pairwise (PlacesApart d cwd) := by
  have hpaths : (fs.map (·.path)).Pairwise
      fun p q => ∀ P ∈ d.placeOf cwd p, ∀ Q ∈ d.placeOf cwd q, P ≠ Q := List.pairwise_map.mpr hfs
  rw [← map_path_of_confirmedAs h] at hpaths
  have hgs := List.pairwise_map.mp hpaths
  exact hgs

/-- A whole confirm, seen from the disk before it: the written places hold the written bytes. -/
theorem confirmUpTo_overlaid (hd : d.NoLinks) (hc : d.Closed) (hcwd : d.isDirAt cwd = true)
    (hplaces : s.mode = .overwrite → s.files.Pairwise (PlacesApart d cwd)) :
    ∃ W, Overlaid (s.confirmUpTo d cwd s.files.length).2.2 d W ∧
      List.Forall₂ (WrittenTo d cwd s.encoding s.mode)
        ((s.confirmUpTo d cwd s.files.length).1.filter (·.status.isWritten)) W := by
  rw [confirmUpTo, List.take_length]
  exact confirmFold_overlaid s.encoding s.mode hd hcwd s.files ([], {}, d) []
    (Overlaid.refl hd hc) .nil hplaces (fun _ w hw => by cases hw)

variable {D : Disk} {W : List (List String × ByteArray)} {enc : Encoding} {mode : WriteMode}
  {gs : List FilePlan} {g : FilePlan}

/-- A written file's target holds the bytes of its proposed text: its own path when overwritten,
a path where nothing was when copied. -/
theorem target_holds_proposed (hd : d.NoLinks) (hcwd : d.isDirAt cwd = true)
    (ho : Overlaid D d W) (hW : List.Forall₂ (WrittenTo d cwd enc mode) (gs.filter (·.status.isWritten)) W)
    (hg : g ∈ gs) {target : String} {snapshot : Option ByteArray} {written : UInt64}
    (hs : g.status = .written target snapshot written) (hc : d.Closed) :
    ∃ bytes, enc.encode g.proposed = .ok bytes ∧ D.contents cwd target = .ok bytes ∧
      (mode = .overwrite → target = g.path) ∧ (mode = .copy → d.exists? cwd target = false) := by
  have hgw : g ∈ gs.filter (·.status.isWritten) :=
    List.mem_filter.mpr ⟨hg, by simp [hs, FileStatus.isWritten]⟩
  obtain ⟨w, hw, target', snapshot', F, hs', henc, hat⟩ := exists_of_mem_forall₂_left hW hgw
  obtain ⟨rfl, rfl, -⟩ : target' = target ∧ snapshot' = snapshot ∧ _ := by
    rw [hs] at hs'
    simpa using hs'.symm
  -- the target names the written place, which shows the written bytes
  have hplace : D.placeOf cwd target' = some w.1 :=
    placeOf_sameDirs hd ho.noLinks (fun Q => (ho.sameDirs Q).symm) hat.place
  have hcwd' : D.isDirAt cwd = true := by rw [ho.sameDirs]; exact hcwd
  have hentry : D.entry? w.1 = some (.file w.2 false) := by
    rw [ho.entry, overlay_of_mem_nodup hw ho.nodup]
  have hstat := stat_of_place ho.noLinks ho.closed hcwd' hplace hentry
  refine ⟨w.2, henc, by simp [contents, hstat], fun hm => (hat.overwrite hm).1, fun hm => ?_⟩
  have hnone : d.entry? w.1 = none := by rw [hat.before, hat.copy hm]; rfl
  exact exists?_of_place hd hc hcwd hat.place hnone

theorem failed_place_kept (hd : d.NoLinks) (hc : d.Closed) (hcwd : d.isDirAt cwd = true)
    (ho : Overlaid D d W) (hW : List.Forall₂ (WrittenTo d cwd enc mode) (gs.filter (·.status.isWritten)) W)
    (hpw : mode = .overwrite → gs.Pairwise (PlacesApart d cwd))
    (hex : mode = .copy → ∀ g ∈ gs, d.exists? cwd g.path = true)
    (hg : g ∈ gs) (hf : g.status = .failed) {P : List String} (hP : d.placeOf cwd g.path = some P) :
    D.entry? P = d.entry? P := by
  rw [ho.entry, overlay_of_not_mem]
  intro hmem
  obtain ⟨w, hw, rfl⟩ := List.mem_map.mp hmem
  obtain ⟨g', hg', target, snapshot, F, -, -, hat⟩ := exists_of_mem_forall₂_right hW hw
  obtain ⟨hg'mem, hg'w⟩ := List.mem_filter.mp hg'
  cases mode with
  | overwrite =>
    -- the written file is another file, whose path names another place
    obtain ⟨htarget, -⟩ := hat.overwrite rfl
    have hne : g ≠ g' := by
      rintro rfl
      simp [hf, FileStatus.isWritten] at hg'w
    exact (hpw rfl).forall hg hg'mem hne w.1 hP w.1 (htarget ▸ hat.place) rfl
  | copy =>
    -- a copy went to a place where nothing was, and the failed file was there
    have hnone : d.entry? w.1 = none := by rw [hat.before, hat.copy rfl]; rfl
    have hthere := hex rfl g hg
    rw [exists?_of_place hd hc hcwd hP hnone] at hthere
    cases hthere

/-- A confirm writes each file apart from the others: dropping a file whose turn fails changes
nothing else, and on a closed disk without links each written target holds its proposed text. -/
theorem confirm_isolates_files (s : Session) (t : Tree) (d : Disk) (cwd : List String)
    (hp : s.phase = .pending) :
    ∃ r s' t' d', s.confirm t d cwd = .ok (r, s', t', d') ∧
      List.Forall₂ ConfirmedAs s.files s'.files ∧
      r.successful = (s'.files.filter (·.status.isWritten)).map (·.path) ∧
      r.failed.map (·.1) = (s'.files.filter (·.status.isFailed)).map (·.path) ∧
      (∀ pre f post e, s.files = pre ++ f :: post →
        f.write s.encoding s.mode (s.confirmUpTo d cwd pre.length).2.2 cwd = .error e →
        ∃ r₀ s₀, ({ s with files := pre ++ post } : Session).confirm t d cwd = .ok (r₀, s₀, t', d') ∧
          r₀.successful = r.successful ∧
          (∃ fs₁ fs₂, r.failed = fs₁ ++ (f.path, e) :: fs₂ ∧ r₀.failed = fs₁ ++ fs₂) ∧
          ∃ gs₁ gs₂, s'.files = gs₁ ++ { f with status := .failed } :: gs₂ ∧
            s₀ = { s' with files := gs₁ ++ gs₂ }) ∧
      (d.NoLinks → d.Closed → d.isDirAt cwd = true →
        (s.mode = .overwrite → (s.files.filterMap fun f => d.placeOf cwd f.path).Nodup) →
        (s.mode = .copy → ∀ f ∈ s.files, d.exists? cwd f.path = true) →
        (∀ g ∈ s'.files, ∀ target snapshot written, g.status = .written target snapshot written →
          ∃ bytes, s.encoding.encode g.proposed = .ok bytes ∧ d'.contents cwd target = .ok bytes ∧
            (s.mode = .overwrite → target = g.path) ∧
            (s.mode = .copy → d.exists? cwd target = false)) ∧
        (∀ g ∈ s'.files, g.status = .failed → ∀ P, d.placeOf cwd g.path = some P →
          Disk.entry? d' P = d.entry? P)) := by
  obtain ⟨hfiles, hsucc, hfail⟩ := confirmUpTo_length_spec s d cwd
  refine ⟨_, _, _, _, confirm_eq_ok_iff.mpr ⟨hp, rfl⟩, hfiles, hsucc, hfail,
    fun pre f post e hs he => confirm_without_failed (confirm_eq_ok_iff.mpr ⟨hp, rfl⟩) hs he, ?_⟩
  intro hd hc hcwd hplaces hex
  have hpw : s.mode = .overwrite → s.files.Pairwise (PlacesApart d cwd) :=
    fun hm => List.pairwise_filterMap.mp (hplaces hm)
  obtain ⟨W, ho, hW⟩ := confirmUpTo_overlaid hd hc hcwd hpw
  refine ⟨fun g hg target snapshot written hs => target_holds_proposed hd hcwd ho hW hg hs hc,
    fun g hg hf P hP => failed_place_kept hd hc hcwd ho hW
      (fun hm => pairwise_placesApart_of_confirmedAs hfiles (hpw hm)) (fun hm g' hg' => ?_) hg hf hP⟩
  -- a confirmed file has the path of a planned one
  obtain ⟨f, hf, hfg⟩ := exists_of_mem_forall₂_right hfiles hg'
  rw [path_of_confirmedAs hfg]
  exact hex hm f hf

/-- Rewriting `a.py` on its own disk is confirmed, every file of it listed in plan order. -/
theorem rewriteSession_isolated : rewriteSession.phase = .pending ∧
    ∃ r s' t' d', rewriteSession.confirm default plannedDisk [] = .ok (r, s', t', d') ∧
      List.Forall₂ ConfirmedAs rewriteSession.files s'.files := by
  obtain ⟨r, s', t', d', h, hf, -⟩ := confirm_isolates_files rewriteSession default plannedDisk [] rfl
  exact ⟨rfl, r, s', t', d', h, hf⟩

/-- A disk where `b.py` is a link to `a.py`, which holds `x = 1`. -/
def linkedDisk : Disk :=
  { entries := [(["a.py"], .file "x = 1\n".toUTF8 false), (["b.py"], .link "a.py")] }

/-- A pending session rewriting `x = 1` to `y = 1` in `a.py` and in `b.py`. -/
def linkedSession : Session :=
  { files := [{ path := "a.py", original := "x = 1\n", fingerprint := fingerprint "x = 1\n",
                proposed := "y = 1\n", found := [], replacements := [] },
              { path := "b.py", original := "x = 1\n", fingerprint := fingerprint "x = 1\n",
                proposed := "y = 1\n", found := [], replacements := [] }],
    encoding := .utf8 }

/-- Through a link two files name one place: writing `a.py` changes `b.py` under its plan, so
`b.py` fails as a conflict, and still reads the bytes written to `a.py`. -/
theorem confirm_changes_linked_failed_file :
    ∃ r s' t' d', linkedSession.confirm default linkedDisk [] = .ok (r, s', t', d') ∧
      r.failed.map (·.1) = ["b.py"] ∧ linkedDisk.readText [] "b.py" = .ok "x = 1\n" ∧
      d'.readText [] "b.py" = .ok "y = 1\n" := by
  have h : (linkedSession.confirm default linkedDisk []).map
      (fun out => (out.1.failed.map (·.1), out.2.2.2.readText [] "b.py")) =
      .ok (["b.py"], .ok "y = 1\n") := by decide +kernel
  cases hc : linkedSession.confirm default linkedDisk [] with
  | error e =>
    rw [hc] at h
    cases h
  | ok out =>
    obtain ⟨r, s', t', d'⟩ := out
    rw [hc] at h
    simp only [Except.map, Except.ok.injEq, Prod.mk.injEq] at h
    exact ⟨r, s', t', d', rfl, h.1, by decide +kernel, h.2⟩

end Session

end Arbor.Edit
