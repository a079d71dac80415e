import Arbor.Proofs.Edit.Isolation
import Arbor.Proofs.Outline.Names
import Arbor.Proofs.Tree.Build
/-!
Confirm and rollback keep the tree in step with the disk.
-/

namespace Arbor

open Arbor.Outline Arbor.Disk Arbor.Edit

/-! ### Reading one file again -/

/-- The file of a tree that a path names: the first whose path is the same path. -/
def Tree.fileNamed? (t : Tree) (p : String) : Option Nat := t.files.findIdx? (Path.same ·.path p)

/-- The name a file is read again under: that of its file node. -/
def ParsedFile.rootName (file : ParsedFile) : String := (file.nodes[0]?.map (·.name)).getD ""

/-- A file read again from the path `p`: what the loader reads there under the file's name and
outline kind, kept in the file's directory, or the file as it was when that read fails. -/
def ParsedFile.reloaded (l : Loader) (d : Disk) (cwd : List String) (p : String)
    (file : ParsedFile) : ParsedFile :=
  match l.load d cwd p file.rootName file.structured with
  | .ok f => { f with parent := file.parent }
  | .error _ => file

/-- File `j` of `t` after the turns of the paths `ps`: read again at the turn of each path that
names it. -/
def Tree.reloadedAt (t : Tree) (d : Disk) (cwd : List String) (ps : List String) (j : Nat)
    (file : ParsedFile) : ParsedFile :=
  ps.foldl (fun file p => if t.fileNamed? p = some j then file.reloaded t.loader d cwd p else file)
    file

/-- `t'` is `t` with the files that the paths `ps` name read again from `d`, turn by turn; the
root, the directories, the failures, the loader and every other file stay. -/
structure Tree.ReadAgain (t t' : Tree) (d : Disk) (cwd : List String) (ps : List String) :
    Prop where
  root : t'.root = t.root
  dirs : t'.dirs = t.dirs
  failures : t'.failures = t.failures
  loader : t'.loader = t.loader
  files : ∀ j, t'.files[j]? = t.files[j]?.map (t.reloadedAt d cwd ps j)

variable {l : Loader} {d : Disk} {cwd : List String}

theorem Loader.load_rootName {p name : String} {structured : Bool} {f : ParsedFile}
    (h : l.load d cwd p name structured = .ok f) : f.rootName = name ∧ f.structured = structured := by
  obtain ⟨hsize, -⟩ := (Loader.load_wellFormed h).outline.root
  unfold Loader.load at h
  split at h
  · cases h
  · split at h
    · cases h
    · next text _ =>
      cases h
      refine ⟨?_, rfl⟩
      have hname := name_make_root l.isProperty p name text structured
      simp only [Loader.parseText] at hsize ⊢
      simpa [ParsedFile.rootName, entry, hsize] using hname

theorem Loader.load_of_decode {p name text : String} {structured : Bool} {bytes : ByteArray}
    (hc : d.contents cwd p = .ok bytes) (hdec : l.encoding.decode bytes = .ok text) :
    l.load d cwd p name structured = .ok (l.parseText p name text structured) := by
  simp [Loader.load, hc, hdec]

namespace ParsedFile

variable {p : String} {file : ParsedFile}

theorem reloaded_reloaded :
    (file.reloaded l d cwd p).reloaded l d cwd p = file.reloaded l d cwd p := by
  unfold reloaded
  cases h : l.load d cwd p file.rootName file.structured with
  | error e => simp [h]
  | ok f =>
    obtain ⟨hname, hkind⟩ := Loader.load_rootName h
    have hagain : l.load d cwd p ({ f with parent := file.parent } : ParsedFile).rootName
        ({ f with parent := file.parent } : ParsedFile).structured = .ok f := by
      rw [show ({ f with parent := file.parent } : ParsedFile).rootName = f.rootName from rfl,
        show ({ f with parent := file.parent } : ParsedFile).structured = f.structured from rfl,
        hname, hkind, h]
    simp [hagain]

theorem same_reloaded_path (hp : Path.same file.path p = true) (q : String) :
    Path.same (file.reloaded l d cwd p).path q = Path.same file.path q := by
  unfold reloaded
  split
  · next f h =>
    rw [show ({ f with parent := file.parent } : ParsedFile).path = f.path from rfl,
      Loader.load_path h]
    simp only [Path.same, beq_iff_eq] at hp ⊢
    rw [hp]
  · rfl

end ParsedFile

/-! ### Reading files again, turn by turn -/

theorem findIdx?_eq_of_map_eq {α β : Type} {a : Array α} {b : Array β} {P : α → Bool}
    {Q : β → Bool} (h : a.map P = b.map Q) : a.findIdx? P = b.findIdx? Q := by
  have ha : a.findIdx? P = (a.map P).findIdx? id := by rw [Array.findIdx?_map]; rfl
  have hb : b.findIdx? Q = (b.map Q).findIdx? id := by rw [Array.findIdx?_map]; rfl
  rw [ha, hb, h]

namespace Tree

variable {t t' t'' : Tree} {ps qs : List String}

theorem reloadedAt_nil (j : Nat) (file : ParsedFile) : t.reloadedAt d cwd [] j file = file := rfl

theorem reloadedAt_cons (p : String) (j : Nat) (file : ParsedFile) :
    t.reloadedAt d cwd (p :: ps) j file = t.reloadedAt d cwd ps j
      (if t.fileNamed? p = some j then file.reloaded t.loader d cwd p else file) := rfl

theorem reloadedAt_singleton (p : String) (j : Nat) :
    t.reloadedAt d cwd [p] j =
      fun file => if t.fileNamed? p = some j then file.reloaded t.loader d cwd p else file := rfl

theorem reloadedAt_append (j : Nat) (file : ParsedFile) :
    t.reloadedAt d cwd (ps ++ qs) j file = t.reloadedAt d cwd qs j (t.reloadedAt d cwd ps j file) := by
  simp [reloadedAt, List.foldl_append]

theorem same_of_fileNamed? {p : String} {j : Nat} {file : ParsedFile} (hj : t.fileNamed? p = some j)
    (hf : t.files[j]? = some file) : Path.same file.path p = true := by
  obtain ⟨hlt, hsame, -⟩ := Array.findIdx?_eq_some_iff_getElem.mp hj
  rw [Array.getElem?_eq_getElem hlt, Option.some.injEq] at hf
  rw [← hf]
  exact hsame

theorem same_reloadedAt_path {j : Nat} {file : ParsedFile} (hf : t.files[j]? = some file)
    (q : String) : Path.same (t.reloadedAt d cwd ps j file).path q = Path.same file.path q := by
  -- the file read so far is named by the same paths as the file itself
  suffices h : ∀ file' : ParsedFile, (∀ q, Path.same file'.path q = Path.same file.path q) →
      Path.same (ps.foldl (fun (file : ParsedFile) p => if t.fileNamed? p = some j then
        file.reloaded t.loader d cwd p else file) file').path q = Path.same file.path q from
    h file fun _ => rfl
  induction ps with
  | nil => intro file' hsame; exact hsame q
  | cons p ps ih =>
    intro file' hsame
    refine ih _ fun q' => ?_
    dsimp only
    split
    · next hj =>
      have hp : Path.same file'.path p = true := by rw [hsame]; exact same_of_fileNamed? hj hf
      rw [ParsedFile.same_reloaded_path hp, hsame]
    · exact hsame q'

namespace ReadAgain

/-- Reading files again keeps the number of files. -/
theorem size (h : t.ReadAgain t' d cwd ps) : t'.files.size = t.files.size := by
  apply Nat.le_antisymm
  · by_contra hlt
    have := h.files t.files.size
    simp [Array.getElem?_eq_getElem (Nat.lt_of_not_le hlt)] at this
  · by_contra hlt
    have := h.files t'.files.size
    simp [Array.getElem?_eq_getElem (Nat.lt_of_not_le hlt)] at this

theorem fileNamed? (h : t.ReadAgain t' d cwd ps) (q : String) : t'.fileNamed? q = t.fileNamed? q := by
  unfold Tree.fileNamed?
  refine findIdx?_eq_of_map_eq (Array.ext_getElem? fun j => ?_)
  rw [Array.getElem?_map, Array.getElem?_map, h.files]
  cases hf : t.files[j]? with
  | none => rfl
  | some file => simp [same_reloadedAt_path hf]

/-- Reading files again for some paths and then for more is reading them again for all. -/
theorem trans (h : t.ReadAgain t' d cwd ps) (h' : t'.ReadAgain t'' d cwd qs) :
    t.ReadAgain t'' d cwd (ps ++ qs) := by
  -- the second reads name the same files, with the same loader, as they would have in `t`
  have hat : t'.reloadedAt d cwd qs = t.reloadedAt d cwd qs := by
    unfold Tree.reloadedAt
    simp only [h.fileNamed?, h.loader]
  refine ⟨h'.root.trans h.root, h'.dirs.trans h.dirs, h'.failures.trans h.failures,
    h'.loader.trans h.loader, fun j => ?_⟩
  rw [h'.files, h.files, Option.map_map, hat]
  congr 1
  funext file
  exact (reloadedAt_append j file).symm

end ReadAgain

theorem readAgain_turn (t : Tree) (p : String) :
    t.ReadAgain (match t.reloadFile d cwd p with
      | .ok (some t') => t'
      | _ => t) d cwd [p] := by
  unfold reloadFile
  cases hi : t.files.findIdx? (Path.same ·.path p) with
  | none =>
    -- no file is named: nothing is read
    have hnone : t.fileNamed? p = none := hi
    exact ⟨rfl, rfl, rfl, rfl, fun j => by simp [reloadedAt_singleton, hnone]⟩
  | some i =>
    have hnamed : t.fileNamed? p = some i := hi
    obtain ⟨hlt, -, -⟩ := Array.findIdx?_eq_some_iff_getElem.mp hi
    have hcur : t.files[i]? = some t.files[i] := Array.getElem?_eq_getElem hlt
    have hname : (Option.map (fun x => x.name) t.files[i].nodes[0]?).getD "" = t.files[i].rootName :=
      rfl
    simp only [hcur, hname]
    cases hl : t.loader.load d cwd p t.files[i].rootName t.files[i].structured with
    | error e =>
      -- the read fails, and the file stays
      refine ⟨rfl, rfl, rfl, rfl, fun j => ?_⟩
      rw [reloadedAt_singleton]
      by_cases hij : i = j
      · subst hij
        simp [hcur, hnamed, ParsedFile.reloaded, hl]
      · simp [hnamed, hij]
    | ok f =>
      refine ⟨rfl, rfl, rfl, rfl, fun j => ?_⟩
      rw [reloadedAt_singleton]
      by_cases hij : i = j
      · subst hij
        simp [hlt, hnamed, ParsedFile.reloaded, hl]
      · simp [hnamed, hij]

theorem refresh_readAgain (t : Tree) (ps : List String) : t.ReadAgain (t.refresh d cwd ps) d cwd ps := by
  induction ps generalizing t with
  | nil =>
    refine ⟨rfl, rfl, rfl, rfl, fun j => ?_⟩
    rw [show t.reloadedAt d cwd [] j = id from rfl, Option.map_id]
    rfl
  | cons p ps ih =>
    exact (readAgain_turn t p).trans (ih _)

end Tree

/-! ### One path, one file -/

namespace Tree

variable {t : Tree} {ps : List String} {j : Nat}

theorem reloadedAt_of_not_named (h : ∀ p ∈ ps, t.fileNamed? p ≠ some j) (file : ParsedFile) :
    t.reloadedAt d cwd ps j file = file := by
  induction ps generalizing file with
  | nil => rfl
  | cons p ps ih =>
    rw [reloadedAt_cons, if_neg (h p List.mem_cons_self)]
    exact ih (fun q hq => h q (List.mem_cons_of_mem p hq)) file

theorem reloadedAt_of_named_by {p : String} (hp : p ∈ ps) (hj : t.fileNamed? p = some j)
    (honly : ∀ q ∈ ps, t.fileNamed? q = some j → q = p) (file : ParsedFile) :
    t.reloadedAt d cwd ps j file = file.reloaded t.loader d cwd p := by
  induction ps generalizing file with
  | nil => cases hp
  | cons q ps ih =>
    have honly' : ∀ q' ∈ ps, t.fileNamed? q' = some j → q' = p :=
      fun q' hq' => honly q' (List.mem_cons_of_mem q hq')
    rw [reloadedAt_cons]
    by_cases hq : t.fileNamed? q = some j
    · -- the first turn reads the file; any later turn of the same path reads it the same way
      obtain rfl := honly q List.mem_cons_self hq
      rw [if_pos hq]
      by_cases hrest : q ∈ ps
      · rw [ih hrest honly', ParsedFile.reloaded_reloaded]
      · refine reloadedAt_of_not_named (fun q' hq' hnamed => hrest ?_) _
        rwa [← honly' q' hq' hnamed]
    · rw [if_neg hq]
      have hp' : p ∈ ps := by
        rcases List.mem_cons.mp hp with rfl | hp'
        · exact absurd hj hq
        · exact hp'
      exact ih hp' honly' file

end Tree

/-! ### The text of a file read again -/

theorem decode_utf8_of_encode {text : String} {bytes : ByteArray}
    (h : Encoding.utf8.encode text = .ok bytes) : Encoding.utf8.decode bytes = .ok text := by
  simp only [Encoding.encode, Encoding.encode?, Except.ok.injEq] at h
  subst h
  simp only [Encoding.decode, Encoding.decode?, String.toUTF8_eq_toByteArray, String.fromUTF8?,
    text.isValidUTF8, dite_true]
  rfl

theorem ParsedFile.text_reloaded_utf8 {p text : String} {bytes : ByteArray} {file : ParsedFile}
    (hl : l.encoding = .utf8) (hc : d.contents cwd p = .ok bytes)
    (henc : Encoding.utf8.encode text = .ok bytes) : (file.reloaded l d cwd p).text = text := by
  have hdec : l.encoding.decode bytes = .ok text := by rw [hl]; exact decode_utf8_of_encode henc
  simp [reloaded, Loader.load_of_decode hc hdec, Loader.parseText, ParsedFile.make]

theorem placeOf_eq_of_same {p q : String} {P Q : List String} (hpq : Path.same p q = true)
    (hP : d.placeOf cwd p = some P) (hQ : d.placeOf cwd q = some Q) : P = Q := by
  have hparts : Path.parts p = Path.parts q := by simpa [Path.same] using hpq
  unfold placeOf locate at hP hQ
  cases hcp : checkText p with
  | error e => simp [hcp, bind, Except.bind] at hP
  | ok u =>
    cases hcq : checkText q with
    | error e => simp [hcq, bind, Except.bind] at hQ
    | ok v =>
      simp only [hcp, hcq, hparts] at hP hQ
      -- once both texts are taken, both paths follow the same parts
      split at hP <;> split at hQ <;> simp_all

/-! ### Confirm and rollback -/

namespace Edit.Session

theorem written_path_eq {s : Session} (hd : d.NoLinks) (hc : d.Closed) (hcwd : d.isDirAt cwd = true)
    (hm : s.mode = .overwrite) (hpw : s.files.Pairwise (PlacesApart d cwd))
    {g g' : FilePlan} (hg : g ∈ (s.confirmUpTo d cwd s.files.length).1)
    (hg' : g' ∈ (s.confirmUpTo d cwd s.files.length).1)
    (hw : g.status.isWritten = true) (hw' : g'.status.isWritten = true)
    (hsame : Path.same g.path g'.path = true) : g'.path = g.path := by
  obtain ⟨hfiles, -, -⟩ := confirmUpTo_length_spec s d cwd
  obtain ⟨W, -, hW⟩ := confirmUpTo_overlaid hd hc hcwd (fun _ => hpw)
  -- a written file's path names the place it was written to
  have hplace : ∀ g'' ∈ (s.confirmUpTo d cwd s.files.length).1, g''.status.isWritten = true →
      ∃ P, d.placeOf cwd g''.path = some P := by
    intro g'' hg'' hw''
    obtain ⟨w, -, target, snapshot, F, -, -, hat⟩ :=
      exists_of_mem_forall₂_left hW (List.mem_filter.mpr ⟨hg'', hw''⟩)
    obtain ⟨rfl, -⟩ := hat.overwrite hm
    exact ⟨w.1, hat.place⟩
  obtain ⟨P, hP⟩ := hplace g hg hw
  obtain ⟨P', hP'⟩ := hplace g' hg' hw'
  by_contra hne
  have happart := (pairwise_placesApart_of_confirmedAs hfiles hpw).forall hg hg'
    (fun h => hne (h ▸ rfl))
  exact happart P hP P' hP' (placeOf_eq_of_same hsame hP hP')

/-- Confirm and rollback return the tree with each file their report lists done read again from
the disk they return. -/
theorem confirm_rollback_read_tree_again (s : Session) (t : Tree) (d : Disk) (cwd : List String) :
    (s.phase = .pending → ∃ r s' t' d', s.confirm t d cwd = .ok (r, s', t', d') ∧
      t.ReadAgain t' d' cwd r.successful ∧
      (d.NoLinks → d.Closed → d.isDirAt cwd = true → s.mode = .overwrite →
        (s.files.filterMap fun f => d.placeOf cwd f.path).Nodup →
        s.encoding = .utf8 → t.loader.encoding = .utf8 →
        ∀ g ∈ s'.files, g.status.isWritten = true → ∀ j, t.fileNamed? g.path = some j →
          ∃ file, t'.files[j]? = some file ∧ file.text = g.proposed)) ∧
    (∀ force, s.phase ≠ .pending → ∃ r s' t' d', s.rollback force t d cwd = .ok (r, s', t', d') ∧
      t.ReadAgain t' d' cwd r.successful) := by
  refine ⟨fun hp => ?_, fun force hp => ?_⟩
  · obtain ⟨-, hsucc, -⟩ := confirmUpTo_length_spec s d cwd
    refine ⟨_, _, _, _, confirm_eq_ok_iff.mpr ⟨hp, rfl⟩, Tree.refresh_readAgain _ _, ?_⟩
    intro hd hc hcwd hm hnodup hse hle g hg hw j hj
    have hpw : s.files.Pairwise (PlacesApart d cwd) := List.pairwise_filterMap.mp hnodup
    obtain ⟨W, ho, hW⟩ := confirmUpTo_overlaid hd hc hcwd (fun _ => hpw)
    -- the written file's own path holds its proposed text in UTF-8
    obtain ⟨target, snapshot, written, hs⟩ : ∃ target snapshot written,
        g.status = .written target snapshot written := by
      cases h : g.status <;> simp_all [FileStatus.isWritten]
    obtain ⟨bytes, henc, hcontents, hover, -⟩ := target_holds_proposed hd hcwd ho hW hg hs hc
    obtain rfl := hover hm
    rw [hse] at henc
    -- only the written file's path names file `j` among the paths reported done
    have hmem : g.path ∈ (s.confirmUpTo d cwd s.files.length).2.1.successful := by
      rw [hsucc]
      exact List.mem_map_of_mem (List.mem_filter.mpr ⟨hg, hw⟩)
    have honly : ∀ q ∈ (s.confirmUpTo d cwd s.files.length).2.1.successful,
        t.fileNamed? q = some j → q = g.path := by
      intro q hq hqj
      rw [hsucc] at hq
      obtain ⟨g', hg', rfl⟩ := List.mem_map.mp hq
      obtain ⟨hg'mem, hw'⟩ := List.mem_filter.mp hg'
      obtain ⟨hlt, -, -⟩ := Array.findIdx?_eq_some_iff_getElem.mp hj
      have hfile := Array.getElem?_eq_getElem hlt
      have h1 := Tree.same_of_fileNamed? hj hfile
      have h2 := Tree.same_of_fileNamed? hqj hfile
      refine written_path_eq hd hc hcwd hm hpw hg hg'mem hw hw' ?_
      simp only [Path.same, beq_iff_eq] at h1 h2 ⊢
      rw [← h1, h2]
    obtain ⟨hlt, -, -⟩ := Array.findIdx?_eq_some_iff_getElem.mp hj
    refine ⟨_, ((Tree.refresh_readAgain t _).files j).trans (by
      rw [Array.getElem?_eq_getElem hlt, Option.map_some,
        Tree.reloadedAt_of_named_by hmem hj honly]), ?_⟩
    exact ParsedFile.text_reloaded_utf8 hle hcontents henc
  · exact ⟨_, _, _, _, rollback_eq_ok_iff.mpr ⟨hp, rfl⟩, Tree.refresh_readAgain _ _⟩

/-- Rewriting `a.py` reads it into the tree again when confirmed and when rolled back. -/
theorem rewriteSession_reads_tree_again : rewriteSession.phase = .pending ∧
    (∃ r s' t' d', rewriteSession.confirm default plannedDisk [] = .ok (r, s', t', d') ∧
      (default : Tree).ReadAgain t' d' [] r.successful) ∧
    ({ rewriteSession with phase := .confirmed } : Session).phase ≠ .pending ∧
    ∃ r s' t' d', ({ rewriteSession with phase := .confirmed } : Session).rollback false default
      plannedDisk [] = .ok (r, s', t', d') ∧ (default : Tree).ReadAgain t' d' [] r.successful := by
  obtain ⟨r, s', t', d', h, hread, -⟩ :=
    (confirm_rollback_read_tree_again rewriteSession default plannedDisk []).1 rfl
  exact ⟨rfl, ⟨r, s', t', d', h, hread⟩, by decide,
    (confirm_rollback_read_tree_again { rewriteSession with phase := .confirmed } default
      plannedDisk []).2 false (by decide)⟩

/-- A disk where `sub2` is a link to the directory `sub`, whose `x.py` holds `x = 1`. -/
def aliasedDisk : Disk :=
  { entries := [(["sub"], .directory), (["sub", "x.py"], .file "x = 1\n".toUTF8 false),
      (["sub2"], .link "sub")] }

/-- A pending session rewriting `sub/x.py` from `x = 1` to `xx = 1` and `sub2/x.py` from
`xx = 1` to `xxxx = 1`, as planned before `sub2` became a link to `sub`. -/
def aliasedSession : Session :=
  { files := [{ path := "sub/x.py", original := "x = 1\n", fingerprint := fingerprint "x = 1\n",
                proposed := "xx = 1\n", found := [], replacements := [] },
              { path := "sub2/x.py", original := "xx = 1\n", fingerprint := fingerprint "xx = 1\n",
                proposed := "xxxx = 1\n", found := [], replacements := [] }],
    encoding := .utf8 }

/-- The tree of the two files as they were planned, kept whole in one directory. -/
def aliasedTree : Tree :=
  { root := .dir 0
    dirs := #[{ name := "", path := "", children := #[.fileRoot 0, .fileRoot 1], parent := none }]
    files := #[{ ({} : Loader).parseText "sub/x.py" "x.py" "x = 1\n" false with parent := some 0 },
      { ({} : Loader).parseText "sub2/x.py" "x.py" "xx = 1\n" false with parent := some 0 }]
    failures := #[]
    loader := {} }

/-- Through a link two plans name one place: both overwrite `sub/x.py`, both are reported done,
and the tree then shows for `sub/x.py` the text written for `sub2/x.py`, not its own plan's. -/
theorem confirm_through_link_shows_later_text :
    ∃ r s' t' d', aliasedSession.confirm aliasedTree aliasedDisk [] = .ok (r, s', t', d') ∧
      aliasedSession.mode = .overwrite ∧ aliasedSession.encoding = .utf8 ∧
      aliasedTree.loader.encoding = .utf8 ∧ r.successful = ["sub/x.py", "sub2/x.py"] ∧
      aliasedSession.files[0]?.map (·.proposed) = some "xx = 1\n" ∧
      t'.files[0]?.map (·.text) = some "xxxx = 1\n" := by
  have h : (aliasedSession.confirm aliasedTree aliasedDisk []).map
      (fun out => (out.1.successful, out.2.2.1.files[0]?.map (·.text))) =
      .ok (["sub/x.py", "sub2/x.py"], some "xxxx = 1\n") := by decide +kernel
  cases hc : aliasedSession.confirm aliasedTree aliasedDisk [] with
  | error e =>
    rw [hc] at h
    cases h
  | ok out =>
    obtain ⟨r, s', t', d'⟩ := out
    rw [hc] at h
    simp only [Except.map, Except.ok.injEq, Prod.mk.injEq] at h
    exact ⟨r, s', t', d', rfl, rfl, rfl, rfl, h.1, rfl, h.2⟩

end Edit.Session

end Arbor
