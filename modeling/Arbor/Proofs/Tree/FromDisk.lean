import Arbor.Proofs.Tree.Walk
import Mathlib
/-!
What a build makes of a finite tree of directories and files.
-/

namespace Arbor

open Arbor.Disk Arbor.Disk.Path

/-! ### The files below the root are the file table in order -/

variable {t : Tree}

theorem filesBelow_eq_range' (hwf : t.WellFormed) {bounds : Array (Nat × Nat)}
    (h : DirRuns t.dirs bounds) :
    ∀ {fuel d lo hi : Nat}, d + 2 ≤ fuel → bounds[d]? = some (lo, hi) →
      t.filesBelow fuel (.dir d) = List.range' lo (hi - lo) := by
  intro fuel
  induction fuel with
  | zero => intro d lo hi hfuel; omega
  | succ n ih =>
    intro d lo hi hfuel hd
    obtain ⟨dir, hdir⟩ : ∃ dir, t.dirs[d]? = some dir := by
      have hlt : d < t.dirs.size := h.1 ▸ (Array.getElem?_eq_some_iff.mp hd).1
      exact ⟨_, Array.getElem?_eq_getElem hlt⟩
    obtain ⟨lo', hi', hd', hruns⟩ := h.2 d dir hdir
    obtain ⟨rfl, rfl⟩ : lo' = lo ∧ hi' = hi := by simpa [hd] using hd'.symm
    rw [Tree.filesBelow, Tree.children_dir hdir]
    -- the directory lists earlier directories, whose runs the induction gives, and roots of files
    suffices hchildren : ∀ cs : List NodeId, (∀ c ∈ cs, DirChild d t.files.size c) →
        ∀ a b, Consecutive bounds cs a b → cs.flatMap (t.filesBelow n) = List.range' a (b - a) from
      hchildren _ (fun c hc => hwf.dirs d dir hdir c (Array.mem_toList_iff.mp hc)) _ _ hruns
    intro cs
    induction cs with
    | nil =>
      intro _ a b hab
      obtain rfl : a = b := hab
      simp
    | cons c cs ihc =>
      intro hcs a b hc
      have hrest := fun c hc => hcs c (List.mem_cons_of_mem _ hc)
      rcases hcs c List.mem_cons_self with ⟨d', rfl, hd'lt⟩ | ⟨f, rfl, -⟩
      · obtain ⟨m, hd'm, ham, hcons⟩ := hc
        have hmb := hcons.le
        rw [List.flatMap_cons, ih (by omega) hd'm, ihc hrest m b hcons,
          show b - a = (m - a) + (b - m) by omega, ← List.range'_append, Nat.one_mul,
          Nat.add_sub_cancel' ham]
      · obtain ⟨rfl, hcons⟩ := hc
        have hb := hcons.le
        obtain ⟨k, rfl⟩ : ∃ k, n = k + 1 := ⟨n - 1, by omega⟩
        rw [List.flatMap_cons, ihc hrest _ b hcons, show b - f = (b - (f + 1)) + 1 by omega,
          List.range'_succ]
        rfl

theorem Builder.build_filesBelow_root {b : Builder} {d : Disk} {cwd : List String}
    {root : String} {t : Tree} (h : b.build d cwd root = .ok t) :
    t.filesBelow (t.size + 1) t.root = List.range t.files.size := by
  have hwf := Builder.build_wellFormed h
  rcases Builder.build_eq_ok_cases h with ⟨file, -, rfl⟩ | ⟨s, -, -, -, -, ht⟩
  · -- a root that is a file gives a tree of that one file
    rfl
  · -- the walk starts with no directory and no run, and the root holds the run of every file
    have hempty : DirRuns ({} : Walk).dirs #[] :=
      ⟨rfl, fun d dir hd => by rw [show ({} : Walk).dirs = #[] from rfl] at hd; simp at hd⟩
    obtain ⟨extra, hruns, hslot, -⟩ := s.visitDir_runs (d.entries.length + 1) root true {} #[] hempty
    obtain ⟨slot, hroot⟩ := s.visitDir_root d.entries.length root {}
    have hdirs : t.dirs = (s.visitDir (d.entries.length + 1) root true {}).2.dirs := by rw [ht]
    have htroot : t.root = .dir slot := by rw [ht]; simp [hroot]
    rw [← hdirs] at hruns
    have hrun := hslot slot hroot
    have hlt : slot < t.dirs.size := by
      rw [← hruns.1]
      exact (Array.getElem?_eq_some_iff.mp hrun).1
    have hfiles : t.files.size = (s.visitDir (d.entries.length + 1) root true {}).2.files.size := by
      rw [ht]
    rw [htroot, filesBelow_eq_range' hwf hruns _ hrun, List.range_eq_range', hfiles]
    · rfl
    · simp only [Tree.size]
      omega

/-! ### The tree of a plain disk -/

/-- What a build from a plain disk makes, the disk alone fixing it. -/
structure WalkSettings.TreeOf (s : WalkSettings) (R : List String) (t : Tree) : Prop where
  nonempty : ∀ (k : Nat) (dir : DirEntry), t.dirs[k]? = some dir → t.root ≠ .dir k → dir.children ≠ #[]
  parents : ∀ (k : Nat) (dir : DirEntry), t.dirs[k]? = some dir → ∀ c ∈ dir.children, t.parent? c = some (.dir k)
  sorted : ∀ (k : Nat) (dir : DirEntry), t.dirs[k]? = some dir → ∃ names : List String,
    names.Pairwise (· < ·) ∧ dir.children.toList.map t.path = names.map (join dir.path)
  preorder : t.filesBelow (t.size + 1) t.root = List.range t.files.size
  reads : ∃ rels : List (List String), rels.Pairwise (· < ·) ∧
    (∀ r, r ∈ rels ↔ s.FileBelow R [] r) ∧
    t.files.toList.map ParsedFile.detached = rels.filterMap (s.fileAt R) ∧
    t.failures.toList = rels.filterMap (s.failureAt R)
  failedOnce : ∀ r, s.FileBelow R [] r → (s.failureAt R r).isSome →
    (t.failures.toList.map (·.path)).count (joinNames s.root r) = 1

theorem WalkSettings.failureAt_path {s : WalkSettings} {R rel : List String} {e : Failure}
    (h : s.failureAt R rel = some e) : e.path = joinNames s.root rel := by
  unfold failureAt outcome at h
  split at h
  · rename_i bytes _ _ _ _ _
    cases hdec : s.builder.loader.encoding.decode bytes with
    | ok text => simp [hdec] at h
    | error err =>
      simp only [hdec, Option.bind_some, Option.some.injEq] at h
      rw [← h]
  · simp at h

theorem WalkSettings.build_eq (s : WalkSettings) (hroot : s.disk.stat s.cwd s.root = .ok .directory)
    (hignore : compileGlobs s.builder.ignore = .ok s.ignore)
    (hincludes : compileGlobs s.builder.includes = .ok s.includes) :
    s.builder.build s.disk s.cwd s.root = .ok
      { root := .dir ((s.visitDir (s.disk.entries.length + 1) s.root true {}).1.getD 0),
        dirs := (s.visitDir (s.disk.entries.length + 1) s.root true {}).2.dirs,
        files := (s.visitDir (s.disk.entries.length + 1) s.root true {}).2.files,
        failures := (s.visitDir (s.disk.entries.length + 1) s.root true {}).2.failures,
        loader := s.builder.loader } := by
  cases s
  simp only at hroot hignore hincludes ⊢
  simp [Builder.build, Disk.exists?, Disk.isFile, hroot, hignore, hincludes, bind, Except.bind,
    pure, Except.pure, Except.toBool]

namespace WalkSettings.Plain

variable {s : WalkSettings} {R : List String} (hs : s.Plain R)
include hs

theorem count_failure_paths {rels : List (List String)} (hsorted : rels.Pairwise (· < ·))
    (hbelow : ∀ r ∈ rels, s.FileBelow R [] r) {r : List String} (hr : r ∈ rels)
    (hfail : (s.failureAt R r).isSome) :
    ((rels.filterMap (s.failureAt R)).map (·.path)).count (joinNames s.root r) = 1 := by
  have hnames : ∀ r ∈ rels, ∀ n ∈ r, IsName n := fun r hr => by
    obtain ⟨bytes, ro, hf⟩ := (hbelow r hr).2.2.2
    exact hs.isName_of_mem hf
  obtain ⟨e, he⟩ := Option.isSome_iff_exists.mp hfail
  rw [List.map_filterMap]
  refine List.count_eq_one_of_mem ?_ (List.mem_filterMap.mpr ⟨r, hr, by rw [he, Option.map_some,
    failureAt_path he]⟩)
  -- two files in order of relative path are two files, at two paths
  refine List.pairwise_filterMap.mpr (hsorted.imp_of_mem fun ha hb hab => ?_)
  intro x hx y hy hxy
  obtain ⟨ea, hea, rfl⟩ := Option.mem_map.mp hx
  obtain ⟨eb, heb, rfl⟩ := Option.mem_map.mp hy
  rw [failureAt_path hea, failureAt_path heb] at hxy
  exact (ne_of_lt hab) (joinNames_inj (hnames _ ha) (hnames _ hb) hxy)

/-- A build of a finite tree of directories and files whose root is a directory, where the
system takes the path of every entry below the root and the globs compile, gives the tree of
the disk. -/
theorem build_treeOf (hignore : compileGlobs s.builder.ignore = .ok s.ignore)
    (hincludes : compileGlobs s.builder.includes = .ok s.includes) :
    ∃ t, s.builder.build s.disk s.cwd s.root = .ok t ∧ s.TreeOf R t := by
  have hstat : s.disk.stat s.cwd s.root = .ok .directory := by simp [Disk.stat, hs.root]
  have hbuild := s.build_eq hstat hignore hincludes
  refine ⟨_, hbuild, ?_⟩
  have hwf := Builder.build_wellFormed hbuild
  have hpre := Builder.build_filesBelow_root hbuild
  obtain ⟨slot, hslot⟩ := s.visitDir_root s.disk.entries.length s.root {}
  have hv : s.Visited R [] true {} (s.visitDir (s.disk.entries.length + 1) s.root true {}) := by
    simpa using hs.visited_visitDir (s.disk.entries.length + 1) [] true {} (.inl rfl)
      (Nat.lt_succ_of_le (by simpa using below_le s.disk R))
  generalize s.visitDir (s.disk.entries.length + 1) s.root true {} = res at hslot hv hwf hpre ⊢
  obtain ⟨o, w⟩ := res
  obtain rfl : o = some slot := hslot
  obtain ⟨-, ⟨rels, hsorted, hchar, hprod⟩, hdirs, -⟩ := hv
  simp only [Option.getD_some] at hwf hpre ⊢
  refine ⟨fun k dir hk hroot => ?_, hwf.listed_parent, fun k dir hk => ?_, hpre,
    ⟨rels, hsorted, hchar, by simpa using hprod.files, by simpa using hprod.failures⟩,
    fun r hr hfail => ?_⟩
  · -- a directory added below the root lists something
    obtain ⟨-, ⟨e, he, hne⟩ | ⟨hk', -⟩⟩ := hdirs k (Nat.zero_le _) (Array.getElem?_eq_some_iff.mp hk).1
    · rw [he] at hk
      cases hk
      exact hne
    · cases hk'
      exact absurd rfl hroot
  · obtain ⟨⟨e, he, names, hnames, hlists⟩, -⟩ :=
      hdirs k (Nat.zero_le _) (Array.getElem?_eq_some_iff.mp hk).1
    rw [he] at hk
    cases hk
    -- the tree finds a node's path where the walk put it
    have hpath : (dir.children.toList.map fun c => Tree.path ⟨.dir slot, w.dirs, w.files,
        w.failures, s.builder.loader⟩ c) = dir.children.toList.map w.pathOf := rfl
    exact ⟨names, hnames, hpath.trans hlists.2⟩
  · have hfailures : w.failures.toList = rels.filterMap (s.failureAt R) := by
      simpa using hprod.failures
    simp only [hfailures]
    exact hs.count_failure_paths hsorted (fun r hr => (hchar r).mp hr) ((hchar r).mpr hr) hfail

end WalkSettings.Plain

theorem locate_of_parts_name {d : Disk} (hd : d.Plain) {p n : String} {e : Entry}
    (hcheck : checkText p = .ok ()) (hparts : parts p = [.name n]) (he : ([n], e) ∈ d.entries)
    (last : Bool) : d.locate [] p last = .ok (.found [n] e) := by
  rw [locate_eq_walk hd.noLinks, hparts, hcheck, show [Part.name n] = [] ++ [.name n] from rfl,
    walk_append_name n rfl, targetIn, entry?_of_mem hd.nodup (by simp) (by simpa using he)]
  rfl

/-- A directory `proj` holding `a.py` and a directory `sub` that holds `b.py`, walked with no
globs. -/
theorem WalkSettings.build_treeOf_two_files :
    let s : WalkSettings :=
      { builder := { ignore := [] }, cwd := [], root := "proj", ignore := [], includes := [],
        disk := { entries := [(["proj"], .directory),
          (["proj", "a.py"], .file "x = 1\n".toUTF8 false), (["proj", "sub"], .directory),
          (["proj", "sub", "b.py"], .file "y = 2\n".toUTF8 false)] } }
    s.Plain ["proj"] ∧ compileGlobs s.builder.ignore = .ok s.ignore ∧
      compileGlobs s.builder.includes = .ok s.includes ∧
      ∃ t, s.builder.build s.disk s.cwd s.root = .ok t ∧ s.TreeOf ["proj"] t := by
  intro s
  have hdisk : s.disk.Plain :=
    ⟨by unfold NoLinks; decide +kernel, by unfold Closed; decide +kernel, by decide +kernel,
      by decide +kernel⟩
  have hroot := locate_of_parts_name hdisk (show checkText "proj" = .ok () by decide +kernel)
    (show parts "proj" = [.name "proj"] by decide +kernel) (e := .directory) (by simp [s]) true
  have hplain : s.Plain ["proj"] := by
    refine ⟨hdisk, hroot, fun x hx _ => ?_⟩
    simp only [s, List.mem_cons, List.not_mem_nil, or_false] at hx
    rcases hx with rfl | rfl | rfl | rfl <;> decide +kernel
  exact ⟨hplain, rfl, rfl, WalkSettings.Plain.build_treeOf hplain rfl rfl⟩

/-! ### Past the system's path limit

The theorem above needs the system to take the path of every entry below the root. A root text
the system takes, joined with the name of a file inside, may give a text of 4096 bytes or more,
which the system refuses: the file is then not read, though it is reached and decodes.
-/

theorem splitOn_replicate (c : Char) : ∀ n, (List.replicate n c).splitOn c = List.replicate (n + 1) []
  | 0 => rfl
  | n + 1 => by
    rw [List.replicate_succ, ← List.nil_append (c :: _),
      List.splitOn_append_cons_self_of_not_mem List.not_mem_nil, splitOn_replicate c n]
    rfl

theorem utf8Len_replicate (c : Char) : ∀ n, String.utf8Len (List.replicate n c) = n * c.utf8Size
  | 0 => by simp
  | n + 1 => by rw [List.replicate_succ, String.utf8Len_cons, utf8Len_replicate c n, Nat.succ_mul]

def slashRoot (n : Nat) : String := String.ofList (['p', 'r', 'o', 'j'] ++ List.replicate n '/')

theorem utf8ByteSize_slashRoot (n : Nat) : (slashRoot n).utf8ByteSize = 4 + n := by
  rw [slashRoot, String.utf8ByteSize_ofList, String.utf8Len_append, utf8Len_replicate,
    show String.utf8Len ['p', 'r', 'o', 'j'] = 4 by decide, show '/'.utf8Size = 1 by decide,
    Nat.mul_one]

theorem segments_slashRoot (n : Nat) : segments (slashRoot n) = "proj" :: List.replicate n "" := by
  have hproj : String.ofList ['p', 'r', 'o', 'j'] = "proj" := by decide +kernel
  cases n with
  | zero =>
    rw [segments, slashRoot, List.replicate_zero, List.append_nil, String.toList_ofList,
      List.splitOn_eq_singleton (by decide)]
    simp [hproj]
  | succ n =>
    rw [segments, slashRoot, String.toList_ofList, List.replicate_succ,
      List.splitOn_append_cons_self_of_not_mem (by decide), splitOn_replicate]
    simp [hproj]

theorem parts_slashRoot (n : Nat) : parts (slashRoot n) = [.name "proj"] := by
  have habs : isAbsolute (slashRoot n) = false := by
    simp only [isAbsolute, String.startsWith_string_eq_false_iff, slashRoot, String.toList_ofList]
    rw [show "/".toList = ['/'] by decide +kernel]
    simp
  simp [parts, habs, segments_slashRoot]

theorem checkText_slashRoot {n : Nat} (hn : 4 + n < pathMax) : checkText (slashRoot n) = .ok () := by
  have hne : (slashRoot n).isEmpty = false := by
    rw [String.isEmpty_eq_utf8ByteSize_beq_zero, utf8ByteSize_slashRoot]
    simp
  simp only [pathMax] at hn
  simp [checkText, hne, utf8ByteSize_slashRoot, segments_slashRoot, nameMax, pathMax]
  rw [if_neg (by omega), if_neg (by decide +kernel)]


theorem utf8ByteSize_join_ge {a b : String} (hb : isAbsolute b = false) (ha : a.isEmpty = false) :
    a.utf8ByteSize + b.utf8ByteSize ≤ (join a b).utf8ByteSize := by
  unfold join
  rw [hb, ha, Bool.or_false, if_neg (by decide)]
  split <;> simp only [String.utf8ByteSize_append] <;> omega

theorem checkText_join_slashRoot {n : Nat} {m : String} (hm : IsName m)
    (hlen : pathMax ≤ 4 + n + m.utf8ByteSize) :
    checkText (join (slashRoot n) m) = .error .nameTooLong := by
  have hroot : (slashRoot n).isEmpty = false := by
    rw [String.isEmpty_eq_utf8ByteSize_beq_zero, utf8ByteSize_slashRoot]
    simp
  have hsize := utf8ByteSize_join_ge hm.isAbsolute_eq_false hroot
  rw [utf8ByteSize_slashRoot] at hsize
  have hne : (join (slashRoot n) m).isEmpty = false := by
    rw [String.isEmpty_eq_utf8ByteSize_beq_zero]
    simp only [beq_eq_false_iff_ne]
    omega
  unfold checkText
  rw [hne, if_neg (by decide), if_pos (by omega)]

/-- A directory `proj` holding one file, `a.py`. -/
def projDisk : Disk :=
  { entries := [(["proj"], .directory), (["proj", "a.py"], .file "x = 1\n".toUTF8 false)] }

theorem projDisk_plain : projDisk.Plain :=
  ⟨by unfold NoLinks; decide +kernel, by unfold Closed; decide +kernel, by decide +kernel,
    by decide +kernel⟩

theorem build_slashRoot_reads_no_file {n : Nat} (hroot : 4 + n < pathMax)
    (hlong : pathMax ≤ 4 + n + 4) :
    let s : WalkSettings :=
      { builder := { ignore := [] }, cwd := [], root := slashRoot n, ignore := [], includes := [],
        disk := projDisk }
    s.disk.Plain ∧ s.disk.locate s.cwd s.root true = .ok (.found ["proj"] .directory) ∧
      s.FileBelow ["proj"] [] ["a.py"] ∧ (s.fileAt ["proj"] ["a.py"]).isSome ∧
      ∃ t, s.builder.build s.disk s.cwd s.root = .ok t ∧ t.files.size = 0 := by
  intro s
  have hfile : (["proj"] ++ ["a.py"], Entry.file "x = 1\n".toUTF8 false) ∈ projDisk.entries := by
    simp [projDisk]
  have hlocate := locate_of_parts_name projDisk_plain (checkText_slashRoot hroot)
    (parts_slashRoot n) (e := .directory) (by simp [projDisk])
  refine ⟨projDisk_plain, hlocate true, ⟨List.nil_prefix, by simp, fun k _ _ => by simp [suffixMatches, s],
    _, _, hfile⟩, ?_, ?_⟩
  · -- read at its own place, `a.py` is a source file that decodes
    have hreading : Builder.readingOf { ignore := [] } [] ["a.py"] = some ("a", true) := by
      decide +kernel
    have hdecode : Encoding.utf8.decode ("x = 1\n".toUTF8) = .ok "x = 1\n" := by decide +kernel
    unfold WalkSettings.fileAt WalkSettings.outcome
    simp only [s]
    rw [entry?_of_mem projDisk_plain.nodup (by simp) hfile, hreading]
    simp only [hdecode]
    rfl
  · -- the walk lists `a.py` under the root, but the path it joins for it is too long to load
    have hstat : projDisk.stat [] (slashRoot n) = .ok .directory := by simp [Disk.stat, hlocate true]
    refine ⟨_, s.build_eq hstat rfl rfl, ?_⟩
    have hchildren : projDisk.childrenOf ["proj"] = [("a.py", Entry.file "x = 1\n".toUTF8 false)] := by
      rw [childrenOf_eq]
      simp [listedIn, projDisk]
    have hentries : s.entries s.root true = .ok [("a.py", .file)] := by
      simp only [WalkSettings.entries, lstat, s, hlocate false]
      rw [readDir_of_locate (hlocate true), hchildren]
      rfl
    have hload : ∀ name, s.builder.loader.load s.disk s.cwd (join s.root "a.py") name true =
        .error (.io (join s.root "a.py") IoError.nameTooLong.message) := by
      intro name
      simp [Loader.load, Disk.contents, Disk.stat, Disk.locate, s, bind, Except.bind,
        checkText_join_slashRoot (m := "a.py") (by decide +kernel) hlong]
    rw [s.visitDir_succ_of_entries hentries]
    simp only [List.foldl_cons, List.foldl_nil]
    unfold WalkSettings.readEntry WalkSettings.visitFile WalkSettings.closeDir
    have hsrc : ({ ignore := [] } : Builder).isSource "a.py" = true := by decide +kernel
    simp [s, matchesAnySuffix, Builder.isSource_join _ _ (show IsName "a.py" by decide +kernel), hsrc,
      hload, Walk.adopt, adoptFiles, Walk.fail]

/-- The root `proj` written with 4088 trailing separators, 4092 bytes, is a directory the system
takes; the file `a.py` in it is reached and decodes, yet the tree built has no file, since the
path of the file has 4096 bytes. -/
theorem build_drops_file_past_path_limit :
    let s : WalkSettings :=
      { builder := { ignore := [] }, cwd := [], root := slashRoot 4088, ignore := [], includes := [],
        disk := projDisk }
    s.disk.Plain ∧ s.disk.locate s.cwd s.root true = .ok (.found ["proj"] .directory) ∧
      s.FileBelow ["proj"] [] ["a.py"] ∧ (s.fileAt ["proj"] ["a.py"]).isSome ∧
      ∃ t, s.builder.build s.disk s.cwd s.root = .ok t ∧ t.files.size = 0 :=
  build_slashRoot_reads_no_file (by decide) (by decide)

end Arbor
