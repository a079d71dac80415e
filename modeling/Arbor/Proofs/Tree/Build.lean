import Arbor.Tree.Build
import Arbor.Proofs.Tree.WellFormed
/-!
Trees built from a disk are well formed.
-/

namespace Arbor

open Arbor.Outline Arbor.Disk

/-- The loader reads a file into no directory. -/
theorem Loader.load_parent {l : Loader} {d : Disk} {cwd : List String} {path name : String}
    {structured : Bool} {file : ParsedFile} (h : l.load d cwd path name structured = .ok file) :
    file.parent = none := by
  unfold Loader.load at h
  split at h
  · cases h
  · split at h
    · cases h
    · cases h
      rfl

/-- A file the loader reads has the path it was read from. -/
theorem Loader.load_path {l : Loader} {d : Disk} {cwd : List String} {path name : String}
    {structured : Bool} {file : ParsedFile} (h : l.load d cwd path name structured = .ok file) :
    file.path = path := by
  unfold Loader.load at h
  split at h
  · cases h
  · split at h
    · cases h
    · cases h
      rfl

/-- A file the loader reads is well formed. -/
theorem Loader.load_wellFormed {l : Loader} {d : Disk} {cwd : List String} {path name : String}
    {structured : Bool} {file : ParsedFile} (h : l.load d cwd path name structured = .ok file) :
    file.WellFormed := by
  unfold Loader.load at h
  split at h
  · cases h
  · split at h
    · cases h
    · cases h
      exact ParsedFile.make_wellFormed _ _ _ _ _

theorem DirChild.mono {d n n' : Nat} {c : NodeId} (h : DirChild d n c) (hn : n ≤ n') :
    DirChild d n' c := by
  rcases h with ⟨d', rfl, hd⟩ | ⟨f, rfl, hf⟩
  · exact .inl ⟨d', rfl, hd⟩
  · exact .inr ⟨f, rfl, by omega⟩

/-- A walk whose files are well formed and whose directories list earlier directories and roots
of its files. -/
structure Walk.WellFormed (w : Walk) : Prop where
  files : ∀ (f : Nat) (file : ParsedFile), w.files[f]? = some file → file.WellFormed
  dirs : ∀ (d : Nat) (dir : DirEntry), w.dirs[d]? = some dir → ∀ c ∈ dir.children,
    DirChild d w.files.size c

def Walk.Grows (w w' : Walk) : Prop := w.dirs.size ≤ w'.dirs.size ∧ w.files.size ≤ w'.files.size

theorem Walk.Grows.trans {w w' w'' : Walk} (h : w.Grows w') (h' : w'.Grows w'') : w.Grows w'' :=
  ⟨h.1.trans h'.1, h.2.trans h'.2⟩

/-- Whether a walk is well formed depends on its tables alone. -/
theorem Walk.WellFormed.of_tables {w w' : Walk} (hw : w.WellFormed) (hd : w'.dirs = w.dirs)
    (hf : w'.files = w.files) : w'.WellFormed :=
  ⟨by rw [hf]; exact hw.files, by rw [hd, hf]; exact hw.dirs⟩

/-- A node a walk can list in a new directory: a directory or the root of a file it holds. -/
def Walk.Listable (w : Walk) (c : NodeId) : Prop :=
  (∃ d, c = .dir d ∧ d < w.dirs.size) ∨ ∃ f, c = .fileRoot f ∧ f < w.files.size

theorem Walk.Listable.mono {w w' : Walk} {c : NodeId} (h : w.Listable c) (hg : w.Grows w') :
    w'.Listable c := by
  rcases h with ⟨d, rfl, hd⟩ | ⟨f, rfl, hf⟩
  · exact .inl ⟨d, rfl, by have := hg.1; omega⟩
  · exact .inr ⟨f, rfl, by have := hg.2; omega⟩

/-! ### Where directories and files sit -/

/-- The directory a walk has put a directory or the root of a file in. -/
def Walk.dirOf (w : Walk) : NodeId → Option Nat
  | .dir d => w.dirs[d]? >>= (·.parent)
  | .unit f 0 => w.files[f]? >>= (·.parent)
  | .unit _ (_ + 1) => none

/-- A walk whose directories list each child once, each sitting in the directory, and list
every directory and file root that sits in them. -/
structure Walk.Linked (w : Walk) : Prop where
  nodup : ∀ (d : Nat) (dir : DirEntry), w.dirs[d]? = some dir → dir.children.toList.Nodup
  listed : ∀ (d : Nat) (dir : DirEntry), w.dirs[d]? = some dir → ∀ c ∈ dir.children,
    w.dirOf c = some d
  adopted : ∀ c d, w.dirOf c = some d → ∃ dir, w.dirs[d]? = some dir ∧ c ∈ dir.children

/-- `w'` is a linked walk where everything `w` can list sits where it sat in `w`, and the
directories and file roots added since that sit in no directory are those `top` holds. -/
structure Walk.LinksOn (w w' : Walk) (top : NodeId → Prop) : Prop where
  linked : w'.Linked
  keep : ∀ c, w.Listable c → w'.dirOf c = w.dirOf c
  top_iff : ∀ c, w'.Listable c → ¬ w.Listable c → (w'.dirOf c = none ↔ top c)

namespace Walk.LinksOn

variable {w w' w'' : Walk} {top top' : NodeId → Prop}

theorem refl (h : w.Linked) : w.LinksOn w top :=
  ⟨h, fun _ _ => rfl, fun _ hc hnew => absurd hc hnew⟩

theorem congr (h : w.LinksOn w' top)
    (htop : ∀ c, w'.Listable c → ¬ w.Listable c → (top c ↔ top' c)) : w.LinksOn w' top' :=
  ⟨h.linked, h.keep, fun c hc hnew => (h.top_iff c hc hnew).trans (htop c hc hnew)⟩

/-- Two extensions in a row: a new node in no directory is one the first adds and leaves there,
or one the second adds. -/
theorem trans (h : w.LinksOn w' top) (h' : w'.LinksOn w'' top') (hg : w.Grows w') :
    w.LinksOn w'' fun c => (w'.Listable c ∧ top c) ∨ (¬ w'.Listable c ∧ top' c) := by
  refine ⟨h'.linked, fun c hc => (h'.keep c (hc.mono hg)).trans (h.keep c hc),
    fun c hc hnew => ?_⟩
  by_cases hmid : w'.Listable c
  · rw [h'.keep c hmid, h.top_iff c hmid hnew]
    simp [hmid]
  · rw [h'.top_iff c hc hmid]
    simp [hmid]

end Walk.LinksOn

theorem Walk.dirOf_fail (w : Walk) (path : String) (e : TreeError) : (w.fail path e).dirOf = w.dirOf :=
  rfl

/-- Setting the parents of the directories a new directory lists. -/
theorem getElem?_adoptDirs (slot : Nat) (children : Array NodeId) (dirs : Array DirEntry) (d : Nat) :
    (adoptDirs slot children dirs)[d]? = (dirs[d]?).map fun e =>
      if NodeId.dir d ∈ children then { e with parent := some slot } else e := by
  rw [adoptDirs, ← Array.foldl_toList]
  have hmem : (NodeId.dir d ∈ children) ↔ NodeId.dir d ∈ children.toList := Array.mem_toList_iff.symm
  simp only [hmem]
  generalize children.toList = cs
  induction cs generalizing dirs with
  | nil => simp
  | cons c rest ih =>
    rw [List.foldl_cons, ih]
    cases c with
    | dir i =>
      dsimp only
      rw [Array.getElem?_modify]
      by_cases hid : i = d
      · subst hid
        cases dirs[i]? <;> simp
      · rw [if_neg hid]
        cases dirs[d]? <;> simp [Ne.symm hid]
    | unit f j => cases dirs[d]? <;> simp

/-- Setting the parents of the file roots a new directory lists. -/
theorem getElem?_adoptFiles (slot : Nat) {children : Array NodeId}
    (hroots : ∀ c ∈ children, (∃ d, c = .dir d) ∨ ∃ g, c = .unit g 0) (files : Array ParsedFile)
    (f : Nat) :
    (adoptFiles slot children files)[f]? = (files[f]?).map fun file =>
      if NodeId.unit f 0 ∈ children then { file with parent := some slot } else file := by
  rw [adoptFiles, ← Array.foldl_toList]
  simp only [← Array.mem_toList_iff]
  replace hroots : ∀ c ∈ children.toList, (∃ d, c = .dir d) ∨ ∃ g, c = .unit g 0 :=
    fun c hc => hroots c (Array.mem_toList_iff.mp hc)
  generalize children.toList = cs at hroots
  -- one child at a time: only the root of file `f` itself touches entry `f`
  induction cs generalizing files with
  | nil => simp
  | cons c rest ih =>
    rw [List.foldl_cons, ih _ fun c hc => hroots c (List.mem_cons_of_mem _ hc)]
    rcases hroots c List.mem_cons_self with ⟨i, rfl⟩ | ⟨g, rfl⟩
    · have hne : NodeId.unit f 0 ≠ .dir i := nofun
      by_cases hr : NodeId.unit f 0 ∈ rest <;> cases files[f]? <;> simp [hr, hne]
    · dsimp only
      rw [Array.getElem?_modify]
      by_cases hgf : g = f
      · subst hgf
        by_cases hr : NodeId.unit g 0 ∈ rest <;> cases files[g]? <;> simp [hr]
      · have hne : NodeId.unit f 0 ≠ .unit g 0 := fun h => hgf (NodeId.unit.inj h).1.symm
        rw [if_neg hgf]
        by_cases hr : NodeId.unit f 0 ∈ rest <;> cases files[f]? <;> simp [hr, hne]

namespace WalkSettings

variable (s : WalkSettings)

/-- Visiting a file leaves the walk as it was when the file is neither outlined nor included,
adds the file as the loader reads it and gives its root, or records the failure to read it. -/
theorem visitFile_cases (path : String) (w : Walk) :
    s.visitFile path w = (none, w) ∨
    (∃ name structured file, s.builder.loader.load s.disk s.cwd path name structured = .ok file ∧
      s.visitFile path w = (some (.fileRoot w.files.size), { w with files := w.files.push file })) ∨
    ∃ e, s.visitFile path w = (none, w.fail path e) := by
  unfold visitFile
  generalize (if s.builder.isSource path then some ((Path.stem? path).getD "", true)
    else if matchesAnySuffix s.includes s.root path then some ((Path.fileName? path).getD "", false)
    else none) = kept
  cases kept with
  | none => exact .inl rfl
  | some entry =>
    obtain ⟨name, structured⟩ := entry
    dsimp only
    split
    · rename_i file hload
      exact .inr (.inl ⟨name, structured, file, hload, rfl⟩)
    · exact .inr (.inr ⟨_, rfl⟩)

theorem visitFile_spec (path : String) {w : Walk} (hw : w.WellFormed) :
    (s.visitFile path w).2.WellFormed ∧ w.Grows (s.visitFile path w).2 ∧
      ∀ c, (s.visitFile path w).1 = some c → (s.visitFile path w).2.Listable c := by
  rcases s.visitFile_cases path w with h | ⟨name, structured, file, hload, h⟩ | ⟨e, h⟩ <;> rw [h]
  · exact ⟨hw, ⟨le_rfl, le_rfl⟩, fun c hc => by cases hc⟩
  · refine ⟨⟨fun f file' hf => ?_, fun d dir hd c hc => ?_⟩, ⟨le_rfl, by simp⟩, fun c hc => ?_⟩
    · rw [Array.getElem?_push] at hf
      split at hf
      · cases hf
        exact Loader.load_wellFormed hload
      · exact hw.files f file' hf
    · exact (hw.dirs d dir hd c hc).mono (by simp)
    · cases hc
      exact .inr ⟨_, rfl, by simp⟩
  · exact ⟨⟨hw.files, hw.dirs⟩, ⟨le_rfl, le_rfl⟩, fun c hc => by cases hc⟩

/-- What a walk gathers while it reads the entries of one directory: a well-formed walk that has
grown from `w`, and children it can list. -/
def Gathered (w : Walk) (acc : Array NodeId × Walk) : Prop :=
  acc.2.WellFormed ∧ w.Grows acc.2 ∧ ∀ c ∈ acc.1, acc.2.Listable c

/-- Setting the parents of the directories a new directory lists keeps every directory's
children. -/
theorem adoptDirs_children (slot : Nat) (children : Array NodeId) (dirs : Array DirEntry) :
    (adoptDirs slot children dirs).size = dirs.size ∧
      ∀ d : Nat, ((adoptDirs slot children dirs)[d]?).map (fun e : DirEntry => e.children) =
        (dirs[d]?).map (fun e : DirEntry => e.children) := by
  refine Array.foldl_induction
    (fun _ (acc : Array DirEntry) => acc.size = dirs.size ∧
      ∀ d : Nat, (acc[d]?).map (fun e : DirEntry => e.children) =
        (dirs[d]?).map (fun e : DirEntry => e.children)) ⟨rfl, fun _ => rfl⟩ ?_
  intro i acc ⟨hsize, hkeep⟩
  split
  · refine ⟨by simp [hsize], fun d => ?_⟩
    rw [Array.getElem?_modify, ← hkeep d]
    split
    · rw [Option.map_map]
      rfl
    · rfl
  · exact ⟨hsize, hkeep⟩

theorem adoptFiles_wellFormed (slot : Nat) (children : Array NodeId) (files : Array ParsedFile)
    (hfiles : ∀ (f : Nat) (file : ParsedFile), files[f]? = some file → file.WellFormed) :
    (adoptFiles slot children files).size = files.size ∧
      ∀ (f : Nat) (file : ParsedFile), (adoptFiles slot children files)[f]? = some file →
        file.WellFormed := by
  refine Array.foldl_induction
    (fun _ (acc : Array ParsedFile) => acc.size = files.size ∧
      ∀ (f : Nat) (file : ParsedFile), acc[f]? = some file → file.WellFormed) ⟨rfl, hfiles⟩ ?_
  intro i acc ⟨hsize, hwf⟩
  split
  · refine ⟨by simp [hsize], fun f file hf => ?_⟩
    rw [Array.getElem?_modify] at hf
    split at hf
    · obtain ⟨file', hf', rfl⟩ := Option.map_eq_some_iff.mp hf
      have h := hwf f file' hf'
      exact ⟨h.outline, h.not_directory, h.starts_eq, h.names⟩
    · exact hwf f file hf
  · exact ⟨hsize, hwf⟩

end WalkSettings

/-- The walk with a new directory in the next slot, as the directory of what it lists. -/
def Walk.adopt (w : Walk) (children : Array NodeId) (e : DirEntry) : Walk :=
  { w with dirs := (adoptDirs w.dirs.size children w.dirs).push e
           files := adoptFiles w.dirs.size children w.files }

theorem Walk.adopt_dirs (w : Walk) (children : Array NodeId) (e : DirEntry) :
    (w.adopt children e).dirs = (adoptDirs w.dirs.size children w.dirs).push e := rfl

theorem Walk.adopt_files (w : Walk) (children : Array NodeId) (e : DirEntry) :
    (w.adopt children e).files = adoptFiles w.dirs.size children w.files := rfl

/-- Adding a directory in the next slot that lists nodes of the walk keeps it well formed: what
the new directory lists comes before it, and every other directory lists what it did. -/
theorem Walk.WellFormed.adopt {w : Walk} (hw : w.WellFormed) {children : Array NodeId}
    (hkids : ∀ c ∈ children, w.Listable c) {e : DirEntry} (he : e.children = children) :
    (w.adopt children e).WellFormed := by
  obtain ⟨hdsize, hdkeep⟩ := WalkSettings.adoptDirs_children w.dirs.size children w.dirs
  obtain ⟨hfsize, hfwf⟩ :=
    WalkSettings.adoptFiles_wellFormed w.dirs.size children w.files hw.files
  refine ⟨hfwf, fun d entry hd c hc => ?_⟩
  rw [Walk.adopt_dirs, Array.getElem?_push] at hd
  rw [Walk.adopt_files, hfsize]
  split at hd
  · -- the new directory lists nodes that were listable before it
    rename_i hslot
    cases hd
    rw [he] at hc
    rcases hkids c hc with ⟨d', rfl, hd'⟩ | ⟨f, rfl, hf⟩
    · exact .inl ⟨d', rfl, by omega⟩
    · exact .inr ⟨f, rfl, hf⟩
  · -- a directory before keeps its children
    have hold : (w.dirs[d]?).map (·.children) = some entry.children := by
      rw [← hdkeep d, hd]
      rfl
    obtain ⟨entry', hentry', hch⟩ := Option.map_eq_some_iff.mp hold
    rw [← hch] at hc
    exact hw.dirs d entry' hentry' c hc

theorem Walk.dirOf_adopt {w : Walk} {children : Array NodeId} (hkids : ∀ c ∈ children, w.Listable c)
    {e : DirEntry} (he : e.parent = none) (c : NodeId) :
    (w.adopt children e).dirOf c = if c ∈ children then some w.dirs.size else w.dirOf c := by
  have hroots : ∀ c ∈ children, (∃ d, c = .dir d) ∨ ∃ g, c = .unit g 0 := fun c hc =>
    (hkids c hc).imp (fun ⟨d, hd, _⟩ => ⟨d, hd⟩) fun ⟨g, hg, _⟩ => ⟨g, hg⟩
  have hsize := (WalkSettings.adoptDirs_children w.dirs.size children w.dirs).1
  match c with
  | .dir d =>
    simp only [Walk.adopt, Walk.dirOf, Array.getElem?_push, hsize]
    split
    · -- the new directory is listed by nobody yet
      rename_i hd
      subst hd
      have hnot : NodeId.dir w.dirs.size ∉ children := fun hc => by
        rcases hkids _ hc with ⟨d', hd', hlt⟩ | ⟨g, hg, -⟩
        · cases hd'
          omega
        · cases hg
      simp [he, hnot]
    · rw [getElem?_adoptDirs]
      cases hd : w.dirs[d]? with
      | none =>
        -- a slot outside the table is listed by nobody
        have hnot : NodeId.dir d ∉ children := fun hc => by
          rcases hkids _ hc with ⟨d', hd', hlt⟩ | ⟨g, hg, -⟩
          · cases hd'
            simp [Array.getElem?_eq_getElem hlt] at hd
          · cases hg
        simp [hnot]
      | some e₀ => by_cases hc : NodeId.dir d ∈ children <;> simp [hc]
  | .unit f 0 =>
    simp only [Walk.adopt, Walk.dirOf, getElem?_adoptFiles _ hroots]
    cases hf : w.files[f]? with
    | none =>
      -- a file root outside the table is listed by nobody
      have hnot : NodeId.unit f 0 ∉ children := fun hc => by
        rcases hkids _ hc with ⟨d', hd', -⟩ | ⟨g, hg, hlt⟩
        · cases hd'
        · cases hg
          simp [Array.getElem?_eq_getElem hlt] at hf
      simp [hnot]
    | some file => by_cases hc : NodeId.unit f 0 ∈ children <;> simp [hc]
  | .unit f (j + 1) =>
    have hnot : NodeId.unit f (j + 1) ∉ children := fun hc => by
      rcases hroots _ hc with ⟨d', hd'⟩ | ⟨g, hg⟩
      · cases hd'
      · cases hg
    simp [Walk.dirOf, hnot]

theorem size_adoptFiles (slot : Nat) (children : Array NodeId) (files : Array ParsedFile) :
    (adoptFiles slot children files).size = files.size := by
  refine Array.foldl_induction (fun _ (acc : Array ParsedFile) => acc.size = files.size) rfl ?_
  intro i acc h
  split <;> simp [h]

theorem Walk.dirOf_of_tables {w w' : Walk} (hd : w'.dirs = w.dirs) (hf : w'.files = w.files) :
    w'.dirOf = w.dirOf := by
  funext c
  match c with
  | .dir d => simp [Walk.dirOf, hd]
  | .unit f 0 => simp [Walk.dirOf, hf]
  | .unit f (j + 1) => rfl

/-- A walk with the tables of a linked walk is linked the same way. -/
theorem Walk.LinksOn.of_tables {w w' : Walk} {top : NodeId → Prop} (hl : w.Linked)
    (hd : w'.dirs = w.dirs) (hf : w'.files = w.files) : w.LinksOn w' top := by
  have hdir := Walk.dirOf_of_tables hd hf
  refine ⟨⟨fun d dir h => hl.nodup d dir (hd ▸ h), fun d dir h c hc => ?_, fun c d h => ?_⟩,
    fun c _ => by rw [hdir], fun c hc hnew => absurd ?_ hnew⟩
  · rw [hdir]
    exact hl.listed d dir (hd ▸ h) c hc
  · rw [hd]
    exact hl.adopted c d (hdir ▸ h)
  · unfold Walk.Listable at hc ⊢
    rwa [hd, hf] at hc

theorem Walk.dirOf_pushFile (w : Walk) (file : ParsedFile) (c : NodeId) :
    ({ w with files := w.files.push file } : Walk).dirOf c =
      if c = .unit w.files.size 0 then file.parent else w.dirOf c := by
  match c with
  | .dir d => simp [Walk.dirOf]
  | .unit f 0 =>
    simp only [Walk.dirOf, Array.getElem?_push, NodeId.unit.injEq, and_true]
    split <;> simp_all
  | .unit f (j + 1) => simp [Walk.dirOf]

theorem Walk.not_listable_newDir (w : Walk) : ¬ w.Listable (.dir w.dirs.size) := by
  rintro (⟨d, hd, hlt⟩ | ⟨f, hf, -⟩)
  · cases hd
    omega
  · cases hf

theorem Walk.not_listable_newFile (w : Walk) : ¬ w.Listable (.unit w.files.size 0) := by
  rintro (⟨d, hd, -⟩ | ⟨f, hf, hlt⟩)
  · cases hd
  · cases hf
    omega

theorem Walk.LinksOn.pushFile {w : Walk} (hw : w.WellFormed) (hl : w.Linked) {file : ParsedFile}
    (hparent : file.parent = none) :
    w.LinksOn { w with files := w.files.push file } (· = .unit w.files.size 0) := by
  have hdirOf := Walk.dirOf_pushFile w file
  have hold : ∀ c, w.Listable c → c ≠ .unit w.files.size 0 := fun c hc hc' =>
    w.not_listable_newFile (hc' ▸ hc)
  refine ⟨⟨hl.nodup, fun d dir hd c hc => ?_, fun c d h => ?_⟩, fun c hc => ?_,
    fun c hc hnot => ?_⟩
  · -- what a directory lists was in the walk already
    have hd' : w.dirs[d]? = some dir := hd
    have hlist : w.Listable c := by
      rcases hw.dirs d dir hd' c hc with ⟨d', rfl, hlt⟩ | ⟨f, rfl, hf⟩
      · exact .inl ⟨d', rfl, by have := (Array.getElem?_eq_some_iff.mp hd').1; omega⟩
      · exact .inr ⟨f, rfl, hf⟩
    rw [hdirOf, if_neg (hold c hlist)]
    exact hl.listed d dir hd c hc
  · rw [hdirOf] at h
    split at h
    · rw [hparent] at h
      cases h
    · exact hl.adopted c d h
  · rw [hdirOf, if_neg (hold c hc)]
  · obtain rfl : c = .unit w.files.size 0 := by
      rcases hc with ⟨d, rfl, hd⟩ | ⟨f, rfl, hf⟩
      · exact absurd (.inl ⟨d, rfl, hd⟩) hnot
      · have hf' : f = w.files.size := by
          by_contra hne
          exact hnot (.inr ⟨f, rfl, by simp at hf; omega⟩)
        rw [hf']
        rfl
    simp [hdirOf, hparent]

theorem Walk.children_adopt (w : Walk) (children : Array NodeId) (e : DirEntry) (d : Nat) :
    ((w.adopt children e).dirs[d]?).map (·.children) =
      if d = w.dirs.size then some e.children else (w.dirs[d]?).map (·.children) := by
  obtain ⟨hsize, hkeep⟩ := WalkSettings.adoptDirs_children w.dirs.size children w.dirs
  simp only [Walk.adopt, Array.getElem?_push, hsize]
  split
  · rfl
  · exact hkeep d

/-- A new directory that adopts children listed once, listable, and sitting in no directory
keeps a walk linked. -/
theorem Walk.Linked.adopt {w : Walk} (hl : w.Linked) {children : Array NodeId}
    (hkids : ∀ c ∈ children, w.Listable c) (hnodup : children.toList.Nodup)
    (horphan : ∀ c ∈ children, w.dirOf c = none) {e : DirEntry} (he : e.parent = none)
    (hch : e.children = children) : (w.adopt children e).Linked := by
  have hdirOf := Walk.dirOf_adopt hkids he
  -- a directory of the new walk lists what it listed before, or what the new one lists
  have hdir : ∀ d dir, (w.adopt children e).dirs[d]? = some dir →
      (d = w.dirs.size ∧ dir.children = children) ∨
        ∃ dir₀, w.dirs[d]? = some dir₀ ∧ dir.children = dir₀.children := by
    intro d dir h
    have hc := Walk.children_adopt w children e d
    rw [h, Option.map_some] at hc
    split at hc
    · exact .inl ⟨by assumption, by rw [← hch]; exact Option.some_inj.mp hc⟩
    · obtain ⟨dir₀, hdir₀, hch₀⟩ := Option.map_eq_some_iff.mp hc.symm
      exact .inr ⟨dir₀, hdir₀, hch₀.symm⟩
  refine ⟨fun d dir h => ?_, fun d dir h c hc => ?_, fun c d h => ?_⟩
  · rcases hdir d dir h with ⟨-, hc⟩ | ⟨dir₀, hdir₀, hc⟩ <;> rw [hc]
    · exact hnodup
    · exact hl.nodup d dir₀ hdir₀
  · rw [hdirOf]
    rcases hdir d dir h with ⟨rfl, hc'⟩ | ⟨dir₀, hdir₀, hc'⟩
    · rw [hc'] at hc
      simp [hc]
    · -- a child of an old directory sits in it, so it is none of the orphans adopted
      rw [hc'] at hc
      have hold := hl.listed d dir₀ hdir₀ c hc
      have hnot : c ∉ children := fun hmem => by simp [horphan c hmem] at hold
      simp [hnot, hold]
  · rw [hdirOf] at h
    split at h
    · rename_i hc
      cases h
      refine ⟨e, ?_, by rw [hch]; exact hc⟩
      have hs := (WalkSettings.adoptDirs_children w.dirs.size children w.dirs).1
      simp only [Walk.adopt, Array.getElem?_push, hs, if_true]
    · obtain ⟨dir₀, hdir₀, hc⟩ := hl.adopted c d h
      have hd : d < w.dirs.size := (Array.getElem?_eq_some_iff.mp hdir₀).1
      have hmap := Walk.children_adopt w children e d
      rw [if_neg (by omega), hdir₀, Option.map_some] at hmap
      obtain ⟨dir, hdir, hch'⟩ := Option.map_eq_some_iff.mp hmap
      exact ⟨dir, hdir, by rw [hch']; exact hc⟩

/-- A walk whose new orphans are the children a new directory lists, listed once and each new,
ends with the new directory as its only new orphan. -/
theorem Walk.LinksOn.adopt {w w' : Walk} {children : Array NodeId} (h : w.LinksOn w' (· ∈ children))
    (hkids : ∀ c ∈ children, w'.Listable c ∧ ¬ w.Listable c) (hnodup : children.toList.Nodup)
    {e : DirEntry} (he : e.parent = none) (hch : e.children = children) :
    w.LinksOn (w'.adopt children e) (· = .dir w'.dirs.size) := by
  have hdirOf := Walk.dirOf_adopt (fun c hc => (hkids c hc).1) he
  have horphan : ∀ c ∈ children, w'.dirOf c = none := fun c hc =>
    (h.top_iff c (hkids c hc).1 (hkids c hc).2).mpr hc
  have hsize : (w'.adopt children e).dirs.size = w'.dirs.size + 1 := by
    simp [Walk.adopt, (WalkSettings.adoptDirs_children w'.dirs.size children w'.dirs).1]
  have hfsize : (w'.adopt children e).files.size = w'.files.size := size_adoptFiles _ _ _
  refine ⟨h.linked.adopt (fun c hc => (hkids c hc).1) hnodup horphan he hch,
    fun c hc => ?_, fun c hc hnew => ?_⟩
  · have hnot : c ∉ children := fun hmem => (hkids c hmem).2 hc
    rw [hdirOf, if_neg hnot, h.keep c hc]
  · rw [hdirOf]
    by_cases hslot : c = .dir w'.dirs.size
    · subst hslot
      have hnot : NodeId.dir w'.dirs.size ∉ children := fun hmem =>
        w'.not_listable_newDir (hkids _ hmem).1
      simp [hnot, Walk.dirOf]
    · -- any other node of the new walk was in the walk before
      have hc' : w'.Listable c := by
        rcases hc with ⟨d, rfl, hd⟩ | ⟨f, rfl, hf⟩
        · have hne : d ≠ w'.dirs.size := fun hd' => hslot (by rw [hd'])
          exact .inl ⟨d, rfl, by omega⟩
        · exact .inr ⟨f, rfl, by omega⟩
      have horph := h.top_iff c hc' hnew
      by_cases hmem : c ∈ children <;> simp_all

/-! ### The shape of a visit

A visit of a directory with fuel left reads the directory's entries, takes them one by one, and
closes. The lemmas below say once what each of the three steps can do; every proof about a visit
goes through them. -/

namespace WalkSettings

variable (s : WalkSettings)

/-- The entries a visit of the directory at `dir` takes, and the walk after reading them: a
directory that cannot be read has no entries, and the walk records the failure. -/
def readDir (dir : String) (isRoot : Bool) (w : Walk) : List (String × Disk.Kind) × Walk :=
  match s.entries dir isRoot with
  | .ok names => (names, w)
  | .error e => ([], w.fail dir (.io dir e.message))

/-- What a visit of the directory at `dir` does with one of the entries it lists, given the
children and walk gathered so far. -/
def readEntry (fuel : Nat) (dir : String) :
    Array NodeId × Walk → String × Disk.Kind → Array NodeId × Walk :=
  fun (acc : Array NodeId × Walk) (name, kind) =>
    let (children, w) := acc
    let path := Path.join dir name
    if matchesAnySuffix s.ignore s.root path then acc
    else if kind == .directory then
      match s.visitDir fuel path false w with
      | (some slot, w) => (children.push (.dir slot), w)
      | (none, w) => (children, w)
    else if kind == .file || (kind == .link && s.disk.isFile s.cwd path) then
      match s.visitFile path w with
      | (some id, w) => (children.push id, w)
      | (none, w) => (children, w)
    else acc

/-- How a visit of the directory at `dir` ends with what it gathered: a directory that lists
nothing is dropped unless it is the root, and any other goes in the next slot. -/
def closeDir (dir : String) (isRoot : Bool) (acc : Array NodeId × Walk) : Option Nat × Walk :=
  if acc.1.isEmpty && !isRoot then (none, acc.2)
  else (some acc.2.dirs.size, acc.2.adopt acc.1
    { name := dirName s.disk s.cwd dir, path := dir, children := acc.1, parent := none })

/-- A visit with fuel left reads the directory, takes its entries one by one, then closes. -/
theorem visitDir_succ (fuel : Nat) (dir : String) (isRoot : Bool) (w : Walk) :
    s.visitDir (fuel + 1) dir isRoot w =
      s.closeDir dir isRoot ((s.readDir dir isRoot w).1.foldl (s.readEntry fuel dir)
        (#[], (s.readDir dir isRoot w).2)) := by
  rw [visitDir]
  rfl

/-- Reading a directory keeps the tables of the walk. -/
theorem readDir_tables (dir : String) (isRoot : Bool) (w : Walk) :
    (s.readDir dir isRoot w).2.dirs = w.dirs ∧ (s.readDir dir isRoot w).2.files = w.files := by
  unfold readDir
  split <;> exact ⟨rfl, rfl⟩

/-- One entry of a directory leaves what the visit gathered as it was, or visits a directory
inside, listing its slot if it is kept, or visits a file, listing its root if it is kept. -/
theorem readEntry_cases (fuel : Nat) (dir name : String) (kind : Disk.Kind) (children : Array NodeId)
    (w : Walk) :
    s.readEntry fuel dir (children, w) (name, kind) = (children, w) ∨
    (∃ slot w', s.visitDir fuel (Path.join dir name) false w = (some slot, w') ∧
      s.readEntry fuel dir (children, w) (name, kind) = (children.push (.dir slot), w')) ∨
    (∃ w', s.visitDir fuel (Path.join dir name) false w = (none, w') ∧
      s.readEntry fuel dir (children, w) (name, kind) = (children, w')) ∨
    (∃ c w', s.visitFile (Path.join dir name) w = (some c, w') ∧
      s.readEntry fuel dir (children, w) (name, kind) = (children.push c, w')) ∨
    (∃ w', s.visitFile (Path.join dir name) w = (none, w') ∧
      s.readEntry fuel dir (children, w) (name, kind) = (children, w')) := by
  unfold readEntry
  dsimp only
  split
  · -- an ignored entry
    exact .inl rfl
  split
  · -- a directory
    rcases s.visitDir fuel (Path.join dir name) false w with ⟨_ | slot, w'⟩
    · exact .inr (.inr (.inl ⟨w', rfl, rfl⟩))
    · exact .inr (.inl ⟨slot, w', rfl, rfl⟩)
  split
  · -- a file, or a link to one
    rcases s.visitFile (Path.join dir name) w with ⟨_ | c, w'⟩
    · exact .inr (.inr (.inr (.inr ⟨w', rfl, rfl⟩)))
    · exact .inr (.inr (.inr (.inl ⟨c, w', rfl, rfl⟩)))
  · -- anything else is passed over
    exact .inl rfl

/-- A visit drops a directory other than the root that kept nothing, and otherwise adds it in
the next slot as the directory of what it kept. -/
theorem closeDir_cases (dir : String) (isRoot : Bool) (children : Array NodeId) (w : Walk) :
    (children = #[] ∧ isRoot = false ∧ s.closeDir dir isRoot (children, w) = (none, w)) ∨
    s.closeDir dir isRoot (children, w) = (some w.dirs.size, w.adopt children
      { name := dirName s.disk s.cwd dir, path := dir, children, parent := none }) := by
  unfold closeDir
  dsimp only
  split
  · rename_i h
    simp only [Bool.and_eq_true, Array.isEmpty_iff, Bool.not_eq_eq_eq_not, Bool.not_true] at h
    exact .inl ⟨h.1, h.2, rfl⟩
  · exact .inr rfl

theorem visitDir_spec :
    ∀ (fuel : Nat) (dir : String) (isRoot : Bool) (w : Walk), w.WellFormed →
      (s.visitDir fuel dir isRoot w).2.WellFormed ∧ w.Grows (s.visitDir fuel dir isRoot w).2 ∧
        ∀ slot, (s.visitDir fuel dir isRoot w).1 = some slot →
          slot < (s.visitDir fuel dir isRoot w).2.dirs.size
  | 0, _, _, w, hw => ⟨hw, ⟨le_rfl, le_rfl⟩, fun _ h => by cases h⟩
  | fuel + 1, dir, isRoot, w, hw => by
    rw [visitDir_succ]
    -- reading the directory keeps the walk's tables
    obtain ⟨hd1, hf1⟩ := s.readDir_tables dir isRoot w
    generalize s.readDir dir isRoot w = r at hd1 hf1
    obtain ⟨names, w1⟩ := r
    dsimp only at hd1 hf1
    have hgathered : Gathered w1 (names.foldl (s.readEntry fuel dir) (#[], w1)) := by
      refine List.foldlRecOn names _ (motive := Gathered w1)
        ⟨hw.of_tables hd1 hf1, ⟨le_rfl, le_rfl⟩, by simp⟩ fun acc hacc entry _ => ?_
      obtain ⟨kids, w'⟩ := acc
      obtain ⟨hw', hg', hkids⟩ := hacc
      obtain ⟨name, kind⟩ := entry
      rcases s.readEntry_cases fuel dir name kind kids w' with
        h | ⟨slot, w'', hv, h⟩ | ⟨w'', hv, h⟩ | ⟨c, w'', hv, h⟩ | ⟨w'', hv, h⟩ <;> rw [h]
      · exact ⟨hw', hg', hkids⟩
      · -- a directory inside, kept: its walk keeps the invariant, and its slot can be listed
        obtain ⟨hwd, hgd, hslot⟩ := visitDir_spec fuel (Path.join dir name) false w' hw'
        rw [hv] at hwd hgd hslot
        refine ⟨hwd, hg'.trans hgd, fun c hc => ?_⟩
        rcases Array.mem_push.mp hc with hc | rfl
        · exact (hkids c hc).mono hgd
        · exact .inl ⟨slot, rfl, hslot slot rfl⟩
      · obtain ⟨hwd, hgd, -⟩ := visitDir_spec fuel (Path.join dir name) false w' hw'
        rw [hv] at hwd hgd
        exact ⟨hwd, hg'.trans hgd, fun c hc => (hkids c hc).mono hgd⟩
      · -- a file inside, kept: its root can be listed
        obtain ⟨hwf, hgf, hroot⟩ := s.visitFile_spec (Path.join dir name) hw'
        rw [hv] at hwf hgf hroot
        refine ⟨hwf, hg'.trans hgf, fun c' hc => ?_⟩
        rcases Array.mem_push.mp hc with hc | rfl
        · exact (hkids c' hc).mono hgf
        · exact hroot _ rfl
      · obtain ⟨hwf, hgf, -⟩ := s.visitFile_spec (Path.join dir name) hw'
        rw [hv] at hwf hgf
        exact ⟨hwf, hg'.trans hgf, fun c hc => (hkids c hc).mono hgf⟩
    generalize names.foldl (s.readEntry fuel dir) (#[], w1) = acc at hgathered
    obtain ⟨children, w2⟩ := acc
    obtain ⟨hw2, hg2, hkids⟩ : w2.WellFormed ∧ w1.Grows w2 ∧ ∀ c ∈ children, w2.Listable c :=
      hgathered
    have hg1 : w.Grows w1 := ⟨by rw [hd1], by rw [hf1]⟩
    rcases s.closeDir_cases dir isRoot children w2 with ⟨-, -, h⟩ | h
    · rw [h]
      exact ⟨hw2, hg1.trans hg2, fun _ h => by cases h⟩
    -- the new directory goes in the next slot, after everything it lists
    rw [h]
    dsimp only
    have hdsize := (adoptDirs_children w2.dirs.size children w2.dirs).1
    have hfsize := size_adoptFiles w2.dirs.size children w2.files
    refine ⟨hw2.adopt hkids rfl, ⟨?_, ?_⟩, fun slot hslot => ?_⟩
    · simp only [Walk.adopt_dirs, Array.size_push, hdsize]
      have := hg1.1
      have := hg2.1
      omega
    · simp only [Walk.adopt_files, hfsize]
      exact (hg1.trans hg2).2
    · cases hslot
      simp [Walk.adopt_dirs, hdsize]

theorem visitFile_linksOn (path : String) {w : Walk} (hw : w.WellFormed) (hl : w.Linked) :
    w.LinksOn (s.visitFile path w).2 (fun c => (s.visitFile path w).1 = some c) ∧
      ∀ c, (s.visitFile path w).1 = some c → ¬ w.Listable c := by
  rcases s.visitFile_cases path w with h | ⟨name, structured, file, hload, h⟩ | ⟨e, h⟩ <;> rw [h]
  · exact ⟨.refl hl, fun c hc => by cases hc⟩
  · refine ⟨(Walk.LinksOn.pushFile hw hl (Loader.load_parent hload)).congr fun c _ _ => ?_,
      fun c hc => ?_⟩
    · simp [NodeId.fileRoot, eq_comm]
    · cases hc
      exact w.not_listable_newFile
  · exact ⟨.of_tables hl rfl rfl, fun c hc => by cases hc⟩

/-- What the reading of a directory's entries gathers: a well-formed walk grown from `w`, and
new children listed once, which are the nodes added in no directory. -/
def Linking (w : Walk) (acc : Array NodeId × Walk) : Prop :=
  acc.2.WellFormed ∧ w.Grows acc.2 ∧ (∀ c ∈ acc.1, acc.2.Listable c ∧ ¬ w.Listable c) ∧
    acc.1.toList.Nodup ∧ w.LinksOn acc.2 (· ∈ acc.1)

/-- One more child gathered after a visit that adds it as its only node in no directory. -/
theorem Linking.push {w w' w'' : Walk} {kids : Array NodeId} {n : NodeId} (h : Linking w (kids, w'))
    (hw'' : w''.WellFormed) (hg : w'.Grows w'') (hlinks : w'.LinksOn w'' (· = n))
    (hnew : ¬ w'.Listable n) (hlist : w''.Listable n) : Linking w (kids.push n, w'') := by
  obtain ⟨-, hgw, hkids, hnodup, hlinks'⟩ := h
  refine ⟨hw'', hgw.trans hg, fun c hc => ?_, ?_, (hlinks'.trans hlinks hgw).congr fun c _ _ => ?_⟩
  · rcases Array.mem_push.mp hc with hc | rfl
    · exact ⟨(hkids c hc).1.mono hg, (hkids c hc).2⟩
    · exact ⟨hlist, fun hold => hnew (hold.mono hgw)⟩
  · rw [Array.toList_push, List.nodup_append]
    refine ⟨hnodup, List.nodup_singleton n, fun a ha b hb hab => ?_⟩
    rw [List.mem_singleton] at hb
    subst hb hab
    exact hnew (hkids a (Array.mem_toList_iff.mp ha)).1
  · -- an old child was in the walk before the visit, the new one was not
    rw [Array.mem_push]
    constructor
    · rintro (⟨-, hk⟩ | ⟨-, rfl⟩)
      · exact .inl hk
      · exact .inr rfl
    · rintro (hk | rfl)
      · exact .inl ⟨(hkids c hk).1, hk⟩
      · exact .inr ⟨hnew, rfl⟩

/-- A visit that adds no node in no directory gathers no child. -/
theorem Linking.skip {w w' w'' : Walk} {kids : Array NodeId} (h : Linking w (kids, w'))
    (hw'' : w''.WellFormed) (hg : w'.Grows w'') (hlinks : w'.LinksOn w'' fun _ => False) :
    Linking w (kids, w'') := by
  obtain ⟨-, hgw, hkids, hnodup, hlinks'⟩ := h
  refine ⟨hw'', hgw.trans hg, fun c hc => ⟨(hkids c hc).1.mono hg, (hkids c hc).2⟩, hnodup,
    (hlinks'.trans hlinks hgw).congr fun c _ _ => ?_⟩
  constructor
  · rintro (⟨-, hk⟩ | ⟨-, hk⟩)
    · exact hk
    · exact hk.elim
  · exact fun hk => .inl ⟨(hkids c hk).1, hk⟩

theorem visitDir_linksOn :
    ∀ (fuel : Nat) (dir : String) (isRoot : Bool) (w : Walk), w.WellFormed → w.Linked →
      w.LinksOn (s.visitDir fuel dir isRoot w).2
          (fun c => (s.visitDir fuel dir isRoot w).1.map NodeId.dir = some c) ∧
        ∀ slot, (s.visitDir fuel dir isRoot w).1 = some slot → ¬ w.Listable (.dir slot)
  | 0, _, _, w, _, hl => ⟨.refl hl, fun _ h => by cases h⟩
  | fuel + 1, dir, isRoot, w, hw, hl => by
    rw [visitDir_succ]
    -- reading the directory keeps the walk's tables
    obtain ⟨hd1, hf1⟩ := s.readDir_tables dir isRoot w
    generalize s.readDir dir isRoot w = r at hd1 hf1
    obtain ⟨names, w1⟩ := r
    dsimp only at hd1 hf1
    have hlinking : Linking w (names.foldl (s.readEntry fuel dir) (#[], w1)) := by
      refine List.foldlRecOn names _ (motive := Linking w)
        ⟨hw.of_tables hd1 hf1, ⟨by rw [hd1], by rw [hf1]⟩, by simp, by simp,
          Walk.LinksOn.of_tables hl hd1 hf1⟩
        fun acc hacc entry _ => ?_
      obtain ⟨kids, w'⟩ := acc
      obtain ⟨name, kind⟩ := entry
      have hw' := hacc.1
      have hl' := hacc.2.2.2.2.linked
      rcases s.readEntry_cases fuel dir name kind kids w' with
        h | ⟨slot, w'', hv, h⟩ | ⟨w'', hv, h⟩ | ⟨c, w'', hv, h⟩ | ⟨w'', hv, h⟩ <;> rw [h]
      · exact hacc
      · -- a directory inside, kept: its visit adds its slot
        obtain ⟨hwd, hgd, hslot⟩ := visitDir_spec s fuel (Path.join dir name) false w' hw'
        obtain ⟨hld, hfresh⟩ := visitDir_linksOn fuel (Path.join dir name) false w' hw' hl'
        rw [hv] at hwd hgd hslot hld hfresh
        exact hacc.push hwd hgd (hld.congr fun c _ _ => by simp [eq_comm]) (hfresh slot rfl)
          (.inl ⟨slot, rfl, hslot slot rfl⟩)
      · obtain ⟨hwd, hgd, -⟩ := visitDir_spec s fuel (Path.join dir name) false w' hw'
        obtain ⟨hld, -⟩ := visitDir_linksOn fuel (Path.join dir name) false w' hw' hl'
        rw [hv] at hwd hgd hld
        exact hacc.skip hwd hgd (hld.congr fun c _ _ => by simp)
      · -- a file inside, kept: its root is new
        obtain ⟨hwf, hgf, hroot⟩ := s.visitFile_spec (Path.join dir name) hw'
        obtain ⟨hlf, hfresh⟩ := s.visitFile_linksOn (Path.join dir name) hw' hl'
        rw [hv] at hwf hgf hroot hlf hfresh
        exact hacc.push hwf hgf (hlf.congr fun c _ _ => by simp [eq_comm]) (hfresh c rfl)
          (hroot c rfl)
      · obtain ⟨hwf, hgf, -⟩ := s.visitFile_spec (Path.join dir name) hw'
        obtain ⟨hlf, -⟩ := s.visitFile_linksOn (Path.join dir name) hw' hl'
        rw [hv] at hwf hgf hlf
        exact hacc.skip hwf hgf (hlf.congr fun c _ _ => by simp)
    generalize names.foldl (s.readEntry fuel dir) (#[], w1) = acc at hlinking
    obtain ⟨children, w2⟩ := acc
    obtain ⟨-, hg2, hkids, hnodup, hlinks⟩ := hlinking
    rcases s.closeDir_cases dir isRoot children w2 with ⟨hnone, -, h⟩ | h <;> rw [h]
    · -- nothing kept: no new node sits in no directory
      refine ⟨hlinks.congr fun c _ _ => ?_, fun _ h => by cases h⟩
      simp [hnone]
    · -- the new directory goes in the next slot and adopts what it lists
      refine ⟨(hlinks.adopt hkids hnodup rfl rfl).congr fun c _ _ => ?_, fun slot hslot => ?_⟩
      · simp [eq_comm]
      · cases hslot
        exact fun hold => w2.not_listable_newDir (hold.mono hg2)

end WalkSettings

/-- A directory visited as the root is kept whatever it holds. -/
theorem WalkSettings.visitDir_root (s : WalkSettings) (fuel : Nat) (dir : String) (w : Walk) :
    ∃ slot, (s.visitDir (fuel + 1) dir true w).1 = some slot := by
  rw [WalkSettings.visitDir_succ]
  generalize List.foldl _ _ _ = acc
  obtain ⟨children, w'⟩ := acc
  rcases s.closeDir_cases dir true children w' with ⟨-, hroot, -⟩ | h
  · cases hroot
  · exact ⟨_, by rw [h]⟩

theorem Walk.parent?_of_tables {w : Walk} {t : Tree} (hd : t.dirs = w.dirs) (hf : t.files = w.files) :
    ∀ c, ((∃ d, c = .dir d) ∨ ∃ g, c = .unit g 0) → t.parent? c = (w.dirOf c).map .dir := by
  rintro c (⟨d, rfl⟩ | ⟨g, rfl⟩) <;> simp [Tree.parent?, Walk.dirOf, hd, hf]

theorem Walk.Linked.wellFormed_of_tables {w : Walk} (hw : w.WellFormed) (hl : w.Linked) {t : Tree}
    (hd : t.dirs = w.dirs) (hf : t.files = w.files) : t.WellFormed := by
  have hpar := Walk.parent?_of_tables hd hf
  refine ⟨fun g file h => hw.files g file (hf ▸ h), fun d dir h c hc => ?_,
    fun d dir h => hl.nodup d dir (hd ▸ h), fun d dir h c hc => ?_, fun x d h => ?_⟩
  · rw [hf]
    exact hw.dirs d dir (hd ▸ h) c hc
  · -- a directory lists directories and file roots, which sit where the walk put them
    have hroot : (∃ d, c = .dir d) ∨ ∃ g, c = .unit g 0 := by
      rcases hw.dirs d dir (hd ▸ h) c hc with ⟨d', rfl, -⟩ | ⟨g, rfl, -⟩
      · exact .inl ⟨d', rfl⟩
      · exact .inr ⟨g, rfl⟩
    rw [hpar c hroot, hl.listed d dir (hd ▸ h) c hc]
    rfl
  · have hroot : (∃ d, x = .dir d) ∨ ∃ g, x = .unit g 0 := by
      match x with
      | .dir d' => exact .inl ⟨d', rfl⟩
      | .unit g 0 => exact .inr ⟨g, rfl⟩
      | .unit g (j + 1) => exact (Tree.parent?_unit_succ_ne_dir t g j d h).elim
    rw [hpar x hroot] at h
    obtain ⟨d', hd', hdd⟩ := Option.map_eq_some_iff.mp h
    cases hdd
    rw [hd]
    exact hl.adopted x d hd'

theorem Walk.single_wellFormed {file : ParsedFile} (hfile : file.WellFormed) :
    ({ files := #[file] } : Walk).WellFormed := by
  refine ⟨fun g file' hg => ?_, fun d dir hd => by simp at hd⟩
  obtain rfl : file = file' := by cases g <;> simp_all
  exact hfile

theorem Walk.single_linked {file : ParsedFile} (hp : file.parent = none) :
    ({ files := #[file] } : Walk).Linked := by
  refine ⟨fun d dir hd => by simp at hd, fun d dir hd => by simp at hd, fun c d h => ?_⟩
  match c, h with
  | .dir _, h => simp [Walk.dirOf] at h
  | .unit 0 0, h => simp [Walk.dirOf, hp] at h
  | .unit (g + 1) 0, h => simp [Walk.dirOf] at h

theorem Walk.empty_linked : ({} : Walk).Linked := by
  refine ⟨fun d dir hd => by simp at hd, fun d dir hd => by simp at hd, fun c d h => ?_⟩
  match c, h with
  | .dir _, h => simp [Walk.dirOf] at h
  | .unit _ 0, h => simp [Walk.dirOf] at h

theorem Walk.not_listable_empty (c : NodeId) : ¬ ({} : Walk).Listable c := by
  rintro (⟨d, -, hd⟩ | ⟨g, -, hg⟩)
  · exact Nat.not_lt_zero d hd
  · exact Nat.not_lt_zero g hg

theorem Walk.empty_wellFormed : ({} : Walk).WellFormed :=
  ⟨fun f file hf => by rw [show ({} : Walk).files = #[] from rfl] at hf; simp at hf,
    fun d dir hd => by rw [show ({} : Walk).dirs = #[] from rfl] at hd; simp at hd⟩

/-- A build that succeeds gives either the tree of the root's one file, in no directory, or the
tree of a walk from the root directory, under settings made of the build's own builder, disk,
directory and root. Proofs about built trees start here rather than from the build itself. -/
theorem Builder.build_eq_ok_cases {b : Builder} {d : Disk} {cwd : List String} {root : String}
    {t : Tree} (h : b.build d cwd root = .ok t) :
    (∃ file, b.loader.load d cwd root ((Path.stem? root).getD "") true = .ok file ∧
      t = { root := .fileRoot 0, dirs := #[], files := #[file], failures := #[],
            loader := b.loader }) ∨
    ∃ s : WalkSettings, s.builder = b ∧ s.disk = d ∧ s.cwd = cwd ∧ s.root = root ∧
      t = { root := .dir ((s.visitDir (d.entries.length + 1) root true {}).1.getD 0),
            dirs := (s.visitDir (d.entries.length + 1) root true {}).2.dirs,
            files := (s.visitDir (d.entries.length + 1) root true {}).2.files,
            failures := (s.visitDir (d.entries.length + 1) root true {}).2.failures,
            loader := b.loader } := by
  unfold Builder.build at h
  split at h
  · cases h
  split at h
  · simp only [bind, Except.bind] at h
    split at h
    · cases h
    · rename_i file hload
      cases h
      exact .inl ⟨file, hload, rfl⟩
  · -- a failed glob is an error, so both compiled
    simp only [bind, Except.bind] at h
    split at h
    · cases h
    split at h
    · cases h
    rename_i ignore _ _ includes _
    cases h
    exact .inr ⟨{ builder := b, disk := d, cwd, root, ignore, includes }, rfl, rfl, rfl, rfl, rfl⟩

/-- A tree built from a disk is well formed. -/
theorem Builder.build_wellFormed {b : Builder} {d : Disk} {cwd : List String} {root : String}
    {t : Tree} (h : b.build d cwd root = .ok t) : t.WellFormed := by
  rcases Builder.build_eq_ok_cases h with ⟨file, hload, rfl⟩ | ⟨s, -, -, -, -, rfl⟩
  · -- a root that is a file gives a tree of that one file, in no directory
    exact (Walk.single_linked (Loader.load_parent hload)).wellFormed_of_tables
      (Walk.single_wellFormed (Loader.load_wellFormed hload)) rfl rfl
  · -- the walk starts empty
    obtain ⟨hw, -, -⟩ := s.visitDir_spec _ _ _ _ Walk.empty_wellFormed
    obtain ⟨hlinks, -⟩ := s.visitDir_linksOn _ _ _ _ Walk.empty_wellFormed Walk.empty_linked
    exact hlinks.linked.wellFormed_of_tables hw rfl rfl

theorem WalkSettings.rooted_of_visit (s : WalkSettings) (fuel : Nat) (dir : String) {t : Tree}
    (hwf : t.WellFormed) (hd : t.dirs = (s.visitDir (fuel + 1) dir true {}).2.dirs)
    (hf : t.files = (s.visitDir (fuel + 1) dir true {}).2.files)
    (hr : t.root = .dir (((s.visitDir (fuel + 1) dir true {}).1).getD 0)) : t.Rooted := by
  obtain ⟨hlinks, -⟩ := s.visitDir_linksOn (fuel + 1) dir true {} Walk.empty_wellFormed
    Walk.empty_linked
  obtain ⟨slot, hslot⟩ := s.visitDir_root fuel dir {}
  have hpar := Walk.parent?_of_tables hd hf
  intro x hx hnone
  match x with
  | .dir d =>
    -- a directory in no directory is the top of the walk, and the top is the root's slot
    have hlist : (s.visitDir (fuel + 1) dir true {}).2.Listable (.dir d) :=
      .inl ⟨d, rfl, by simpa [Tree.contains, hd] using hx⟩
    rw [hpar _ (.inl ⟨d, rfl⟩), Option.map_eq_none_iff] at hnone
    have htop := (hlinks.top_iff _ hlist (Walk.not_listable_empty _)).mp hnone
    rw [hslot, Option.map_some, Option.some_inj, NodeId.dir.injEq] at htop
    rw [hr, hslot, htop]
    rfl
  | .unit g 0 =>
    -- a file's root is adopted by the directory that read it, so it is never the top
    have hlist : (s.visitDir (fuel + 1) dir true {}).2.Listable (.unit g 0) := by
      refine .inr ⟨g, rfl, ?_⟩
      cases hg : t.files[g]? with
      | none => simp [Tree.contains, hg] at hx
      | some file =>
        rw [← hf]
        exact (Array.getElem?_eq_some_iff.mp hg).1
    rw [hpar _ (.inr ⟨g, rfl⟩), Option.map_eq_none_iff] at hnone
    have htop := (hlinks.top_iff _ hlist (Walk.not_listable_empty _)).mp hnone
    rw [hslot] at htop
    cases htop
  | .unit g (j + 1) =>
    -- a node inside a file sits in a node of the same file
    cases hg : t.files[g]? with
    | none => simp [Tree.contains, hg] at hx
    | some file =>
      have hj : j + 1 < file.nodes.size := by simpa [Tree.contains, hg] using hx
      obtain ⟨p, -, hp⟩ := Tree.exists_parent?_unit hwf hg (by omega) hj
      rw [hp] at hnone
      cases hnone

/-- The root of a tree built from a disk is its only node that sits in nothing. -/
theorem Builder.build_rooted {b : Builder} {d : Disk} {cwd : List String} {root : String}
    {t : Tree} (h : b.build d cwd root = .ok t) : t.Rooted := by
  have hwf := Builder.build_wellFormed h
  rcases Builder.build_eq_ok_cases h with ⟨file, -, rfl⟩ | ⟨s, -, -, -, -, rfl⟩
  · -- the one file of the tree is its root
    intro x hx hnone
    match x with
    | .dir _ => simp [Tree.contains] at hx
    | .unit 0 0 => rfl
    | .unit (g + 1) 0 => simp [Tree.contains] at hx
    | .unit 0 (j + 1) =>
      obtain ⟨p, -, hp⟩ := Tree.exists_parent?_unit (f := 0) (i := j + 1) hwf rfl (by omega)
        (by simpa [Tree.contains] using hx)
      rw [hp] at hnone
      cases hnone
    | .unit (g + 1) (j + 1) => simp [Tree.contains] at hx
  · exact s.rooted_of_visit _ _ hwf rfl rfl rfl

end Arbor
