import Arbor.Proofs.Disk.Listing
import Arbor.Proofs.Tree.Order
import Mathlib
/-!
What a build reads from a finite tree of directories and files.
-/

namespace Arbor

open Arbor.Disk Arbor.Disk.Path Arbor.Glob

/-! ### Paths built from names -/

/-- Whether a glob matches a trailing run of the names of a relative path. -/
def suffixMatches (globs : List Glob) (rel : List String) : Bool :=
  (List.range rel.length).any fun i => globs.any (·.matches ("/".intercalate (rel.drop i)))

theorem ofParts_names (names : List String) : ofParts (names.map .name) = "/".intercalate names := by
  unfold ofParts
  congr 1
  induction names with
  | nil => rfl
  | cons n names ih => simp only [List.map_cons, ih]

theorem matchesAnySuffix_joinNames {rel : List String} (h : ∀ n ∈ rel, IsName n)
    (globs : List Glob) (root : String) :
    matchesAnySuffix globs root (joinNames root rel) = suffixMatches globs rel := by
  simp only [matchesAnySuffix, partsUnder?_joinNames h, Option.getD_some, List.length_map,
    suffixMatches, ← List.map_drop, ofParts_names]

/-- How a build reads a file at a relative path, by its name: outlined under its stem when its
extension is one of the builder's, kept whole under its name when an include glob matches a
trailing run of the path, and not at all otherwise. -/
def Builder.readingOf (b : Builder) (includes : List Glob) (rel : List String) :
    Option (String × Bool) :=
  let name := rel.getLast?.getD ""
  if b.isSource name then some ((splitName name).1, true)
  else if suffixMatches includes rel then some (name, false)
  else none

theorem fileName?_of_isName {n : String} (hn : IsName n) : fileName? n = some n := by
  have h := fileName?_join (a := "") hn
  rwa [join, if_pos (by simp)] at h

/-- Whether a file is outlined depends on its name alone. -/
theorem Builder.isSource_join (b : Builder) (p : String) {n : String} (hn : IsName n) :
    b.isSource (join p n) = b.isSource n := by
  simp only [Builder.isSource, extension?, fileName?_join hn, fileName?_of_isName hn]

/-! ### Walks over a plain disk -/

/-- Walk settings over a plain disk whose root path leads to a directory at `R`, where the system
takes the path of every entry below the root: the root's text joined with the names of the
entry's place below `R`. -/
structure WalkSettings.Plain (s : WalkSettings) (R : List String) : Prop where
  disk : s.disk.Plain
  root : s.disk.locate s.cwd s.root true = .ok (.found R .directory)
  fit : ∀ x ∈ s.disk.entries, R <+: x.1 → checkText (joinNames s.root (x.1.drop R.length)) = .ok ()

namespace WalkSettings.Plain

variable {s : WalkSettings} {R : List String} (hs : s.Plain R)
include hs

theorem isName_of_mem {rel : List String} {e : Entry} (h : (R ++ rel, e) ∈ s.disk.entries) :
    ∀ n ∈ rel, IsName n :=
  fun n hn => hs.disk.names _ h n (List.mem_append_right R hn)

theorem dir_of_mem {rel : List String} {n : String} {e : Entry}
    (h : (R ++ rel ++ [n], e) ∈ s.disk.entries) (hrel : rel ≠ []) :
    (R ++ rel, Entry.directory) ∈ s.disk.entries := by
  have hne : R ++ rel ≠ [] := by simp [hrel]
  have hdir := hs.disk.closed.isDirAt_of_prefix
    (entry?_of_mem hs.disk.nodup (by simp) h) (List.prefix_append _ _)
    (by simp)
  exact mem_of_entry?_eq_some hne (isDirAt_iff.mp hdir)

theorem locate_root (last : Bool) :
    s.disk.locate s.cwd s.root last = .ok (.found R .directory) := by
  cases last
  · rw [← locate_true hs.disk.noLinks]
    exact hs.root
  · exact hs.root

theorem locate_joinNames (last : Bool) (rel : List String) :
    ∀ e, (R ++ rel, e) ∈ s.disk.entries → rel ≠ [] →
      s.disk.locate s.cwd (joinNames s.root rel) last = .ok (.found (R ++ rel) e) := by
  induction rel using List.reverseRecOn with
  | nil => exact fun _ _ h => absurd rfl h
  | append_singleton rel n ih =>
    intro e he _
    rw [← List.append_assoc] at he
    -- the directory holding the entry is reached first, then the entry's name in it
    have hdir : s.disk.locate s.cwd (joinNames s.root rel) last =
        .ok (.found (R ++ rel) .directory) := by
      by_cases hrel : rel = []
      · subst hrel
        simpa using hs.locate_root last
      · exact ih _ (hs.dir_of_mem he hrel) hrel
    have hfit := hs.fit _ he (by rw [List.append_assoc]; exact List.prefix_append _ _)
    simp only [List.append_assoc, List.drop_left] at hfit
    have hn : IsName n := hs.isName_of_mem (by rwa [List.append_assoc] at he) n (by simp)
    rw [joinNames_concat] at hfit ⊢
    rw [locate_join hs.disk.noLinks hdir hn hfit last, targetIn,
      entry?_of_mem hs.disk.nodup (by simp) he, List.append_assoc]

theorem locate_dir {rel : List String}
    (hdir : rel = [] ∨ (R ++ rel, Entry.directory) ∈ s.disk.entries) (last : Bool) :
    s.disk.locate s.cwd (joinNames s.root rel) last = .ok (.found (R ++ rel) .directory) := by
  by_cases hrel : rel = []
  · subst hrel
    simpa using hs.locate_root last
  · exact hs.locate_joinNames last rel _ (hdir.resolve_left hrel) hrel

theorem entries_eq {rel : List String}
    (hdir : rel = [] ∨ (R ++ rel, Entry.directory) ∈ s.disk.entries) (isRoot : Bool) :
    s.entries (joinNames s.root rel) isRoot =
      .ok ((s.disk.childrenOf (R ++ rel)).map fun x => (x.1, x.2.kind)) := by
  simp only [WalkSettings.entries, lstat, hs.locate_dir hdir false]
  exact readDir_of_locate (hs.locate_dir hdir true)

theorem contents_eq {rel : List String} {bytes : ByteArray} {ro : Bool}
    (h : (R ++ rel, Entry.file bytes ro) ∈ s.disk.entries) (hrel : rel ≠ []) :
    s.disk.contents s.cwd (joinNames s.root rel) = .ok bytes := by
  simp only [contents, stat, hs.locate_joinNames true rel _ h hrel]

end WalkSettings.Plain

/-! ### What a walk reads -/

def ParsedFile.detached (f : ParsedFile) : ParsedFile := { f with parent := none }

/-- What a build makes of the file at `rel` below the root `R`: the file as the loader reads it,
or the failure to decode it; nothing where it reads no file. -/
def WalkSettings.outcome (s : WalkSettings) (R rel : List String) :
    Option (Except Failure ParsedFile) :=
  match s.disk.entry? (R ++ rel), s.builder.readingOf s.includes rel with
  | some (.file bytes _), some (name, structured) =>
    let path := joinNames s.root rel
    some (match s.builder.loader.encoding.decode bytes with
      | .ok text => .ok (s.builder.loader.parseText path name text structured)
      | .error _ => .error ⟨path, .decode path s.builder.loader.encoding.name⟩)
  | _, _ => none

/-- The file a build reads at `rel` below the root, if it reads one. -/
def WalkSettings.fileAt (s : WalkSettings) (R rel : List String) : Option ParsedFile :=
  (s.outcome R rel).bind Except.toOption

/-- The failure a build records at `rel` below the root, if it records one. -/
def WalkSettings.failureAt (s : WalkSettings) (R rel : List String) : Option Failure :=
  (s.outcome R rel).bind fun
    | .error e => some e
    | .ok _ => none

/-- From walk `w` to walk `w'`, the files at `rels` below the root were read in that order: each
added the file read, whatever directory now holds it, or the failure to decode it. -/
structure WalkSettings.Produces (s : WalkSettings) (R : List String) (rels : List (List String))
    (w w' : Walk) : Prop where
  files : w'.files.toList.map ParsedFile.detached =
    w.files.toList.map ParsedFile.detached ++ rels.filterMap (s.fileAt R)
  failures : w'.failures.toList = w.failures.toList ++ rels.filterMap (s.failureAt R)

namespace WalkSettings.Produces

variable {s : WalkSettings} {R : List String} {w w₁ w₂ : Walk}

theorem refl (w : Walk) : s.Produces R [] w w := ⟨by simp, by simp⟩

theorem trans {a b : List (List String)} (h₁ : s.Produces R a w w₁) (h₂ : s.Produces R b w₁ w₂) :
    s.Produces R (a ++ b) w w₂ :=
  ⟨by rw [h₂.files, h₁.files, List.filterMap_append, List.append_assoc],
    by rw [h₂.failures, h₁.failures, List.filterMap_append, List.append_assoc]⟩

/-- A walk with the same failures and the same files, but for the directories holding them,
read nothing. -/
theorem of_tables (hf : w₁.files.toList.map ParsedFile.detached =
    w.files.toList.map ParsedFile.detached) (hfl : w₁.failures = w.failures) :
    s.Produces R [] w w₁ :=
  ⟨by simpa using hf, by simp [hfl]⟩

end WalkSettings.Produces

/-- The files at relative paths strictly below `rel` that a walk from `rel` reaches: no ignore
glob matches a trailing run of a prefix of the path longer than `rel`. -/
def WalkSettings.FileBelow (s : WalkSettings) (R rel r : List String) : Prop :=
  rel <+: r ∧ rel.length < r.length ∧
    (∀ k, rel.length < k → k ≤ r.length → suffixMatches s.ignore (r.take k) = false) ∧
    ∃ bytes ro, (R ++ r, Entry.file bytes ro) ∈ s.disk.entries

theorem lt_of_prefix_child {rel r₁ r₂ : List String} {m n : String} (hmn : m < n)
    (h₁ : rel ++ [m] <+: r₁) (h₂ : rel ++ [n] <+: r₂) : r₁ < r₂ := by
  obtain ⟨t₁, rfl⟩ := h₁
  obtain ⟨t₂, rfl⟩ := h₂
  simp only [List.append_assoc, List.singleton_append]
  exact List.append_left_lt (List.cons_lt_cons_iff.mpr (.inl hmn))

theorem WalkSettings.fileBelow_append_iff (s : WalkSettings) (R : List String)
    {rel r : List String} {n : String} (hp : rel ++ [n] <+: r) :
    s.FileBelow R rel r ↔ suffixMatches s.ignore (rel ++ [n]) = false ∧
      (s.FileBelow R (rel ++ [n]) r ∨
        r = rel ++ [n] ∧ ∃ bytes ro, (R ++ r, Entry.file bytes ro) ∈ s.disk.entries) := by
  have hlen := hp.length_le
  have htake : r.take (rel.length + 1) = rel ++ [n] := by
    rw [List.prefix_iff_eq_take.mp hp]
    simp
  simp only [List.length_append, List.length_singleton] at hlen
  unfold WalkSettings.FileBelow
  constructor
  · rintro ⟨-, -, hign, hfile⟩
    refine ⟨by simpa [htake] using hign (rel.length + 1) (by omega) hlen, ?_⟩
    -- the file is the entry itself, or lies deeper below it
    by_cases hr : r = rel ++ [n]
    · exact .inr ⟨hr, hfile⟩
    · have hlt : rel.length + 1 < r.length := by
        refine Nat.lt_of_le_of_ne hlen fun heq => hr ?_
        exact (hp.eq_of_length (by simp [heq])).symm
      exact .inl ⟨hp, by simpa using hlt, fun k hk hkr => hign k (by simp at hk; omega) hkr, hfile⟩
  · rintro ⟨hn, ⟨-, hlt, hign, hfile⟩ | ⟨rfl, hfile⟩⟩
    · refine ⟨(List.prefix_append rel [n]).trans hp, by simp at hlt; omega, fun k hk hkr => ?_, hfile⟩
      -- the one prefix the entry's own condition leaves out is the entry itself
      by_cases hk' : k = rel.length + 1
      · rw [hk', htake]
        exact hn
      · exact hign k (by simp; omega) hkr
    · refine ⟨List.prefix_append _ _, by simp, fun k hk hkr => ?_, hfile⟩
      simp only [List.length_append, List.length_singleton] at hkr
      rw [show k = rel.length + 1 by omega, htake]
      exact hn

/-! ### What a walk keeps -/

/-- The path of a directory of a walk, or of the file that holds a node. -/
def Walk.pathOf (w : Walk) : NodeId → String
  | .dir k => ((w.dirs[k]?).map (·.path)).getD ""
  | .unit f _ => ((w.files[f]?).map (·.path)).getD ""

/-- `w'` keeps what `w` holds: the path and children of each directory and the path of each
file, with perhaps more after them. -/
structure Walk.Keeps (w w' : Walk) : Prop where
  grows : w.Grows w'
  dirs : ∀ k, k < w.dirs.size → (w'.dirs[k]?).map (fun e => (e.path, e.children)) =
    (w.dirs[k]?).map fun e => (e.path, e.children)
  files : ∀ f, f < w.files.size → (w'.files[f]?).map (·.path) = (w.files[f]?).map (·.path)

namespace Walk.Keeps

variable {w w₁ w₂ : Walk}

theorem refl (w : Walk) : w.Keeps w := ⟨⟨le_rfl, le_rfl⟩, fun _ _ => rfl, fun _ _ => rfl⟩

theorem trans (h₁ : w.Keeps w₁) (h₂ : w₁.Keeps w₂) : w.Keeps w₂ :=
  ⟨h₁.grows.trans h₂.grows,
    fun k hk => (h₂.dirs k (Nat.lt_of_lt_of_le hk h₁.grows.1)).trans (h₁.dirs k hk),
    fun f hf => (h₂.files f (Nat.lt_of_lt_of_le hf h₁.grows.2)).trans (h₁.files f hf)⟩

/-- A node a walk can list keeps its path. -/
theorem pathOf (h : w.Keeps w₁) {c : NodeId} (hc : w.Listable c) : w₁.pathOf c = w.pathOf c := by
  rcases hc with ⟨k, rfl, hk⟩ | ⟨f, rfl, hf⟩
  · have := congrArg (Option.map Prod.fst) (h.dirs k hk)
    simp only [Option.map_map] at this
    exact congrArg (Option.getD · "") this
  · exact congrArg (Option.getD · "") (h.files f hf)

end Walk.Keeps

/-- Walk `w` holds the nodes `children`, at the paths `dir` joined with `names`, one by one. -/
def Walk.ListsAs (w : Walk) (dir : String) (children : Array NodeId) (names : List String) : Prop :=
  (∀ c ∈ children, w.Listable c) ∧ children.toList.map w.pathOf = names.map (join dir)

/-- A directory of walk `w` that lists nodes the walk holds, each at the directory's path joined
with a name, the names in increasing order. -/
def Walk.ListsInOrder (w : Walk) (e : DirEntry) : Prop :=
  ∃ names : List String, names.Pairwise (· < ·) ∧ w.ListsAs e.path e.children names

namespace Walk.ListsAs

variable {w w₁ : Walk} {dir : String} {children : Array NodeId} {names : List String}

theorem of_keeps (h : w.ListsAs dir children names) (hk : w.Keeps w₁) :
    w₁.ListsAs dir children names := by
  refine ⟨fun c hc => (h.1 c hc).mono hk.grows, ?_⟩
  rw [← h.2]
  exact List.map_congr_left fun c hc => hk.pathOf (h.1 c (Array.mem_toList_iff.mp hc))

theorem push (h : w.ListsAs dir children names) {c : NodeId} (hc : w.Listable c) {n : String}
    (hpath : w.pathOf c = join dir n) : w.ListsAs dir (children.push c) (names ++ [n]) := by
  refine ⟨fun c' hc' => ?_, by simp [h.2, hpath]⟩
  rcases Array.mem_push.mp hc' with hc' | rfl
  · exact h.1 c' hc'
  · exact hc

end Walk.ListsAs

/-- The directory in slot `k` of walk `w` lists, in increasing order of name, nodes the walk
holds. -/
def Walk.InOrderAt (w : Walk) (k : Nat) : Prop := ∃ e, w.dirs[k]? = some e ∧ w.ListsInOrder e

def Walk.NonemptyAt (w : Walk) (k : Nat) : Prop := ∃ e, w.dirs[k]? = some e ∧ e.children ≠ #[]

namespace Walk.Keeps

variable {w w₁ : Walk}

/-- A directory a walk holds keeps its path and children. -/
theorem entry (h : w.Keeps w₁) {k : Nat} {e : DirEntry} (he : w.dirs[k]? = some e) :
    ∃ e₁, w₁.dirs[k]? = some e₁ ∧ e₁.path = e.path ∧ e₁.children = e.children := by
  have hkeep := h.dirs k (Array.getElem?_eq_some_iff.mp he).1
  rw [he] at hkeep
  cases he₁ : w₁.dirs[k]? with
  | none =>
    rw [he₁] at hkeep
    cases hkeep
  | some e₁ =>
    rw [he₁] at hkeep
    simp only [Option.map_some, Option.some.injEq, Prod.mk.injEq] at hkeep
    exact ⟨e₁, rfl, hkeep⟩

theorem inOrderAt (h : w.Keeps w₁) {k : Nat} (hk : w.InOrderAt k) : w₁.InOrderAt k := by
  obtain ⟨e, he, names, hsorted, hlists⟩ := hk
  obtain ⟨e₁, he₁, hpath, hchildren⟩ := h.entry he
  exact ⟨e₁, he₁, names, hsorted, by rw [hpath, hchildren]; exact hlists.of_keeps h⟩

theorem nonemptyAt (h : w.Keeps w₁) {k : Nat} (hk : w.NonemptyAt k) : w₁.NonemptyAt k := by
  obtain ⟨e, he, hne⟩ := hk
  obtain ⟨e₁, he₁, -, hchildren⟩ := h.entry he
  exact ⟨e₁, he₁, by rwa [hchildren]⟩

end Walk.Keeps

/-! ### One step of a walk at a time -/

theorem Walk.keeps_fail (w : Walk) (path : String) (e : TreeError) : w.Keeps (w.fail path e) :=
  ⟨⟨le_rfl, le_rfl⟩, fun _ _ => rfl, fun _ _ => rfl⟩

theorem Walk.keeps_pushFile (w : Walk) (file : ParsedFile) :
    w.Keeps { w with files := w.files.push file } :=
  ⟨⟨le_rfl, by simp⟩, fun _ _ => rfl, fun f hf => by simp [Array.getElem?_push, Nat.ne_of_lt hf]⟩

theorem Walk.keeps_adopt (w : Walk) {children : Array NodeId}
    (hroots : ∀ c ∈ children, (∃ d, c = .dir d) ∨ ∃ g, c = .unit g 0) (e : DirEntry) :
    w.Keeps (w.adopt children e) := by
  have hsize := (WalkSettings.adoptDirs_children w.dirs.size children w.dirs).1
  refine ⟨⟨by simp [Walk.adopt, hsize], by simp [Walk.adopt, size_adoptFiles]⟩,
    fun k hk => ?_, fun f _ => ?_⟩
  · rw [Walk.adopt, Array.getElem?_push, hsize, if_neg (Nat.ne_of_lt hk), getElem?_adoptDirs,
      Option.map_map]
    congr 1
    funext e
    split <;> rfl
  · rw [Walk.adopt, getElem?_adoptFiles _ hroots, Option.map_map]
    congr 1
    funext file
    split <;> rfl

theorem Walk.getElem?_adopt_size (w : Walk) (children : Array NodeId) (e : DirEntry) :
    (w.adopt children e).dirs[w.dirs.size]? = some e := by
  show ((adoptDirs w.dirs.size children w.dirs).push e)[w.dirs.size]? = some e
  rw [Array.getElem?_push, (WalkSettings.adoptDirs_children w.dirs.size children w.dirs).1,
    if_pos rfl]

theorem Walk.size_adopt (w : Walk) (children : Array NodeId) (e : DirEntry) :
    (w.adopt children e).dirs.size = w.dirs.size + 1 := by
  simp [Walk.adopt, (WalkSettings.adoptDirs_children w.dirs.size children w.dirs).1]

theorem map_detached_adoptFiles (slot : Nat) {children : Array NodeId}
    (hroots : ∀ c ∈ children, (∃ d, c = .dir d) ∨ ∃ g, c = .unit g 0) (files : Array ParsedFile) :
    (adoptFiles slot children files).toList.map ParsedFile.detached =
      files.toList.map ParsedFile.detached := by
  apply List.ext_getElem?
  intro f
  simp only [List.getElem?_map, Array.getElem?_toList, getElem?_adoptFiles _ hroots,
    Option.map_map]
  congr 1
  funext file
  split <;> rfl

theorem WalkSettings.produces_adopt (s : WalkSettings) (R : List String) (w : Walk)
    {children : Array NodeId} (hroots : ∀ c ∈ children, (∃ d, c = .dir d) ∨ ∃ g, c = .unit g 0)
    (e : DirEntry) : s.Produces R [] w (w.adopt children e) :=
  .of_tables (map_detached_adoptFiles _ hroots _) rfl

theorem detached_parseText (l : Loader) (path name text : String) (structured : Bool) :
    (l.parseText path name text structured).detached = l.parseText path name text structured := rfl

theorem readingOf_eq_kept (b : Builder) (includes : List Glob) (root : String)
    {rel : List String} (hnames : ∀ n ∈ rel, IsName n) (hrel : rel ≠ []) :
    (if b.isSource (joinNames root rel) then some ((stem? (joinNames root rel)).getD "", true)
      else if matchesAnySuffix includes root (joinNames root rel) then
        some ((fileName? (joinNames root rel)).getD "", false)
      else none) = b.readingOf includes rel := by
  rw [matchesAnySuffix_joinNames hnames]
  obtain ⟨rel, n, rfl⟩ := List.eq_nil_or_concat rel |>.resolve_left hrel
  have hn : IsName n := hnames n (by simp)
  simp only [List.concat_eq_append, joinNames_concat, b.isSource_join _ hn, stem?, fileName?_join hn, Builder.readingOf,
    List.getLast?_concat, Option.getD_some, Option.map_some]

namespace WalkSettings.Plain

variable {s : WalkSettings} {R : List String} (hs : s.Plain R)
include hs

theorem entry_unique {q : List String} {e e' : Entry} (h : (q, e) ∈ s.disk.entries)
    (h' : (q, e') ∈ s.disk.entries) : e = e' :=
  (Prod.ext_iff.mp (List.inj_on_of_nodup_map hs.disk.nodup h h' rfl)).2

theorem eq_of_not_dir {rel r : List String} {n : String} {e e' : Entry}
    (h : (R ++ rel ++ [n], e) ∈ s.disk.entries) (he : e ≠ .directory)
    (h' : (R ++ r, e') ∈ s.disk.entries) (hp : rel ++ [n] <+: r) : r = rel ++ [n] := by
  by_contra hne
  have hdir := hs.disk.closed.isDirAt_of_prefix (entry?_of_mem hs.disk.nodup (by simp [hp.ne_nil]) h')
    (show R ++ rel ++ [n] <+: R ++ r by rw [List.append_assoc]; exact (List.prefix_append_right_inj R).mpr hp)
    (by rw [List.append_assoc]; exact fun heq => hne (List.append_cancel_left heq).symm)
  rw [isDirAt_iff, entry?_of_mem hs.disk.nodup (by simp) h] at hdir
  exact he (Option.some_inj.mp hdir)

theorem exists_child {rel r : List String} {e : Entry} (h : (R ++ r, e) ∈ s.disk.entries)
    (hp : rel <+: r) (hlt : rel.length < r.length) :
    ∃ c ∈ s.disk.childrenOf (R ++ rel), rel ++ [c.1] <+: r := by
  obtain ⟨t, rfl⟩ := hp
  obtain ⟨n, t, rfl⟩ := List.exists_cons_of_ne_nil (by simp at hlt; exact List.ne_nil_of_length_pos hlt)
  have hpre : rel ++ [n] <+: rel ++ n :: t := ⟨t, by simp⟩
  by_cases ht : t = []
  · subst ht
    exact ⟨(n, e), mem_childrenOf.mpr (by simpa using h), hpre⟩
  · -- the entry's place is longer, so the place one name below the directory holds a directory
    have hdir := hs.disk.closed.isDirAt_of_prefix (entry?_of_mem hs.disk.nodup (by simp) h)
      (show R ++ rel ++ [n] <+: R ++ (rel ++ n :: t) from ⟨t, by simp⟩)
      (by simp [ht])
    refine ⟨(n, .directory), mem_childrenOf.mpr (mem_of_entry?_eq_some (by simp) ?_), hpre⟩
    exact isDirAt_iff.mp hdir

theorem outcome_eq {rel : List String} {bytes : ByteArray} {ro : Bool}
    (h : (R ++ rel, Entry.file bytes ro) ∈ s.disk.entries) (hrel : rel ≠ []) :
    s.outcome R rel = (s.builder.readingOf s.includes rel).map fun (name, structured) =>
      match s.builder.loader.encoding.decode bytes with
      | .ok text => .ok (s.builder.loader.parseText (joinNames s.root rel) name text structured)
      | .error _ => .error ⟨joinNames s.root rel,
          .decode (joinNames s.root rel) s.builder.loader.encoding.name⟩ := by
  unfold outcome
  rw [entry?_of_mem hs.disk.nodup (by simp [hrel]) h]
  cases s.builder.readingOf s.includes rel <;> rfl

theorem visitFile_reads {rel : List String} {bytes : ByteArray} {ro : Bool}
    (h : (R ++ rel, Entry.file bytes ro) ∈ s.disk.entries) (hrel : rel ≠ []) (w : Walk) :
    w.Keeps (s.visitFile (joinNames s.root rel) w).2 ∧
      s.Produces R [rel] w (s.visitFile (joinNames s.root rel) w).2 ∧
      ∀ c, (s.visitFile (joinNames s.root rel) w).1 = some c →
        c = .fileRoot w.files.size ∧
          (s.visitFile (joinNames s.root rel) w).2.pathOf c = joinNames s.root rel := by
  have hout := hs.outcome_eq h hrel
  unfold visitFile
  simp only []
  rw [readingOf_eq_kept _ _ _ (hs.isName_of_mem h) hrel]
  -- a file the builder does not read is passed over; one it reads is added, or recorded as a
  -- failure when its bytes do not decode
  cases hread : s.builder.readingOf s.includes rel with
  | none =>
    rw [hread, Option.map_none] at hout
    refine ⟨.refl w, ⟨by simp [fileAt, hout], by simp [failureAt, hout]⟩, fun c hc => by cases hc⟩
  | some reading =>
    obtain ⟨name, structured⟩ := reading
    rw [hread, Option.map_some] at hout
    simp only [Loader.load, hs.contents_eq h hrel]
    cases hdec : s.builder.loader.encoding.decode bytes with
    | ok text =>
      rw [hdec] at hout
      refine ⟨w.keeps_pushFile _, ⟨?_, by simp [failureAt, hout]⟩, fun c hc => ?_⟩
      · simp [fileAt, hout, Except.toOption, detached_parseText]
      · cases hc
        exact ⟨rfl, by simp [Walk.pathOf, NodeId.fileRoot, Loader.parseText, ParsedFile.make]⟩
    | error err =>
      rw [hdec] at hout
      refine ⟨w.keeps_fail _ _, ⟨by simp [fileAt, hout, Except.toOption, Walk.fail],
        by simp [failureAt, hout, Walk.fail]⟩, fun c hc => by cases hc⟩

end WalkSettings.Plain

/-! ### A visit of a directory, entry by entry -/

namespace WalkSettings

variable (s : WalkSettings)

/-- A visit of a directory that can be read takes its entries one by one, then closes. -/
theorem visitDir_succ_of_entries {fuel : Nat} {dir : String} {isRoot : Bool} {w : Walk}
    {names : List (String × Kind)} (h : s.entries dir isRoot = .ok names) :
    s.visitDir (fuel + 1) dir isRoot w =
      s.closeDir dir isRoot (names.foldl (s.readEntry fuel dir) (#[], w)) := by
  rw [visitDir, h]
  rfl

end WalkSettings

/-! ### What a visit gathers -/

/-- Every directory that walk `w'` adds to walk `w` lists something, in increasing order of
name. -/
def Walk.AddsListed (w w' : Walk) : Prop :=
  ∀ k, w.dirs.size ≤ k → k < w'.dirs.size → w'.InOrderAt k ∧ w'.NonemptyAt k

theorem Walk.AddsListed.refl (w : Walk) : w.AddsListed w := fun _ h h' => absurd h' (by omega)

theorem Walk.AddsListed.trans {w w₁ w₂ : Walk} (h₁ : w.AddsListed w₁) (hk : w₁.Keeps w₂)
    (h₂ : w₁.AddsListed w₂) : w.AddsListed w₂ := by
  intro k hk₀ hk₂
  by_cases hk₁ : k < w₁.dirs.size
  · obtain ⟨hord, hne⟩ := h₁ k hk₀ hk₁
    exact ⟨hk.inOrderAt hord, hk.nonemptyAt hne⟩
  · exact h₂ k (by omega) hk₂

/-- What a visit of the directory at `rel` has gathered once it has taken the entries `done`. -/
structure WalkSettings.Taken (s : WalkSettings) (R rel : List String)
    (done : List (String × Entry)) (w : Walk) (acc : Array NodeId × Walk) : Prop where
  keeps : w.Keeps acc.2
  reads : ∃ rels : List (List String), rels.Pairwise (· < ·) ∧
    (∀ r, r ∈ rels ↔ s.FileBelow R rel r ∧ ∃ c ∈ done, rel ++ [c.1] <+: r) ∧
    s.Produces R rels w acc.2
  dirs : w.AddsListed acc.2
  children : ∃ names, names.Sublist (done.map (·.1)) ∧
    acc.2.ListsAs (joinNames s.root rel) acc.1 names

/-- What a visit of the directory at `rel` does from walk `w`, with result `res`. -/
structure WalkSettings.Visited (s : WalkSettings) (R rel : List String) (isRoot : Bool)
    (w : Walk) (res : Option Nat × Walk) : Prop where
  keeps : w.Keeps res.2
  reads : ∃ rels : List (List String), rels.Pairwise (· < ·) ∧
    (∀ r, r ∈ rels ↔ s.FileBelow R rel r) ∧ s.Produces R rels w res.2
  dirs : ∀ k, w.dirs.size ≤ k → k < res.2.dirs.size →
    res.2.InOrderAt k ∧ (res.2.NonemptyAt k ∨ res.1 = some k ∧ isRoot = true)
  slot : ∀ k, res.1 = some k → w.dirs.size ≤ k ∧ res.2.Listable (.dir k) ∧
    res.2.pathOf (.dir k) = joinNames s.root rel

theorem WalkSettings.Visited.addsListed {s : WalkSettings} {R rel : List String} {w : Walk}
    {res : Option Nat × Walk} (h : s.Visited R rel false w res) : w.AddsListed res.2 := by
  intro k hk hk'
  obtain ⟨hord, hne | ⟨-, hroot⟩⟩ := h.dirs k hk hk'
  · exact ⟨hord, hne⟩
  · cases hroot

theorem reads_append {P : List String → Prop} {rel : List String} {done : List (String × Entry)}
    {x : String × Entry} (hlt : ∀ c ∈ done, c.1 < x.1) {rels rels' : List (List String)}
    (h : rels.Pairwise (· < ·) ∧ ∀ r, r ∈ rels ↔ P r ∧ ∃ c ∈ done, rel ++ [c.1] <+: r)
    (h' : rels'.Pairwise (· < ·) ∧ ∀ r, r ∈ rels' ↔ P r ∧ rel ++ [x.1] <+: r) :
    (rels ++ rels').Pairwise (· < ·) ∧
      ∀ r, r ∈ rels ++ rels' ↔ P r ∧ ∃ c ∈ done ++ [x], rel ++ [c.1] <+: r := by
  refine ⟨List.pairwise_append.mpr ⟨h.1, h'.1, fun a ha b hb => ?_⟩, fun r => ?_⟩
  · obtain ⟨-, c, hc, hca⟩ := (h.2 a).mp ha
    exact lt_of_prefix_child (hlt c hc) hca ((h'.2 b).mp hb).2
  · rw [List.mem_append, h.2, h'.2]
    constructor
    · rintro (⟨hP, c, hc, hpre⟩ | ⟨hP, hpre⟩)
      · exact ⟨hP, c, List.mem_append_left _ hc, hpre⟩
      · exact ⟨hP, x, List.mem_append_right _ (List.mem_singleton_self x), hpre⟩
    · rintro ⟨hP, c, hc, hpre⟩
      rcases List.mem_append.mp hc with hc | hc
      · exact .inl ⟨hP, c, hc, hpre⟩
      · rw [List.mem_singleton.mp hc] at hpre
        exact .inr ⟨hP, hpre⟩

namespace WalkSettings.Taken

variable {s : WalkSettings} {R rel : List String} {done : List (String × Entry)} {w : Walk}

theorem nil (s : WalkSettings) (R rel : List String) (w : Walk) : s.Taken R rel [] w (#[], w) :=
  ⟨.refl w, ⟨[], .nil, by simp, .refl w⟩, .refl w, ⟨[], .slnil, by simp, by simp⟩⟩

/-- One more entry taken: the step from `w'` to `w''` reads, in order, the files reached below
the entry, adds directories that list something, and leaves the children gathered at the
directory's path joined with names of the entries taken. -/
theorem extend {children children' : Array NodeId} {w' w'' : Walk}
    (h : s.Taken R rel done w (children, w')) {x : String × Entry} (hlt : ∀ c ∈ done, c.1 < x.1)
    (hkeeps : w'.Keeps w'') {rels : List (List String)} (hsorted : rels.Pairwise (· < ·))
    (hchar : ∀ r, r ∈ rels ↔ s.FileBelow R rel r ∧ rel ++ [x.1] <+: r)
    (hprod : s.Produces R rels w' w'') (hdirs : w'.AddsListed w'')
    (hchildren : ∀ names, names.Sublist (done.map (·.1)) →
      w''.ListsAs (joinNames s.root rel) children names →
      ∃ names', names'.Sublist ((done ++ [x]).map (·.1)) ∧
        w''.ListsAs (joinNames s.root rel) children' names') :
    s.Taken R rel (done ++ [x]) w (children', w'') := by
  obtain ⟨relsBefore, hsortedBefore, hcharBefore, hprodBefore⟩ := h.reads
  obtain ⟨hsortedAll, hcharAll⟩ := reads_append hlt ⟨hsortedBefore, hcharBefore⟩ ⟨hsorted, hchar⟩
  obtain ⟨names, hsub, hlists⟩ := h.children
  exact ⟨h.keeps.trans hkeeps, ⟨_, hsortedAll, hcharAll, hprodBefore.trans hprod⟩,
    h.dirs.trans hkeeps hdirs, hchildren names hsub (hlists.of_keeps hkeeps)⟩

theorem keep_children {names : List String} {x : String × Entry}
    (hsub : names.Sublist (done.map (·.1))) : names.Sublist ((done ++ [x]).map (·.1)) := by
  rw [List.map_append]
  exact hsub.trans (List.sublist_append_left _ _)

theorem push_children {names : List String} {x : String × Entry}
    (hsub : names.Sublist (done.map (·.1))) : (names ++ [x.1]).Sublist ((done ++ [x]).map (·.1)) := by
  rw [List.map_append]
  exact hsub.append (List.Sublist.refl _)

/-- An entry below which no file is reached changes nothing. -/
theorem skip {acc : Array NodeId × Walk} (h : s.Taken R rel done w acc) {x : String × Entry}
    (hlt : ∀ c ∈ done, c.1 < x.1) (hnone : ∀ r, s.FileBelow R rel r → ¬ rel ++ [x.1] <+: r) :
    s.Taken R rel (done ++ [x]) w acc :=
  h.extend hlt (.refl _) .nil (fun r => ⟨by simp, fun ⟨hr, hp⟩ => absurd hp (hnone r hr)⟩)
    (.refl _) (.refl _) fun names hsub hlists => ⟨names, keep_children hsub, hlists⟩

/-- An entry that is a directory adds what the visit of that directory reads, and the directory
when the visit keeps it. -/
theorem dir {children : Array NodeId} {w' : Walk} (h : s.Taken R rel done w (children, w'))
    {n : String} {e : Entry} (hlt : ∀ c ∈ done, c.1 < n) {res : Option Nat × Walk}
    (hv : s.Visited R (rel ++ [n]) false w' res)
    (hchar : ∀ r, s.FileBelow R (rel ++ [n]) r ↔ s.FileBelow R rel r ∧ rel ++ [n] <+: r) :
    s.Taken R rel (done ++ [(n, e)]) w (match res with
      | (some slot, w) => (children.push (.dir slot), w)
      | (none, w) => (children, w)) := by
  obtain ⟨rels, hsorted, hcharVisit, hprod⟩ := hv.reads
  have hcharBelow : ∀ r, r ∈ rels ↔ s.FileBelow R rel r ∧ rel ++ [n] <+: r :=
    fun r => (hcharVisit r).trans (hchar r)
  obtain ⟨slot, w''⟩ := res
  cases slot with
  | none =>
    exact h.extend hlt hv.keeps hsorted hcharBelow hprod hv.addsListed
      fun names hsub hlists => ⟨names, keep_children hsub, hlists⟩
  | some slot =>
    obtain ⟨-, hlist, hpath⟩ := hv.slot slot rfl
    exact h.extend hlt hv.keeps hsorted hcharBelow hprod hv.addsListed
      fun names hsub hlists => ⟨names ++ [n], push_children (x := (n, e)) hsub,
        hlists.push hlist (by rw [hpath, joinNames_concat])⟩

end WalkSettings.Taken

namespace WalkSettings.Plain

variable {s : WalkSettings} {R : List String} (hs : s.Plain R)
include hs

theorem fileBelow_leaf {rel r : List String} {n : String} {e : Entry}
    (h : (R ++ (rel ++ [n]), e) ∈ s.disk.entries) (he : e ≠ .directory)
    (hr : s.FileBelow R rel r) (hp : rel ++ [n] <+: r) :
    r = rel ++ [n] ∧ ∃ bytes ro, e = .file bytes ro := by
  obtain ⟨bytes, ro, hf⟩ := hr.2.2.2
  obtain rfl := hs.eq_of_not_dir (by rwa [← List.append_assoc] at h) he hf hp
  exact ⟨rfl, bytes, ro, hs.entry_unique h hf⟩

theorem fileBelow_dir_iff {rel : List String} {n : String}
    (h : (R ++ (rel ++ [n]), Entry.directory) ∈ s.disk.entries)
    (hign : suffixMatches s.ignore (rel ++ [n]) = false) (r : List String) :
    s.FileBelow R (rel ++ [n]) r ↔ s.FileBelow R rel r ∧ rel ++ [n] <+: r := by
  constructor
  · intro hr
    exact ⟨(s.fileBelow_append_iff R hr.1).mpr ⟨hign, .inl hr⟩, hr.1⟩
  · rintro ⟨hr, hp⟩
    rcases ((s.fileBelow_append_iff R hp).mp hr).2 with hr' | ⟨rfl, bytes, ro, hf⟩
    · exact hr'
    · cases hs.entry_unique h hf

theorem taken_file {rel : List String} {done : List (String × Entry)} {w w' : Walk}
    {children : Array NodeId} (h : s.Taken R rel done w (children, w')) {n : String}
    {bytes : ByteArray} {ro : Bool} (hlt : ∀ c ∈ done, c.1 < n)
    (hf : (R ++ (rel ++ [n]), Entry.file bytes ro) ∈ s.disk.entries)
    (hign : suffixMatches s.ignore (rel ++ [n]) = false) :
    s.Taken R rel (done ++ [(n, .file bytes ro)]) w
      (match s.visitFile (joinNames s.root (rel ++ [n])) w' with
        | (some id, w) => (children.push id, w)
        | (none, w) => (children, w)) := by
  -- the file is the one file reached below its own entry
  have hone : ∀ r, r ∈ [rel ++ [n]] ↔ s.FileBelow R rel r ∧ rel ++ [n] <+: r := by
    intro r
    rw [List.mem_singleton]
    constructor
    · rintro rfl
      exact ⟨(s.fileBelow_append_iff R (List.prefix_refl _)).mpr ⟨hign, .inr ⟨rfl, bytes, ro, hf⟩⟩,
        List.prefix_refl _⟩
    · rintro ⟨hr, hp⟩
      exact (hs.fileBelow_leaf hf (by simp) hr hp).1
  obtain ⟨hkeeps, hprod, hroot⟩ := hs.visitFile_reads hf (by simp) w'
  obtain ⟨hdirsEq, hcases⟩ := s.visitFile_tables (joinNames s.root (rel ++ [n])) w'
  have hdirs : w'.AddsListed (s.visitFile (joinNames s.root (rel ++ [n])) w').2 :=
    fun k hk hk' => absurd hk' (by rw [hdirsEq]; omega)
  generalize s.visitFile (joinNames s.root (rel ++ [n])) w' = res at *
  obtain ⟨id, w''⟩ := res
  cases id with
  | none =>
    exact h.extend hlt hkeeps (List.pairwise_singleton _ _) hone hprod hdirs
      fun names hsub hlists => ⟨names, Taken.keep_children hsub, hlists⟩
  | some id =>
    obtain ⟨rfl, hpath⟩ := hroot id rfl
    have hlist : w''.Listable (.fileRoot w'.files.size) := by
      rcases hcases with ⟨hnone, -⟩ | ⟨-, hsize⟩
      · cases hnone
      · exact .inr ⟨_, rfl, by simp only at hsize; omega⟩
    exact h.extend hlt hkeeps (List.pairwise_singleton _ _) hone hprod hdirs
      fun names hsub hlists => ⟨names ++ [n], Taken.push_children (x := (n, .file bytes ro)) hsub,
        hlists.push hlist (by rw [hpath, joinNames_concat])⟩

theorem taken_readEntry {rel : List String} (fuel : Nat) {done : List (String × Entry)}
    {w : Walk} {acc : Array NodeId × Walk} {n : String} {e : Entry}
    (hx : (n, e) ∈ s.disk.childrenOf (R ++ rel)) (hlt : ∀ c ∈ done, c.1 < n)
    (hvisit : e = .directory → ∀ w', s.Visited R (rel ++ [n]) false w'
      (s.visitDir fuel (joinNames s.root (rel ++ [n])) false w'))
    (h : s.Taken R rel done w acc) :
    s.Taken R rel (done ++ [(n, e)]) w (s.readEntry fuel (joinNames s.root rel) acc (n, e.kind)) := by
  obtain ⟨children, w'⟩ := acc
  have hmem : (R ++ (rel ++ [n]), e) ∈ s.disk.entries := by
    rw [← List.append_assoc]
    exact mem_childrenOf.mp hx
  unfold readEntry
  dsimp only
  rw [← joinNames_concat, matchesAnySuffix_joinNames (hs.isName_of_mem hmem)]
  by_cases hign : suffixMatches s.ignore (rel ++ [n]) = true
  · -- an ignored entry is skipped with everything below it
    rw [if_pos hign]
    refine h.skip hlt fun r hr hp => ?_
    have hkept := ((s.fileBelow_append_iff R hp).mp hr).1
    rw [hign] at hkept
    cases hkept
  · rw [if_neg hign]
    rw [Bool.not_eq_true] at hign
    cases e with
    | directory =>
      rw [if_pos (by rfl)]
      have hv := hvisit rfl w'
      generalize s.visitDir fuel (joinNames s.root (rel ++ [n])) false w' = res at hv ⊢
      obtain ⟨slot, w''⟩ := res
      cases slot <;> exact h.dir hlt hv (hs.fileBelow_dir_iff hmem hign)
    | file bytes ro =>
      rw [if_neg (by simp [Entry.kind]), if_pos (by simp [Entry.kind])]
      exact hs.taken_file h hlt hmem hign
    | link t => exact absurd (hs.disk.noLinks _ hmem) (by simp [Entry.kind])
    | socket =>
      rw [if_neg (by simp [Entry.kind]), if_neg (by simp [Entry.kind])]
      refine h.skip hlt fun r hr hp => ?_
      obtain ⟨-, bytes, ro, hfile⟩ := hs.fileBelow_leaf hmem (by simp) hr hp
      cases hfile

theorem taken_foldl {rel : List String} (fuel : Nat) (w : Walk)
    (hvisit : ∀ x ∈ s.disk.childrenOf (R ++ rel), x.2 = .directory → ∀ w',
      s.Visited R (rel ++ [x.1]) false w' (s.visitDir fuel (joinNames s.root (rel ++ [x.1])) false w'))
    (done : List (String × Entry)) (hdone : done <+: s.disk.childrenOf (R ++ rel)) :
    s.Taken R rel done w ((done.map fun x => (x.1, x.2.kind)).foldl
      (s.readEntry fuel (joinNames s.root rel)) (#[], w)) := by
  induction done using List.reverseRecOn with
  | nil => exact .nil s R rel w
  | append_singleton done x ih =>
    -- the entry comes after those taken before it, since the directory lists them in order
    have hpair := (childrenOf_sorted hs.disk.nodup (R ++ rel)).sublist hdone.sublist
    have hlt : ∀ c ∈ done, c.1 < x.1 := fun c hc =>
      (List.pairwise_append.mp hpair).2.2 c hc x (List.mem_singleton_self x)
    have hx : x ∈ s.disk.childrenOf (R ++ rel) :=
      hdone.subset (List.mem_append_right _ (List.mem_singleton_self x))
    rw [List.map_append, List.foldl_append, List.map_singleton, List.foldl_cons, List.foldl_nil]
    exact hs.taken_readEntry fuel hx hlt (hvisit x hx) (ih ((List.prefix_append _ _).trans hdone))

theorem fileBelow_under_child {rel r : List String} :
    (s.FileBelow R rel r ∧ ∃ c ∈ s.disk.childrenOf (R ++ rel), rel ++ [c.1] <+: r) ↔
      s.FileBelow R rel r := by
  refine ⟨And.left, fun hr => ⟨hr, ?_⟩⟩
  obtain ⟨bytes, ro, hf⟩ := hr.2.2.2
  exact hs.exists_child hf hr.1 hr.2.1

theorem visited_closeDir {rel : List String} (isRoot : Bool) {w : Walk}
    {acc : Array NodeId × Walk} (h : s.Taken R rel (s.disk.childrenOf (R ++ rel)) w acc) :
    s.Visited R rel isRoot w (s.closeDir (joinNames s.root rel) isRoot acc) := by
  obtain ⟨children, w'⟩ := acc
  obtain ⟨rels, hsorted, hchar, hprod⟩ := h.reads
  have hall : ∀ r, r ∈ rels ↔ s.FileBelow R rel r := fun r => (hchar r).trans hs.fileBelow_under_child
  obtain ⟨names, hsub, hlists⟩ := h.children
  have hnames : names.Pairwise (· < ·) :=
    (List.pairwise_map.mpr (childrenOf_sorted hs.disk.nodup (R ++ rel))).sublist hsub
  unfold closeDir
  dsimp only at hprod hlists ⊢
  split
  · refine ⟨h.keeps, ⟨rels, hsorted, hall, hprod⟩, fun k hk hk' => ?_, fun k hk => by cases hk⟩
    obtain ⟨hord, hne⟩ := h.dirs k hk hk'
    exact ⟨hord, .inl hne⟩
  · rename_i hkept
    let E : DirEntry := ⟨dirName s.disk s.cwd (joinNames s.root rel), joinNames s.root rel,
      children, none⟩
    have hroots : ∀ c ∈ children, (∃ d, c = .dir d) ∨ ∃ g, c = .unit g 0 := fun c hc =>
      (hlists.1 c hc).imp (fun ⟨d, hd, _⟩ => ⟨d, hd⟩) fun ⟨g, hg, _⟩ => ⟨g, hg⟩
    have hkeep := w'.keeps_adopt hroots E
    have hslot := w'.getElem?_adopt_size children E
    have hsize := w'.size_adopt children E
    change s.Visited R rel isRoot w (some w'.dirs.size, w'.adopt children E)
    refine ⟨h.keeps.trans hkeep, ⟨rels, hsorted, hall, ?_⟩, fun k hk hk' => ?_, fun k hk => ?_⟩
    · simpa using hprod.trans (s.produces_adopt R w' hroots E)
    · -- the directories added before keep what they list; the new one lists in order
      dsimp only at hk hk' ⊢
      by_cases hlt : k < w'.dirs.size
      · obtain ⟨hord, hne⟩ := h.dirs k hk hlt
        exact ⟨hkeep.inOrderAt hord, .inl (hkeep.nonemptyAt hne)⟩
      · obtain rfl : k = w'.dirs.size := by omega
        refine ⟨⟨E, hslot, names, hnames, hlists.of_keeps hkeep⟩, ?_⟩
        cases isRoot with
        | true => exact .inr ⟨rfl, rfl⟩
        | false =>
          refine .inl ⟨E, hslot, fun hnil => hkept ?_⟩
          rw [show children = #[] from hnil]
          rfl
    · cases hk
      dsimp only
      refine ⟨h.keeps.grows.1, .inl ⟨_, rfl, by omega⟩, ?_⟩
      simp [Walk.pathOf, hslot, E]

/-- A visit of the root or of a directory below it, with fuel for every entry below it, reads
the files reached below it in order and adds directories that list something, in order. -/
theorem visited_visitDir (fuel : Nat) :
    ∀ (rel : List String) (isRoot : Bool) (w : Walk),
      (rel = [] ∨ (R ++ rel, Entry.directory) ∈ s.disk.entries) → s.disk.below (R ++ rel) < fuel →
      s.Visited R rel isRoot w (s.visitDir fuel (joinNames s.root rel) isRoot w) := by
  induction fuel with
  | zero => exact fun _ _ _ _ hfuel => absurd hfuel (Nat.not_lt_zero _)
  | succ fuel ih =>
    intro rel isRoot w hdir hfuel
    rw [s.visitDir_succ_of_entries (hs.entries_eq hdir isRoot)]
    refine hs.visited_closeDir isRoot (hs.taken_foldl fuel w (fun x hx hxdir w' => ?_) _
      (List.prefix_refl _))
    obtain ⟨n, e⟩ := x
    obtain rfl : e = .directory := hxdir
    -- the directory listed has fewer entries below it
    have hbelow := below_lt hx
    rw [List.append_assoc] at hbelow
    refine ih (rel ++ [n]) false w' (.inr ?_) (by omega)
    rw [← List.append_assoc]
    exact mem_childrenOf.mp hx

end WalkSettings.Plain

end Arbor
