import Arbor.Proofs.Tree.Build
import Arbor.Tree.Imports
/-!
The files below a directory are a run of the file table.
-/

namespace Arbor

open Arbor.Disk

/-- The runs of file slots of the nodes `cs`, with `bounds` giving the run of each directory,
follow one another from slot `a` up to slot `b`: a file's root takes one slot, a directory its
run. -/
def Consecutive (bounds : Array (Nat × Nat)) : List NodeId → Nat → Nat → Prop
  | [], a, b => a = b
  | .dir d :: cs, a, b => ∃ hi, bounds[d]? = some (a, hi) ∧ a ≤ hi ∧ Consecutive bounds cs hi b
  | .unit f _ :: cs, a, b => f = a ∧ Consecutive bounds cs (a + 1) b

/-- Every directory holds the run of file slots `bounds` gives it, made of its children's runs. -/
def DirRuns (dirs : Array DirEntry) (bounds : Array (Nat × Nat)) : Prop :=
  bounds.size = dirs.size ∧ ∀ (d : Nat) (dir : DirEntry), dirs[d]? = some dir →
    ∃ lo hi, bounds[d]? = some (lo, hi) ∧ Consecutive bounds dir.children.toList lo hi

def Tree.FilesInOrder (t : Tree) : Prop := ∃ bounds, DirRuns t.dirs bounds

namespace Consecutive

theorem le {bounds : Array (Nat × Nat)} : ∀ {cs : List NodeId} {a b : Nat},
    Consecutive bounds cs a b → a ≤ b
  | [], _, _, h => Nat.le_of_eq h
  | .dir _ :: _, _, _, ⟨_, _, hlo, h⟩ => hlo.trans h.le
  | .unit _ _ :: _, _, _, ⟨_, h⟩ => Nat.le_of_succ_le h.le

/-- Runs recorded in `bounds` stay recorded when more runs are added after them. -/
theorem append {bounds : Array (Nat × Nat)} (extra : Array (Nat × Nat)) :
    ∀ {cs : List NodeId} {a b : Nat}, Consecutive bounds cs a b →
      Consecutive (bounds ++ extra) cs a b
  | [], _, _, h => h
  | .dir _ :: _, _, _, ⟨hi, hd, hlo, h⟩ =>
    ⟨hi, by rw [Array.getElem?_append_left (Array.getElem?_eq_some_iff.mp hd).1, hd], hlo,
      append extra h⟩
  | .unit _ _ :: _, _, _, ⟨hf, h⟩ => ⟨hf, append extra h⟩

theorem push {bounds : Array (Nat × Nat)} (run : Nat × Nat) {cs : List NodeId} {a b : Nat}
    (h : Consecutive bounds cs a b) : Consecutive (bounds.push run) cs a b := by
  simpa using h.append #[run]

/-- A run followed by one more node's run. -/
theorem concat {bounds : Array (Nat × Nat)} (c : NodeId) :
    ∀ {cs : List NodeId} {a m b : Nat}, Consecutive bounds cs a m → Consecutive bounds [c] m b →
      Consecutive bounds (cs ++ [c]) a b
  | [], _, _, _, h, hc => by rw [Consecutive] at h; subst h; exact hc
  | .dir _ :: _, _, _, _, ⟨hi, hd, hlo, h⟩, hc => ⟨hi, hd, hlo, concat c h hc⟩
  | .unit _ _ :: _, _, _, _, ⟨hf, h⟩, hc => ⟨hf, concat c h hc⟩

end Consecutive

/-- Adding a directory in the next slot, listing children whose runs go from `lo` to the end of
the file table, keeps the runs: the new directory holds that run, the others keep theirs. -/
theorem DirRuns.adopt {w : Walk} {bounds : Array (Nat × Nat)} {children : Array NodeId}
    {lo : Nat} (hruns : DirRuns w.dirs bounds)
    (hkids : Consecutive bounds children.toList lo w.files.size) {e : DirEntry}
    (he : e.children = children) :
    DirRuns ((adoptDirs w.dirs.size children w.dirs).push e) (bounds.push (lo, w.files.size)) := by
  obtain ⟨hdsize, hdkeep⟩ := WalkSettings.adoptDirs_children w.dirs.size children w.dirs
  refine ⟨by simp [hdsize, hruns.1], fun d entry hd => ?_⟩
  rw [Array.getElem?_push, hdsize] at hd
  split at hd
  · -- the new directory
    rename_i hslot
    cases hd
    refine ⟨lo, w.files.size, ?_, by rw [he]; exact hkids.push _⟩
    rw [Array.getElem?_push, if_pos (by rw [hslot, hruns.1])]
  · -- a directory before keeps its children, and so its run
    rename_i hslot
    have hold : (w.dirs[d]?).map (·.children) = some entry.children := by
      rw [← hdkeep d, hd]
      rfl
    obtain ⟨entry', hentry', hch⟩ := Option.map_eq_some_iff.mp hold
    obtain ⟨lo', hi, hlohi, hcons⟩ := hruns.2 d entry' hentry'
    refine ⟨lo', hi, ?_, by rw [← hch]; exact hcons.push _⟩
    rw [Array.getElem?_push, if_neg (by rw [hruns.1]; exact hslot), hlohi]

namespace Tree.FilesInOrder

variable {t : Tree}

theorem filesBelow_sublist {bounds : Array (Nat × Nat)} (h : DirRuns t.dirs bounds) :
    ∀ (fuel d : Nat) (lo hi : Nat) (dir : DirEntry), t.dirs[d]? = some dir →
      bounds[d]? = some (lo, hi) → List.Sublist (t.filesBelow fuel (.dir d)) (List.range' lo (hi - lo))
  | 0, _, _, _, _, _, _ => List.nil_sublist _
  | fuel + 1, d, lo, hi, dir, hdir, hd => by
    obtain ⟨lo', hi', hd', hruns⟩ := h.2 d dir hdir
    obtain ⟨rfl, rfl⟩ : lo = lo' ∧ hi = hi' := by simpa [hd] using hd'
    rw [Tree.filesBelow, Tree.children_dir hdir]
    -- the children's runs follow one another, and each child's files lie in its run
    have hchildren : ∀ (cs : List NodeId) (a b : Nat), Consecutive bounds cs a b →
        List.Sublist (cs.flatMap (t.filesBelow fuel)) (List.range' a (b - a)) := by
      intro cs
      induction cs with
      | nil => intro a b _; exact List.nil_sublist _
      | cons c cs ih =>
        intro a b hc
        cases c with
        | dir d' =>
          obtain ⟨m, hd'm, ham, hrest⟩ := hc
          have hmb := hrest.le
          have hsplit : List.range' a (b - a) = List.range' a (m - a) ++ List.range' m (b - m) := by
            rw [show b - a = (m - a) + (b - m) by omega, ← List.range'_append, Nat.one_mul,
              Nat.add_sub_cancel' ham]
          rw [List.flatMap_cons, hsplit]
          refine List.Sublist.append ?_ (ih m b hrest)
          cases hdir' : t.dirs[d']? with
          | none =>
            cases fuel with
            | zero => exact List.nil_sublist _
            | succ fuel =>
              simp [Tree.filesBelow, Tree.children, hdir']
          | some dir' => exact filesBelow_sublist h fuel d' a m dir' hdir' hd'm
        | unit f k =>
          obtain ⟨rfl, hrest⟩ := hc
          have hb := hrest.le
          have hsplit : List.range' f (b - f) = f :: List.range' (f + 1) (b - (f + 1)) := by
            rw [← List.range'_succ]
            congr 1
            omega
          rw [List.flatMap_cons, hsplit]
          cases fuel with
          | zero => exact (ih (f + 1) b hrest).cons _
          | succ fuel => exact (ih (f + 1) b hrest).cons_cons f
    exact hchildren _ _ _ hruns

/-- The files below any node come in increasing order of slot. -/
theorem filesBelow_sorted (h : t.FilesInOrder) (fuel : Nat) (n : NodeId) :
    (t.filesBelow fuel n).Pairwise (· < ·) := by
  obtain ⟨bounds, hb⟩ := h
  cases fuel with
  | zero => exact List.Pairwise.nil
  | succ fuel =>
    cases n with
    | unit f k => exact List.pairwise_singleton _ _
    | dir d =>
      cases hdir : t.dirs[d]? with
      | none => simp [Tree.filesBelow, Tree.children, hdir]
      | some dir =>
        obtain ⟨lo, hi, hd, -⟩ := hb.2 d dir hdir
        exact (List.pairwise_lt_range' 1).sublist (filesBelow_sublist hb (fuel + 1) d lo hi dir hdir hd)

end Tree.FilesInOrder

namespace WalkSettings

variable (s : WalkSettings)

/-- Visiting a file leaves the directory table alone, and either keeps the file table or adds
one file and gives its root. -/
theorem visitFile_tables (path : String) (w : Walk) :
    (s.visitFile path w).2.dirs = w.dirs ∧
      ((s.visitFile path w).1 = none ∧ (s.visitFile path w).2.files.size = w.files.size ∨
        (s.visitFile path w).1 = some (.fileRoot w.files.size) ∧
          (s.visitFile path w).2.files.size = w.files.size + 1) := by
  rcases s.visitFile_cases path w with h | ⟨_, _, _, _, h⟩ | ⟨_, h⟩ <;> rw [h]
  · exact ⟨rfl, .inl ⟨rfl, rfl⟩⟩
  · exact ⟨rfl, .inr ⟨rfl, by simp⟩⟩
  · exact ⟨rfl, .inl ⟨rfl, rfl⟩⟩

/-- What a walk gathers while it reads the entries of a directory whose files start at slot `a`:
a directory table with runs that extend `bounds`, and children whose runs follow one another
from `a` to the end of the file table. -/
def GatheredRuns (bounds : Array (Nat × Nat)) (a : Nat) (acc : Array NodeId × Walk) : Prop :=
  ∃ extra, DirRuns acc.2.dirs (bounds ++ extra) ∧
    Consecutive (bounds ++ extra) acc.1.toList a acc.2.files.size

/-- Visiting a directory keeps a directory table with runs, extending the runs of the table it
started from; a directory it adds holds the run of the files read during the visit, and a visit
that adds no directory reads no file. -/
theorem visitDir_runs :
    ∀ (fuel : Nat) (dir : String) (isRoot : Bool) (w : Walk) (bounds : Array (Nat × Nat)),
      DirRuns w.dirs bounds →
      ∃ extra, DirRuns (s.visitDir fuel dir isRoot w).2.dirs (bounds ++ extra) ∧
        (∀ slot, (s.visitDir fuel dir isRoot w).1 = some slot →
          (bounds ++ extra)[slot]? = some (w.files.size, (s.visitDir fuel dir isRoot w).2.files.size)) ∧
        ((s.visitDir fuel dir isRoot w).1 = none →
          (s.visitDir fuel dir isRoot w).2.files.size = w.files.size)
  | 0, _, _, w, bounds, hw => by
    refine ⟨#[], ?_, fun _ h => ?_, fun _ => rfl⟩
    · simpa [visitDir] using hw
    · simp [visitDir] at h
  | fuel + 1, dir, isRoot, w, bounds, hw => by
    rw [visitDir_succ]
    -- reading the directory keeps the walk's tables
    obtain ⟨hd1, hf1⟩ := s.readDir_tables dir isRoot w
    generalize s.readDir dir isRoot w = r at hd1 hf1
    obtain ⟨names, w1⟩ := r
    dsimp only at hd1 hf1
    have hgathered : GatheredRuns bounds w.files.size
        (names.foldl (s.readEntry fuel dir) (#[], w1)) := by
      refine List.foldlRecOn names _ (motive := GatheredRuns bounds w.files.size)
        ⟨#[], by simpa [hd1] using hw, by simp [Consecutive, hf1]⟩ fun acc hacc entry _ => ?_
      obtain ⟨kids, w'⟩ := acc
      obtain ⟨extra, hruns, hkids⟩ := hacc
      obtain ⟨name, kind⟩ := entry
      rcases s.readEntry_cases fuel dir name kind kids w' with
        h | ⟨slot, w'', hv, h⟩ | ⟨w'', hv, h⟩ | ⟨c, w'', hv, h⟩ | ⟨w'', hv, h⟩ <;> rw [h]
      · exact ⟨extra, hruns, hkids⟩
      · -- a directory inside, kept: its visit extends the runs, and its run follows the others
        obtain ⟨extra', hruns', hslot, -⟩ :=
          visitDir_runs fuel (Path.join dir name) false w' (bounds ++ extra) hruns
        rw [hv] at hruns' hslot
        have hd := hslot slot rfl
        have hlt : slot < w''.dirs.size := by
          rw [← hruns'.1]
          exact (Array.getElem?_eq_some_iff.mp hd).1
        obtain ⟨lo, hi, hd', hchildren⟩ := hruns'.2 slot _ (Array.getElem?_eq_getElem hlt)
        have hrun := hd.symm.trans hd'
        simp only [Option.some.injEq, Prod.mk.injEq] at hrun
        obtain ⟨rfl, rfl⟩ := hrun
        have hk : Consecutive (bounds ++ extra ++ extra') kids.toList w.files.size w'.files.size :=
          hkids.append extra'
        refine ⟨extra ++ extra', by simpa using hruns', ?_⟩
        simp only [Array.toList_push]
        have hlast : Consecutive (bounds ++ extra ++ extra') [.dir slot] w'.files.size
            w''.files.size := by
          rw [Consecutive]
          exact ⟨_, hd, hchildren.le, rfl⟩
        simpa using hk.concat _ hlast
      · -- a directory inside, left out: it read no file
        obtain ⟨extra', hruns', -, hnone⟩ :=
          visitDir_runs fuel (Path.join dir name) false w' (bounds ++ extra) hruns
        rw [hv] at hruns' hnone
        refine ⟨extra ++ extra', by simpa using hruns', ?_⟩
        rw [hnone rfl]
        simpa using hkids.append extra'
      · -- a file inside, kept: its root takes the next slot of the file table
        obtain ⟨hdirs, hcases⟩ := s.visitFile_tables (Path.join dir name) w'
        rw [hv] at hdirs hcases
        dsimp only at hdirs hcases
        obtain ⟨hnone, -⟩ | ⟨hid, hsize⟩ := hcases
        · cases hnone
        cases hid
        refine ⟨extra, by simpa [hdirs] using hruns, ?_⟩
        simp only [Array.toList_push, hsize]
        have hlast : Consecutive (bounds ++ extra) [.unit w'.files.size 0] w'.files.size
            (w'.files.size + 1) := by
          rw [Consecutive, Consecutive]
          exact ⟨rfl, rfl⟩
        exact hkids.concat _ hlast
      · obtain ⟨hdirs, hcases⟩ := s.visitFile_tables (Path.join dir name) w'
        rw [hv] at hdirs hcases
        dsimp only at hdirs hcases
        obtain ⟨-, hsize⟩ | ⟨hid, -⟩ := hcases
        · exact ⟨extra, by simpa [hdirs] using hruns, by simpa [hsize] using hkids⟩
        · cases hid
    generalize names.foldl (s.readEntry fuel dir) (#[], w1) = acc at hgathered
    obtain ⟨children, w2⟩ := acc
    obtain ⟨extra, hruns, hkids⟩ := hgathered
    dsimp only at hruns hkids
    rcases s.closeDir_cases dir isRoot children w2 with ⟨hnone, -, h⟩ | h <;> rw [h]
    · refine ⟨extra, hruns, fun _ h => (by cases h), fun _ => ?_⟩
      -- a directory left out lists nothing, so no file was read for it
      have hnil : children.toList = [] := by simp [hnone]
      rw [hnil, Consecutive] at hkids
      exact hkids.symm
    -- the new directory takes the next slot and the run of the files read for it
    dsimp only
    refine ⟨extra.push (w.files.size, w2.files.size), ?_, fun slot hslot => ?_, fun h => by cases h⟩
    · rw [Array.append_push, Walk.adopt_dirs]
      exact hruns.adopt hkids rfl
    · cases hslot
      rw [Array.append_push, Array.getElem?_push, if_pos hruns.1.symm, Walk.adopt_files,
        size_adoptFiles]

end WalkSettings

/-- The tree of one text has no directory, so its files come in order. -/
theorem Tree.ofText_filesInOrder (loader : Loader) (text : String) :
    (Tree.ofText loader text).FilesInOrder :=
  ⟨#[], rfl, fun d dir hd => by simp [Tree.ofText] at hd⟩

/-- In a tree built from a disk, each directory holds a run of the file table. -/
theorem Builder.build_filesInOrder {b : Builder} {d : Disk} {cwd : List String} {root : String}
    {t : Tree} (h : b.build d cwd root = .ok t) : t.FilesInOrder := by
  rcases Builder.build_eq_ok_cases h with ⟨file, -, rfl⟩ | ⟨s, -, -, -, -, rfl⟩
  · -- a root that is a file gives a tree without directories
    exact ⟨#[], rfl, fun d dir hd => by simp at hd⟩
  · -- the walk starts with no directory and no run
    have hempty : DirRuns ({} : Walk).dirs #[] :=
      ⟨rfl, fun d dir hd => by rw [show ({} : Walk).dirs = #[] from rfl] at hd; simp at hd⟩
    obtain ⟨extra, hruns, -, -⟩ := s.visitDir_runs _ _ _ _ _ hempty
    exact ⟨_, hruns⟩

end Arbor
