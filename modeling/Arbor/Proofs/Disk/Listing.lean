import Arbor.Proofs.Disk.Frame
import Mathlib
/-!
Directories of a disk without links, listed and reached by name.
-/

namespace Arbor.Disk

/-- A finite tree of directories and files: no symbolic links, a directory at every place above
an entry, no two entries at one place, and only plain names. -/
structure Plain (d : Disk) : Prop where
  noLinks : d.NoLinks
  closed : d.Closed
  nodup : (d.entries.map (·.1)).Nodup
  names : ∀ x ∈ d.entries, ∀ n ∈ x.1, Path.IsName n

/-- What every file system keeps, links or not: no two entries share a place, and every name of
a place is plain. -/
structure Named (d : Disk) : Prop where
  nodup : (d.entries.map (·.1)).Nodup
  names : ∀ x ∈ d.entries, ∀ n ∈ x.1, Path.IsName n

variable {d : Disk}

/-! ### Listing a directory -/

theorem eq_append_getLast {P q : List String} (hpre : P <+: q) (hlen : q.length = P.length + 1) :
    q = P ++ [q.getLast?.getD ""] := by
  obtain ⟨t, rfl⟩ := hpre
  obtain ⟨x, rfl⟩ : ∃ x, t = [x] := by
    rw [List.length_append] at hlen
    exact List.length_eq_one_iff.mp (by omega)
  simp

/-- What a directory at `P` lists for an entry: its name and the entry, when the entry is one
name below `P`. -/
def listedIn (P : List String) (x : List String × Entry) : Option (String × Entry) :=
  if x.1.length == P.length + 1 && P.isPrefixOf x.1 then x.1.getLast?.map (·, x.2) else none

theorem childrenOf_eq (P : List String) :
    d.childrenOf P = (d.entries.filterMap (listedIn P)).mergeSort fun a b => a.1 ≤ b.1 := rfl

theorem listedIn_eq_some {P : List String} {x : List String × Entry} {y : String × Entry}
    (h : listedIn P x = some y) : x = (P ++ [y.1], y.2) := by
  unfold listedIn at h
  split at h
  · rename_i hcond
    simp only [Bool.and_eq_true, beq_iff_eq, List.isPrefixOf_iff_prefix] at hcond
    obtain ⟨n, hlast, rfl⟩ := Option.map_eq_some_iff.mp h
    have hx := eq_append_getLast hcond.2 hcond.1
    rw [hlast, Option.getD_some] at hx
    exact Prod.ext hx rfl
  · cases h

/-- The entries a directory lists are those one name below its place. -/
theorem mem_childrenOf {P : List String} {n : String} {e : Entry} :
    (n, e) ∈ d.childrenOf P ↔ (P ++ [n], e) ∈ d.entries := by
  rw [childrenOf_eq, (List.mergeSort_perm _ _).mem_iff, List.mem_filterMap]
  constructor
  · rintro ⟨x, hx, hlisted⟩
    rwa [listedIn_eq_some hlisted] at hx
  · intro h
    exact ⟨(P ++ [n], e), h, by simp [listedIn]⟩

/-- The name under which a directory at `P` lists the entry at place `q`, if any. -/
def nameIn (P q : List String) : Option String :=
  if q.length == P.length + 1 && P.isPrefixOf q then q.getLast? else none

theorem map_listedIn (P : List String) (x : List String × Entry) :
    (listedIn P x).map (·.1) = nameIn P x.1 := by
  unfold listedIn nameIn
  split
  · rw [Option.map_map]
    exact Option.map_id'
  · rfl

theorem nameIn_eq_some {P q : List String} {n : String} (h : nameIn P q = some n) :
    q = P ++ [n] := by
  unfold nameIn at h
  split at h
  · rename_i hcond
    simp only [Bool.and_eq_true, beq_iff_eq, List.isPrefixOf_iff_prefix] at hcond
    have hq := eq_append_getLast hcond.2 hcond.1
    rwa [h, Option.getD_some] at hq
  · cases h

/-- On a disk where no two entries share a place, no name is listed twice in a directory. -/
theorem childrenOf_names_nodup (h : (d.entries.map (·.1)).Nodup) (P : List String) :
    ((d.childrenOf P).map (·.1)).Nodup := by
  rw [childrenOf_eq, ((List.mergeSort_perm _ _).map _).nodup_iff, List.map_filterMap]
  have hnames : d.entries.filterMap (fun x => (listedIn P x).map (·.1)) =
      (d.entries.map (·.1)).filterMap (nameIn P) := by
    rw [List.filterMap_map]
    exact congrArg (List.filterMap · d.entries) (funext (map_listedIn P))
  rw [hnames]
  -- a listed name determines the place it was listed from
  refine List.Nodup.filterMap (fun q q' n hq hq' => ?_) h
  rw [nameIn_eq_some hq, nameIn_eq_some hq']

/-- On a disk where no two entries share a place, a directory lists its entries in strictly
increasing order of name. -/
theorem childrenOf_sorted (h : (d.entries.map (·.1)).Nodup) (P : List String) :
    (d.childrenOf P).Pairwise fun a b => a.1 < b.1 := by
  have hle : (d.childrenOf P).Pairwise fun a b => a.1 ≤ b.1 := by
    have := @List.pairwise_mergeSort _ (fun a b : String × Entry => decide (a.1 ≤ b.1))
      (fun a b c hab hbc => by simp only [decide_eq_true_eq] at *; exact hab.trans hbc)
      (fun a b => by simpa using le_total a.1 b.1) (d.entries.filterMap (listedIn P))
    simpa [childrenOf_eq] using this
  have hne := List.pairwise_map.mp (childrenOf_names_nodup h P)
  exact (hle.and hne).imp fun hab => lt_of_le_of_ne hab.1 hab.2

/-- On a disk where no two entries share a place, the entry at a place is the one the disk
holds there. -/
theorem entry?_of_mem (h : (d.entries.map (·.1)).Nodup) {q : List String} {e : Entry}
    (hq : q ≠ []) (hx : (q, e) ∈ d.entries) : d.entry? q = some e := by
  rw [entry?_eq_find hq]
  cases hfind : d.entries.find? (·.1 == q) with
  | none =>
    have := List.find?_eq_none.mp hfind _ hx
    simp at this
  | some y =>
    have hy := List.mem_of_find?_eq_some hfind
    have hplace : y.1 = q := by simpa using List.find?_some hfind
    rw [List.inj_on_of_nodup_map h hy hx hplace]
    rfl

/-- The names and kinds a directory at `P` lists, on a path that leads there. -/
theorem readDir_of_locate {cwd : List String} {p : String} {P : List String}
    (h : d.locate cwd p true = .ok (.found P .directory)) :
    d.readDir cwd p = .ok ((d.childrenOf P).map fun x => (x.1, x.2.kind)) := by
  simp only [readDir, h]

/-! ### Reaching a place name by name -/

/-- Walking parts that reach a directory and then one more name looks the name up there. -/
theorem walk_append_name {cur : List String} {ps : List Part} {P : List String} (n : String)
    (h : d.walk cur ps = .ok (.found P .directory)) :
    d.walk cur (ps ++ [.name n]) = .ok (d.targetIn P n) := by
  fun_induction d.walk cur ps with
  | case1 cur =>
    cases h
    rfl
  | case2 cur rest ih => exact ih h
  | case3 cur rest ih => exact ih h
  | case4 cur rest ih => exact ih h
  | case5 cur m =>
    -- the last name reached a directory, which the next name goes into
    simp only [targetIn] at h
    split at h
    · rename_i e he
      cases h
      simp [walk, he]
    · cases h
  | case6 cur m rest hrest hdir ih =>
    obtain ⟨r, rs, rfl⟩ := List.exists_cons_of_ne_nil hrest
    simp only [List.cons_append, walk, hdir]
    exact ih h
  | case7 => cases h
  | case8 => cases h

/-- On a disk without links, a path text that reaches a directory, joined with a plain name,
reaches what the directory holds under that name, when the system takes the joined text. -/
theorem locate_join (hd : d.NoLinks) {cwd : List String} {p n : String} {P : List String}
    {last : Bool} (hp : d.locate cwd p last = .ok (.found P .directory)) (hn : Path.IsName n)
    (hfit : checkText (Path.join p n) = .ok ()) (last' : Bool) :
    d.locate cwd (Path.join p n) last' = .ok (d.targetIn P n) := by
  rw [locate_eq_walk hd] at hp ⊢
  cases hcheck : checkText p with
  | error e =>
    rw [hcheck] at hp
    cases hp
  | ok u =>
    rw [hcheck] at hp
    rw [hfit, Path.parts_join hn]
    exact walk_append_name n hp

/-! ### How deep a walk can go -/

/-- How many entries lie strictly below the place `P`. -/
def below (d : Disk) (P : List String) : Nat :=
  (d.entries.filter fun x => P.isPrefixOf x.1 && x.1 != P).length

theorem below_le (d : Disk) (P : List String) : d.below P ≤ d.entries.length :=
  List.length_filter_le _ _

/-- Fewer entries lie below a directory than below the directory that lists it: the listed entry
itself lies below the second only. -/
theorem below_lt {P : List String} {n : String} {e : Entry} (h : (n, e) ∈ d.childrenOf P) :
    d.below (P ++ [n]) < d.below P := by
  have hmem := mem_childrenOf.mp h
  have hsub : (d.entries.filter fun x => (P ++ [n]).isPrefixOf x.1 && x.1 != P ++ [n]).Sublist
      (d.entries.filter fun x => P.isPrefixOf x.1 && x.1 != P) := by
    refine List.monotone_filter_right _ fun x hx => ?_
    simp only [Bool.and_eq_true, bne_iff_ne, ne_eq, List.isPrefixOf_iff_prefix] at hx ⊢
    obtain ⟨hpre, hne⟩ := hx
    refine ⟨(List.prefix_append P [n]).trans hpre, fun heq => ?_⟩
    have := hpre.length_le
    rw [heq, List.length_append] at this
    simp at this
  refine lt_of_le_of_ne hsub.length_le fun hlen => ?_
  have hin : (P ++ [n], e) ∈ d.entries.filter fun x => P.isPrefixOf x.1 && x.1 != P := by
    simp [hmem, List.prefix_append]
  rw [← hsub.eq_of_length hlen] at hin
  simp at hin

end Arbor.Disk

namespace Arbor.Disk.Path

def joinNames (root : String) (names : List String) : String := names.foldl join root

@[simp]
theorem joinNames_nil (root : String) : joinNames root [] = root := rfl

theorem joinNames_concat (root : String) (names : List String) (n : String) :
    joinNames root (names ++ [n]) = join (joinNames root names) n := by
  simp [joinNames]

theorem parts_joinNames {names : List String} (h : ∀ n ∈ names, IsName n) (root : String) :
    parts (joinNames root names) = parts root ++ names.map .name :=
  parts_foldl_join h root

/-- Plain names joined to one root name one path only when they are the same names. -/
theorem eq_of_same_joinNames {root : String} {a b : List String} (ha : ∀ n ∈ a, IsName n)
    (hb : ∀ n ∈ b, IsName n) (h : same (joinNames root a) (joinNames root b) = true) : a = b := by
  have hparts : parts (joinNames root a) = parts (joinNames root b) := by simpa [same] using h
  rw [parts_joinNames ha, parts_joinNames hb, List.append_cancel_left_eq] at hparts
  exact List.map_injective_iff.mpr (fun x y hxy => by cases hxy; rfl) hparts

theorem joinNames_inj {root : String} {a b : List String} (ha : ∀ n ∈ a, IsName n)
    (hb : ∀ n ∈ b, IsName n) (h : joinNames root a = joinNames root b) : a = b :=
  eq_of_same_joinNames ha hb (by rw [h]; exact same_refl _)

/-- The parts of a root joined with plain names, after those of the root, are the names. -/
theorem partsUnder?_joinNames {names : List String} (h : ∀ n ∈ names, IsName n) (root : String) :
    partsUnder? root (joinNames root names) = some (names.map .name) := by
  simp [partsUnder?, parts_joinNames h, List.isPrefixOf_iff_prefix]

end Arbor.Disk.Path
