import Arbor.Disk.Replace
import Arbor.Proofs.Disk.Path
/-!
Disks without links, seen through their directories.
-/

namespace Arbor.Disk

variable {d d' : Disk}

def NoLinks (d : Disk) : Prop := ∀ x ∈ d.entries, x.2.kind ≠ .link

theorem entry?_nil (d : Disk) : d.entry? [] = some .directory := rfl

theorem entry?_eq_find {Q : List String} (hQ : Q ≠ []) :
    d.entry? Q = (d.entries.find? (·.1 == Q)).map (·.2) := by
  simp [hQ, Disk.entry?]

theorem mem_of_entry?_eq_some {Q : List String} {e : Entry} (hQ : Q ≠ []) (h : d.entry? Q = some e) :
    (Q, e) ∈ d.entries := by
  rw [entry?_eq_find hQ, Option.map_eq_some_iff] at h
  obtain ⟨⟨Q', e'⟩, hfind, rfl⟩ := h
  have hkey : Q' = Q := by simpa using List.find?_some hfind
  exact hkey ▸ List.mem_of_find?_eq_some hfind

theorem entry?_put {P Q : List String} (e : Entry) (hP : P ≠ []) :
    Disk.entry? (d.put P e) Q = if Q = P then some e else d.entry? Q := by
  by_cases hQ : Q = []
  · subst hQ
    simp [entry?_nil, Ne.symm hP]
  · rw [entry?_eq_find hQ, entry?_eq_find hQ]
    simp only [put, List.find?_append, List.find?_filter]
    split
    · subst Q
      have hnone : d.entries.find? (fun a => decide ((a.1 != P) = true ∧ (a.1 == P) = true)) =
          none := List.find?_eq_none.mpr fun x _ => by simp
      rw [hnone, Option.none_or]
      simp
    · rename_i hQP
      have hpred : (fun a : List String × Entry => decide ((a.1 != P) = true ∧ (a.1 == Q) = true)) =
          fun a => a.1 == Q := by
        funext a
        by_cases ha : a.1 = Q
        · simp [ha, hQP]
        · simp [ha]
      have hlast : [(P, e)].find? (fun x => x.1 == Q) = none := by simp [Ne.symm hQP]
      rw [hpred, hlast, Option.or_none]

theorem entry?_erase {P Q : List String} (hP : P ≠ []) :
    Disk.entry? (d.erase P) Q = if P <+: Q then none else d.entry? Q := by
  by_cases hQ : Q = []
  · subst hQ
    simp [entry?_nil, hP]
  · rw [entry?_eq_find hQ, entry?_eq_find hQ]
    simp only [erase, List.find?_filter]
    split
    · -- an entry at `Q` lies under `P`, so it was erased
      rename_i hPQ
      have hnone : d.entries.find? (fun a => decide ((!P.isPrefixOf a.1) = true ∧ (a.1 == Q) = true)) = none :=
        List.find?_eq_none.mpr fun x _ => by
          by_cases hx : x.1 = Q
          · simp [hx, List.isPrefixOf_iff_prefix.mpr hPQ]
          · simp [hx]
      rw [hnone]
      rfl
    · -- the erasing filter keeps every entry at `Q`
      rename_i hPQ
      have hpred : (fun a : List String × Entry =>
          decide ((!P.isPrefixOf a.1) = true ∧ (a.1 == Q) = true)) = fun a => a.1 == Q := by
        funext a
        by_cases ha : a.1 = Q
        · have : P.isPrefixOf Q = false := by
            rw [Bool.eq_false_iff, ne_eq, List.isPrefixOf_iff_prefix]
            exact hPQ
          simp [ha, this]
        · simp [ha]
      rw [hpred]

theorem NoLinks.entry?_ne_link (hd : d.NoLinks) (Q : List String) (t : String) :
    d.entry? Q ≠ some (.link t) := by
  intro h
  by_cases hQ : Q = []
  · subst hQ
    cases h
  · exact hd _ (mem_of_entry?_eq_some hQ h) rfl

/-- What a disk holds under the name `name` in the directory at `dir`. -/
def targetIn (d : Disk) (dir : List String) (name : String) : Target :=
  match d.entry? (dir ++ [name]) with
  | some e => .found (dir ++ [name]) e
  | none => .absent dir name

/-- Where parts lead from the directory at `cur` on a disk without links: each name but the last
must be a directory, and the last is looked up in the directory reached. -/
def walk (d : Disk) (cur : List String) : List Part → Except IoError Target
  | [] => .ok (.found cur .directory)
  | .root :: rest => d.walk [] rest
  | .here :: rest => d.walk cur rest
  | .up :: rest => d.walk cur.dropLast rest
  | [.name n] => .ok (d.targetIn cur n)
  | .name n :: rest =>
    match d.entry? (cur ++ [n]) with
    | some .directory => d.walk (cur ++ [n]) rest
    | some _ => .error .notDirectory
    | none => .error .notFound

theorem follow_eq_walk (hd : d.NoLinks) (last : Bool) {parts : List Part} {fuel : Nat}
    (links : Nat) (cur : List String) (hfuel : parts.length < fuel) :
    d.follow last fuel links cur parts = d.walk cur parts := by
  induction parts generalizing fuel links cur with
  | nil =>
    obtain ⟨f, rfl⟩ := Nat.exists_eq_add_one_of_ne_zero (Nat.ne_zero_of_lt hfuel)
    rfl
  | cons p rest ih =>
    obtain ⟨f, rfl⟩ := Nat.exists_eq_add_one_of_ne_zero (Nat.ne_zero_of_lt hfuel)
    have hf : rest.length < f := by simpa using hfuel
    cases p with
    | root => simp only [follow, walk, ih links [] hf]
    | here => simp only [follow, walk, ih links cur hf]
    | up => simp only [follow, walk, ih links cur.dropLast hf]
    | name n =>
      -- no entry is a link, so the branch of `follow` that reads a link target never runs
      have hlink := hd.entry?_ne_link (cur ++ [n])
      cases rest with
      | nil =>
        obtain ⟨g, rfl⟩ := Nat.exists_eq_add_one_of_ne_zero (Nat.ne_zero_of_lt hf)
        simp only [follow, walk, targetIn]
        split
        next h => simp [h]
        next h => simp [h]
        next t h => exact absurd h (hlink t)
        next e _ _ h => simp [h]
      | cons r rs =>
        simp only [follow, walk]
        split
        next h => simp [h]
        next h =>
          rw [ih links (cur ++ [n]) hf]
          simp [h]
        next t h => exact absurd h (hlink t)
        next e hdir hlink' h =>
          rw [h]
          cases e with
          | directory => exact absurd rfl hdir
          | link t => exact absurd rfl (hlink' t)
          | file => rfl
          | socket => rfl

/-- Locating a path on a disk without links is checking its text and walking its parts. -/
theorem locate_eq_walk (hd : d.NoLinks) (cwd : List String) (p : String) (last : Bool) :
    d.locate cwd p last = (checkText p).bind fun _ => d.walk cwd (Path.parts p) := by
  unfold locate
  rw [follow_eq_walk hd last 0 cwd (by omega)]
  rfl

/-- Without links, whether a link at the end would be followed makes no difference. -/
theorem locate_true (hd : d.NoLinks) (cwd : List String) (p : String) :
    d.locate cwd p true = d.locate cwd p false := by
  rw [locate_eq_walk hd, locate_eq_walk hd]

/-- The place a target names. -/
def Target.place : Target → List String
  | .found place _ => place
  | .absent dir name => dir ++ [name]

@[simp]
theorem targetIn_place (d : Disk) (dir : List String) (name : String) :
    (d.targetIn dir name).place = dir ++ [name] := by
  unfold targetIn
  split <;> rfl

/-- Whether a place holds a directory. -/
def isDirAt (d : Disk) (place : List String) : Bool :=
  match d.entry? place with
  | some .directory => true
  | _ => false

theorem isDirAt_iff {place : List String} : d.isDirAt place = true ↔ d.entry? place = some .directory := by
  unfold isDirAt
  split <;> simp_all

def SameDirs (d d' : Disk) : Prop := ∀ place, d.isDirAt place = d'.isDirAt place

theorem walk_sameDirs (h : SameDirs d d') {cur : List String} {ps : List Part} {t : Target}
    (hw : d.walk cur ps = .ok t) : ∃ t', d'.walk cur ps = .ok t' ∧ t'.place = t.place := by
  fun_induction d.walk cur ps with
  | case1 cur => exact ⟨_, rfl, by cases hw; rfl⟩
  | case2 cur rest ih => exact ih hw
  | case3 cur rest ih => exact ih hw
  | case4 cur rest ih => exact ih hw
  | case5 cur n =>
    cases hw
    exact ⟨_, rfl, by simp⟩
  | case6 cur n rest hrest hdir ih =>
    obtain ⟨t', hw', hplace⟩ := ih hw
    have hdir' : d'.entry? (cur ++ [n]) = some .directory := by
      rw [← isDirAt_iff, ← h, isDirAt_iff, hdir]
    refine ⟨t', ?_, hplace⟩
    cases rest with
    | nil => contradiction
    | cons r rs => simp only [walk, hdir', hw']
  | case7 => cases hw
  | case8 => cases hw

def Closed (d : Disk) : Prop := ∀ x ∈ d.entries, ∀ i < x.1.length, d.isDirAt (x.1.take i) = true

/-- What a disk holds at a place: the entry there, or the place's last name missing from the
directory above it. -/
def targetAt (d : Disk) (place : List String) : Target :=
  match d.entry? place with
  | some e => .found place e
  | none => .absent place.dropLast (place.getLast?.getD "")

theorem targetAt_found {P Q : List String} {e : Entry} (h : d.targetAt P = .found Q e) :
    Q = P ∧ d.entry? P = some e := by
  unfold targetAt at h
  split at h
  · cases h
    exact ⟨rfl, by assumption⟩
  · cases h

theorem targetAt_absent {P a : List String} {n : String} (h : d.targetAt P = .absent a n) :
    d.entry? P = none := by
  unfold targetAt at h
  split at h
  · cases h
  · assumption

theorem isDirAt_nil (d : Disk) : d.isDirAt [] = true := rfl

/-- In a closed disk every place strictly above an entry holds a directory. -/
theorem Closed.isDirAt_of_prefix (hc : d.Closed) {P Q : List String} {e : Entry}
    (hQ : d.entry? Q = some e) (hPQ : P <+: Q) (hne : P ≠ Q) : d.isDirAt P = true := by
  by_cases hQnil : Q = []
  · subst hQnil
    exact absurd (List.prefix_nil.mp hPQ) hne
  · have hlt : P.length < Q.length :=
      Nat.lt_of_le_of_ne hPQ.length_le fun hlen => hne (hPQ.eq_of_length hlen)
    have htake : Q.take P.length = P := (List.prefix_iff_eq_take.mp hPQ).symm
    simpa [htake] using hc _ (mem_of_entry?_eq_some hQnil hQ) P.length hlt

theorem Closed.isDirAt_dropLast (hc : d.Closed) {Q : List String} (hQ : d.isDirAt Q = true) :
    d.isDirAt Q.dropLast = true := by
  by_cases hQnil : Q = []
  · subst hQnil
    rfl
  · have hlen : Q.dropLast.length < Q.length := by
      rw [List.length_dropLast]
      have := List.length_pos_iff.mpr hQnil
      omega
    exact hc.isDirAt_of_prefix (isDirAt_iff.mp hQ) (List.dropLast_prefix Q) fun h => by
      rw [h] at hlen
      omega

theorem walk_eq_targetAt (hc : d.Closed) {cur : List String} {ps : List Part} {t : Target}
    (hcur : d.isDirAt cur = true) (hw : d.walk cur ps = .ok t) :
    t = d.targetAt t.place ∧ d.isDirAt t.place.dropLast = true := by
  fun_induction d.walk cur ps with
  | case1 cur =>
    cases hw
    exact ⟨by simp [targetAt, Target.place, isDirAt_iff.mp hcur], hc.isDirAt_dropLast hcur⟩
  | case2 cur rest ih => exact ih (isDirAt_nil d) hw
  | case3 cur rest ih => exact ih hcur hw
  | case4 cur rest ih => exact ih (hc.isDirAt_dropLast hcur) hw
  | case5 cur n =>
    cases hw
    refine ⟨?_, by simpa using hcur⟩
    unfold targetIn targetAt
    split <;> simp_all [Target.place]
  | case6 cur n rest hrest hdir ih => exact ih (isDirAt_iff.mpr hdir) hw
  | case7 => cases hw
  | case8 => cases hw

theorem Closed.isDirAt_take (hc : d.Closed) {Q : List String} (hQ : d.isDirAt Q = true)
    (i : Nat) : d.isDirAt (Q.take i) = true := by
  by_cases hi : Q.length ≤ i
  · rwa [List.take_of_length_le hi]
  · refine hc.isDirAt_of_prefix (isDirAt_iff.mp hQ) (List.take_prefix i Q) fun h => hi ?_
    have := congrArg List.length h
    simp at this
    omega

theorem isDirAt_put {P Q : List String} (e : Entry) (hP : P ≠ []) :
    (d.put P e).isDirAt Q = if Q = P then e.kind == .directory else d.isDirAt Q := by
  by_cases hQ : Q = P
  · subst hQ
    simp only [isDirAt, entry?_put e hP, if_true]
    cases e <;> rfl
  · simp only [isDirAt, entry?_put e hP, if_neg hQ]

theorem isDirAt_erase {P Q : List String} (hP : P ≠ []) :
    (d.erase P).isDirAt Q = if P <+: Q then false else d.isDirAt Q := by
  by_cases hPQ : P <+: Q
  · simp only [isDirAt, entry?_erase hP, if_pos hPQ]
  · simp only [isDirAt, entry?_erase hP, if_neg hPQ]

theorem NoLinks.put (hd : d.NoLinks) {P : List String} {e : Entry} (he : e.kind ≠ .link) :
    (d.put P e).NoLinks := by
  intro x hx
  simp only [Disk.put, List.mem_append, List.mem_filter, List.mem_singleton] at hx
  rcases hx with ⟨hx, -⟩ | rfl
  · exact hd x hx
  · exact he

theorem NoLinks.erase (hd : d.NoLinks) (P : List String) : (d.erase P).NoLinks :=
  fun x hx => hd x (List.mem_filter.mp hx).1

/-- Putting a file where no directory is keeps the directories. -/
theorem sameDirs_put {P : List String} {e : Entry} (hP : P ≠ []) (hdir : d.isDirAt P = false)
    (he : e.kind ≠ .directory) : SameDirs d (d.put P e) := by
  intro Q
  rw [isDirAt_put e hP]
  split
  · subst Q
    rw [hdir]
    cases e <;> simp_all [Entry.kind]
  · rfl

/-- In a closed disk, removing a place that holds no directory keeps the directories. -/
theorem sameDirs_erase (hc : d.Closed) {P : List String} (hP : P ≠ []) (hdir : d.isDirAt P = false) :
    SameDirs d (d.erase P) := by
  intro Q
  rw [isDirAt_erase hP]
  split
  · rename_i hPQ
    by_cases hQ : P = Q
    · subst Q
      exact hdir
    · cases hQdir : d.isDirAt Q
      · rfl
      · exact absurd (hc.isDirAt_of_prefix (isDirAt_iff.mp hQdir) hPQ hQ) (by simp [hdir])
  · rfl

/-- Putting a file in a directory where no directory is keeps a disk closed. -/
theorem Closed.put (hc : d.Closed) {P : List String} {e : Entry} (hP : P ≠ [])
    (hpar : d.isDirAt P.dropLast = true) (hdir : d.isDirAt P = false) : (d.put P e).Closed := by
  intro x hx i hi
  rw [isDirAt_put e hP]
  simp only [Disk.put, List.mem_append, List.mem_filter, List.mem_singleton] at hx
  rcases hx with ⟨hx, hxP⟩ | rfl
  · have hold := hc x hx i hi
    split
    · rename_i htake
      rw [htake, hdir] at hold
      cases hold
    · exact hold
  · -- the places above the new file are above the directory it is put in
    have hlt : ¬ (P.take i = P) := fun h => by
      have := congrArg List.length h
      simp at this hi
      omega
    rw [if_neg hlt]
    have htake : P.take i = P.dropLast.take i := by
      rw [List.dropLast_eq_take, List.take_take]
      congr 1
      simp at hi
      omega
    rw [htake]
    exact hc.isDirAt_take hpar i

/-- Removing a place and everything under it keeps a disk closed. -/
theorem Closed.erase (hc : d.Closed) {P : List String} (hP : P ≠ []) : (d.erase P).Closed := by
  intro x hx i hi
  simp only [Disk.erase, List.mem_filter] at hx
  obtain ⟨hx, hnot⟩ := hx
  rw [isDirAt_erase hP, if_neg fun hPt => ?_]
  · exact hc x hx i hi
  · simp only [Bool.not_eq_eq_eq_not, Bool.not_true] at hnot
    rw [Bool.eq_false_iff, ne_eq, List.isPrefixOf_iff_prefix] at hnot
    exact hnot (hPt.trans (List.take_prefix i x.1))

/-- The place a path names, when it can be followed. -/
def placeOf (d : Disk) (cwd : List String) (p : String) : Option (List String) :=
  match d.locate cwd p false with
  | .ok t => some t.place
  | .error _ => none

theorem placeOf_of_locate {cwd : List String} {p : String} {t : Target}
    (h : d.locate cwd p false = .ok t) : d.placeOf cwd p = some t.place := by
  simp [placeOf, h]

/-- A path names the same place on disks without links and with the same directories. -/
theorem placeOf_sameDirs (hd : d.NoLinks) (hd' : d'.NoLinks) (h : SameDirs d d')
    {cwd : List String} {p : String} {P : List String} (hp : d.placeOf cwd p = some P) :
    d'.placeOf cwd p = some P := by
  unfold placeOf at hp
  split at hp
  · rename_i t ht
    cases hp
    rw [locate_eq_walk hd] at ht
    cases hcheck : checkText p with
    | error e => simp [hcheck, Except.bind] at ht
    | ok u =>
      simp only [hcheck, Except.bind] at ht
      obtain ⟨t', hw', hplace⟩ := walk_sameDirs h ht
      rw [placeOf, locate_eq_walk hd', hcheck]
      simp [Except.bind, hw', hplace]
  · cases hp

/-- On a closed disk without links, a path that names a place leads to what the disk holds
there, in a directory. -/
theorem locate_eq_targetAt (hd : d.NoLinks) (hc : d.Closed) {cwd : List String}
    (hcwd : d.isDirAt cwd = true) {p : String} {P : List String} (hp : d.placeOf cwd p = some P)
    (last : Bool) : d.locate cwd p last = .ok (d.targetAt P) ∧ d.isDirAt P.dropLast = true := by
  unfold placeOf at hp
  split at hp
  · rename_i t ht
    cases hp
    have hlast : d.locate cwd p last = d.locate cwd p false := by
      cases last
      · rfl
      · exact locate_true hd cwd p
    rw [hlast, ht]
    rw [locate_eq_walk hd] at ht
    cases hcheck : checkText p with
    | error e => simp [hcheck, Except.bind] at ht
    | ok u =>
      simp only [hcheck, Except.bind] at ht
      obtain ⟨heq, hdir⟩ := walk_eq_targetAt hc hcwd ht
      exact ⟨congrArg Except.ok heq, hdir⟩
  · cases hp

def tempBeside (dir : String) : String := Path.join (if dir.isEmpty then "." else dir) freshName

/-- A replacement that succeeds found its temporary file absent and put a file at the place the
path names, which held no directory. -/
theorem replaceFile_eq_ok {cwd : List String} {p : String} {bytes : ByteArray}
    (h : d.replaceFile cwd p bytes = .ok d') :
    ∃ dir, Path.parent? p = some dir ∧
      (∃ a n, d.locate cwd (tempBeside dir) false = .ok (.absent a n)) ∧
      ∃ t, d.locate cwd p false = .ok t ∧ (∀ P, t ≠ .found P .directory) ∧
        d' = d.put t.place (.file bytes (d.isReadOnly cwd p)) := by
  unfold replaceFile at h
  -- it fails unless the path has a parent, the temporary name is free there and the path
  -- reaches no directory
  split at h
  · cases h
  · rename_i dir hdir
    refine ⟨dir, hdir, ?_⟩
    dsimp only at h
    rw [show Path.join (if dir.isEmpty then "." else dir) freshName = tempBeside dir from rfl] at h
    split at h
    · cases h
    · cases h
    · rename_i a n hfresh
      refine ⟨⟨a, n, hfresh⟩, ?_⟩
      split at h
      · cases h
      · rename_i P e hne hp
        cases h
        exact ⟨_, hp, (fun Q hQ => by cases hQ; exact hne rfl), rfl⟩
      · rename_i a' n' hp
        cases h
        exact ⟨_, hp, (fun Q hQ => by cases hQ), rfl⟩
      · cases h

/-- A replacement of a path that names a place holding no directory, with its temporary file
absent, succeeds. -/
theorem replaceFile_of_found {cwd : List String} {p dir : String} {bytes : ByteArray}
    {P : List String} {e : Entry} {a : List String} {n : String}
    (hdir : Path.parent? p = some dir)
    (hfresh : d.locate cwd (tempBeside dir) false = .ok (.absent a n))
    (hp : d.locate cwd p false = .ok (.found P e)) (he : e.kind ≠ .directory) :
    d.replaceFile cwd p bytes = .ok (d.put P (.file bytes (d.isReadOnly cwd p))) := by
  unfold replaceFile
  rw [hdir]
  simp only [tempBeside] at hfresh
  simp only [hfresh, hp]
  cases e with
  | directory => exact absurd rfl he
  | _ => rfl

/-- Removing a path that names a place holding no directory erases that place. -/
theorem removeFile_of_found {cwd : List String} {p : String} {P : List String} {e : Entry}
    (hp : d.locate cwd p false = .ok (.found P e)) (he : e.kind ≠ .directory) :
    d.removeFile cwd p = .ok (d.erase P) := by
  unfold removeFile
  rw [hp]
  cases e with
  | directory => exact absurd rfl he
  | _ => rfl

theorem contents_of_found {cwd : List String} {p : String} {P : List String} {bytes : ByteArray}
    {ro : Bool} (h : d.locate cwd p true = .ok (.found P (.file bytes ro))) :
    d.contents cwd p = .ok bytes := by
  simp [contents, stat, h]

theorem isReadOnly_of_found {cwd : List String} {p : String} {P : List String} {bytes : ByteArray}
    {ro : Bool} (h : d.locate cwd p true = .ok (.found P (.file bytes ro))) :
    d.isReadOnly cwd p = ro := by
  simp [isReadOnly, stat, h]

theorem isReadOnly_of_absent {cwd : List String} {p : String} {a : List String} {n : String}
    (h : d.locate cwd p true = .ok (.absent a n)) : d.isReadOnly cwd p = false := by
  simp [isReadOnly, stat, h]

end Arbor.Disk
