import Arbor.Disk.Path
/-!
Path texts built by joining names.
-/

namespace Arbor.Disk.Path

/-- A plain name: not empty, without a separator, and neither `.` nor `..`. -/
structure IsName (n : String) : Prop where
  ne_empty : n ≠ ""
  no_sep : '/' ∉ n.toList
  ne_here : n ≠ "."
  ne_up : n ≠ ".."

instance (n : String) : Decidable (IsName n) :=
  decidable_of_iff (n ≠ "" ∧ '/' ∉ n.toList ∧ n ≠ "." ∧ n ≠ "..")
    ⟨fun ⟨a, b, c, d⟩ => ⟨a, b, c, d⟩, fun ⟨a, b, c, d⟩ => ⟨a, b, c, d⟩⟩

/-- A separator cuts the pieces of a text in two. -/
theorem segments_append_sep (a b : String) :
    segments (a ++ "/" ++ b) = segments a ++ segments b := by
  simp [segments, List.splitOn_append_cons_self]

theorem segments_of_no_sep {b : String} (h : '/' ∉ b.toList) : segments b = [b] := by
  simp [segments, List.splitOn_eq_singleton h]

theorem segments_ne_nil (p : String) : segments p ≠ [] := by
  simp [segments]

theorem isAbsolute_iff (p : String) : isAbsolute p = true ↔ ['/'] <+: p.toList := by
  simp [isAbsolute]

theorem isAbsolute_append {a : String} (b : String) (ha : a ≠ "") :
    isAbsolute (a ++ b) = isAbsolute a := by
  obtain ⟨c, cs, hc⟩ := List.exists_cons_of_ne_nil (by simpa using ha : a.toList ≠ [])
  rw [Bool.eq_iff_iff, isAbsolute_iff, isAbsolute_iff, String.toList_append, hc]
  simp

theorem IsName.isAbsolute_eq_false {n : String} (hn : IsName n) : isAbsolute n = false := by
  rw [Bool.eq_false_iff, ne_eq, isAbsolute_iff]
  exact fun h => hn.no_sep (h.subset (List.mem_singleton_self _))

/-- The part a piece of a path text stands for, if any. -/
def partOf (s : String) : Option Part :=
  if s == "" || s == "." then none else if s == ".." then some .up else some (.name s)

/-- The parts of a path from whether it is absolute and its pieces. -/
def partsOf (abs : Bool) (segs : List String) : List Part :=
  if abs then .root :: segs.filterMap partOf
  else if segs.head? == some "." then .here :: (segs.drop 1).filterMap partOf
  else segs.filterMap partOf

/-- The parts of a text read off whether it is absolute and its pieces. -/
theorem parts_eq (p : String) : parts p = partsOf (isAbsolute p) (segments p) := by
  unfold parts partsOf partOf
  by_cases habs : isAbsolute p <;> by_cases hdot : (segments p).head? == some "." <;>
    simp [habs, hdot]

theorem partOf_name {n : String} (hn : IsName n) : partOf n = some (.name n) := by
  simp [partOf, hn.ne_empty, hn.ne_here, hn.ne_up]

theorem partsOf_append {abs : Bool} {segs : List String} (hsegs : segs ≠ []) (more : List String) :
    partsOf abs (segs ++ more) = partsOf abs segs ++ more.filterMap partOf := by
  have hhead : (segs ++ more).head? = segs.head? := by
    cases segs with
    | nil => contradiction
    | cons s rest => rfl
  have hdrop : (segs ++ more).drop 1 = segs.drop 1 ++ more :=
    List.drop_append_of_le_length (List.length_pos_iff.mpr hsegs)
  unfold partsOf
  rw [hhead, hdrop, List.filterMap_append, List.filterMap_append]
  split
  · rfl
  · split <;> rfl

theorem segments_append_sep_empty (q : String) : segments (q ++ "/") = segments q ++ [""] := by
  have h : segments "" = [""] := segments_of_no_sep (by simp)
  simpa [h] using segments_append_sep q ""

theorem filterMap_partOf_name {n : String} (hn : IsName n) :
    [n].filterMap partOf = [.name n] := by
  simp [partOf_name hn]

/-- Joining a plain name adds it as the last part. -/
theorem parts_join {a n : String} (hn : IsName n) : parts (join a n) = parts a ++ [.name n] := by
  unfold join
  by_cases ha : a = ""
  · subst ha
    have hempty : parts "" = [] := by decide
    rw [hempty, List.nil_append, if_pos (by simp), parts_eq, hn.isAbsolute_eq_false,
      segments_of_no_sep hn.no_sep]
    simp [partsOf, partOf_name hn, hn.ne_here]
  · rw [if_neg (by simp [hn.isAbsolute_eq_false, ha]), parts_eq, parts_eq]
    split
    · rename_i hend
      obtain ⟨l, hl⟩ : ['/'] <:+ a.toList := by simpa [← String.endsWith_toSlice] using hend
      have ha' : a = String.ofList l ++ "/" := by
        apply String.toList_inj.mp
        simp [hl]
      rw [isAbsolute_append _ ha, ha', segments_append_sep, segments_append_sep_empty,
        segments_of_no_sep hn.no_sep, partsOf_append (segments_ne_nil _),
        partsOf_append (segments_ne_nil _), filterMap_partOf_name hn]
      simp [partOf]
    · rw [String.append_assoc, isAbsolute_append _ ha, ← String.append_assoc, segments_append_sep,
        segments_of_no_sep hn.no_sep, partsOf_append (segments_ne_nil _), filterMap_partOf_name hn]

theorem fileName?_join {a n : String} (hn : IsName n) : fileName? (join a n) = some n := by
  simp [fileName?, parts_join hn]

example : fileName? (join "src/" "main.py") = some "main.py" :=
  fileName?_join ⟨by decide, by decide, by decide, by decide⟩

theorem fileName?_withFileName {p n : String} (hn : IsName n) :
    fileName? (withFileName p n) = some n := by
  unfold withFileName
  split <;> exact fileName?_join hn

/-- A text joined with plain names in turn has the text's parts followed by the names. -/
theorem parts_foldl_join {ns : List String} (hns : ∀ n ∈ ns, IsName n) (root : String) :
    parts (ns.foldl join root) = parts root ++ ns.map .name := by
  induction ns generalizing root with
  | nil => simp
  | cons n ns ih =>
    rw [List.foldl_cons, ih (fun n' hn' => hns n' (.tail _ hn')),
      parts_join (hns n List.mem_cons_self)]
    simp

theorem not_mem_of_mem_splitOn {c : Char} {cs piece : List Char} (h : piece ∈ cs.splitOn c) :
    c ∉ piece := by
  induction cs generalizing piece with
  | nil => simp_all
  | cons x xs ih =>
    rw [List.splitOn_cons_eq_if_modifyHead] at h
    split at h
    · rcases List.mem_cons.mp h with rfl | h
      · simp
      · exact ih h
    · rename_i hx
      obtain ⟨hd, tl, heq⟩ := List.exists_cons_of_ne_nil (List.splitOn_ne_nil c xs)
      rw [heq] at h ih
      rcases List.mem_cons.mp h with rfl | h
      · simp only [List.mem_cons, not_or]
        exact ⟨fun hcx => hx (by simp [hcx]), ih List.mem_cons_self⟩
      · exact ih (.tail _ h)

theorem no_sep_of_mem_segments {p s : String} (h : s ∈ segments p) : '/' ∉ s.toList := by
  obtain ⟨piece, hpiece, rfl⟩ := List.mem_map.mp h
  simpa using not_mem_of_mem_splitOn hpiece

theorem isName_of_partOf {s n : String} (h : partOf s = some (.name n)) :
    s = n ∧ n ≠ "" ∧ n ≠ "." ∧ n ≠ ".." := by
  unfold partOf at h
  split at h
  · cases h
  · split at h
    · cases h
    · simp_all

theorem isName_of_mem_parts {p n : String} (h : Part.name n ∈ parts p) : IsName n := by
  -- a name part is a piece of the text that is neither empty, `.` nor `..`
  have hfm : ∀ segs : List String, segs ⊆ segments p → Part.name n ∈ segs.filterMap partOf →
      IsName n := by
    intro segs hsub hm
    obtain ⟨s, hs, hpart⟩ := List.mem_filterMap.mp hm
    obtain ⟨rfl, hne, hhere, hup⟩ := isName_of_partOf hpart
    exact ⟨hne, no_sep_of_mem_segments (hsub hs), hhere, hup⟩
  rw [parts_eq] at h
  unfold partsOf at h
  split at h
  · exact hfm _ (List.Subset.refl _) ((List.mem_cons.mp h).resolve_left nofun)
  · split at h
    · exact hfm _ (List.drop_subset 1 _) ((List.mem_cons.mp h).resolve_left nofun)
    · exact hfm _ (List.Subset.refl _) h

/-- A file name is a plain name. -/
theorem isName_of_fileName? {p n : String} (h : fileName? p = some n) : IsName n := by
  unfold fileName? at h
  split at h
  · rename_i s hlast
    cases h
    exact isName_of_mem_parts (List.mem_of_getLast? hlast)
  · cases h

/-- Splitting a name at its last dot: either no extension and the name whole, or the stem, a dot
and the extension. -/
theorem splitName_spec (nm : String) :
    ((splitName nm).2 = none ∧ (splitName nm).1 = nm) ∨
      ∃ ext, (splitName nm).2 = some ext ∧
        nm.toList = (splitName nm).1.toList ++ '.' :: ext.toList := by
  unfold splitName
  split
  · exact .inl ⟨rfl, rfl⟩
  · dsimp only
    split
    · exact .inl ⟨rfl, rfl⟩
    · exact .inl ⟨rfl, rfl⟩
    · split
      · exact .inl ⟨rfl, rfl⟩
      · rename_i hnil hone _
        -- the pieces between dots are the stem's pieces and the extension
        obtain ⟨init, last, hpieces⟩ : ∃ init last, nm.toList.splitOn '.' = init ++ [last] :=
          ⟨_, _, (List.dropLast_concat_getLast (List.splitOn_ne_nil '.' _)).symm⟩
        have hinit : init ≠ [] := by
          rintro rfl
          exact hone _ (by rw [hpieces]; rfl)
        have hjoin : ".".intercalate ((init ++ [last]).map String.ofList) =
            ".".intercalate (init.map String.ofList) ++ "." ++ String.ofList last := by
          rw [List.map_append, String.intercalate_append_of_ne_nil (by simpa using hinit) (by simp)]
          simp
        have hchars : nm.toList = (".".intercalate ((init ++ [last]).map String.ofList)).toList := by
          rw [← hpieces]
          simp [Function.comp_def]
        rw [hjoin] at hchars
        refine .inr ⟨String.ofList last, ?_, ?_⟩
        · simp [hpieces]
        · simp only [hpieces, List.map_append, List.map_cons, List.map_nil, List.dropLast_concat]
          simp [hchars]

@[simp] theorem same_refl (p : String) : same p p = true := by
  simp [same]

/-- Path texts no two of which name one path unless they are one text. -/
def Apart (ps : List String) : Prop := ∀ p ∈ ps, ∀ q ∈ ps, same p q = true → p = q

/-- Among such texts, naming one path is being one text. -/
theorem Apart.same_eq {ps : List String} (h : Apart ps) {p q : String} (hp : p ∈ ps)
    (hq : q ∈ ps) : same p q = (p == q) := by
  by_cases hpq : p = q
  · subst hpq
    simp
  · rw [beq_false_of_ne hpq]
    exact Bool.eq_false_iff.mpr fun hs => hpq (h p hp q hq hs)

end Arbor.Disk.Path
