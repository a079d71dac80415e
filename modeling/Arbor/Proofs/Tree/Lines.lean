import Arbor.Proofs.Tree.WellFormed
import Arbor.Proofs.Search.Cursor
/-!
Lines sit in the text of their file.
-/

namespace Arbor

open Arbor.Layout Arbor.Text Arbor.Outline
open String (utf8Len)

theorem joinedChars_eq {pieces : List String} {i : Nat} {piece : String}
    (h : pieces[i]? = some piece) :
    joinedChars pieces = joinedChars (pieces.take i) ++ piece.toList ++
      joinedChars (pieces.drop (i + 1)) := by
  obtain ⟨hi, rfl⟩ := List.getElem?_eq_some_iff.mp h
  calc joinedChars pieces = joinedChars (pieces.take i ++ pieces[i] :: pieces.drop (i + 1)) := by
        rw [← List.drop_eq_getElem_cons hi, List.take_append_drop]
    _ = _ := by
        simp only [joinedChars, List.map_append, List.map_cons, List.flatten_append,
          List.flatten_cons, List.append_assoc]

theorem joinedChars_append (ps qs : List String) :
    joinedChars (ps ++ qs) = joinedChars ps ++ joinedChars qs := by
  simp [joinedChars]

theorem utf8Len_joinedChars_take_le (pieces : List String) {i j : Nat} (hij : i ≤ j) :
    utf8Len (joinedChars (pieces.take i)) ≤ utf8Len (joinedChars (pieces.take j)) := by
  have h : pieces.take j = pieces.take i ++ (pieces.take j).drop i := by
    conv_lhs => rw [← List.take_append_drop i (pieces.take j)]
    rw [List.take_take, Nat.min_eq_left hij]
  rw [h, joinedChars_append, String.utf8Len_append]
  omega

theorem joinedChars_split (pieces : List String) (a n : Nat) :
    joinedChars pieces = joinedChars (pieces.take a) ++ joinedChars ((pieces.drop a).take n) ++
      joinedChars (pieces.drop (a + n)) := by
  rw [← joinedChars_append, ← joinedChars_append, ← List.take_add, List.take_append_drop]

theorem Outline.Covers.lt_of_ne_nil {lo next : Nat} {spans : List Span} (h : Covers lo spans next)
    (hne : spans ≠ []) : lo < next := by
  cases spans with
  | nil => exact absurd rfl hne
  | cons s rest =>
    obtain ⟨hf, hs, hr⟩ := h
    have := hr.le
    omega

namespace ParsedFile.WellFormed

variable {file : ParsedFile} (hwf : file.WellFormed)
include hwf

/-- A well-formed file has one line for each piece of its text. -/
theorem lineCount_eq : file.lineCount = (linePieces file.text).length := by
  rw [ParsedFile.lineCount, hwf.starts_eq, List.size_toArray, length_lineStarts]

theorem lineOffset_eq {l : Nat} (hl0 : 0 < l) (hl : l ≤ file.lineCount) :
    file.lineOffset l = some (utf8Len (joinedChars ((linePieces file.text).take (l - 1)))) := by
  rw [hwf.lineCount_eq] at hl
  simp only [ParsedFile.lineOffset, Nat.ne_of_gt hl0, ↓reduceIte, hwf.starts_eq,
    List.getElem?_toArray]
  exact getElem?_lineStarts (by omega)

theorem lineOffset_eq_none {l : Nat} (hl : file.lineCount < l) : file.lineOffset l = none := by
  rw [hwf.lineCount_eq] at hl
  simp only [ParsedFile.lineOffset, Nat.ne_of_gt (Nat.zero_lt_of_lt hl), ↓reduceIte,
    hwf.starts_eq, List.getElem?_toArray]
  exact List.getElem?_eq_none (by rw [length_lineStarts]; omega)

theorem lineOffset_eq_some {l o : Nat} (h : file.lineOffset l = some o) :
    0 < l ∧ l ≤ file.lineCount ∧ o = utf8Len (joinedChars ((linePieces file.text).take (l - 1))) := by
  have hl0 : 0 < l := by
    rcases Nat.eq_zero_or_pos l with rfl | hpos
    · simp [ParsedFile.lineOffset] at h
    · exact hpos
  have hl : l ≤ file.lineCount := by
    by_contra hlt
    rw [hwf.lineOffset_eq_none (by omega)] at h
    cases h
  rw [hwf.lineOffset_eq hl0 hl, Option.some_inj] at h
  exact ⟨hl0, hl, h.symm⟩

theorem lineEnd_eq (l : Nat) :
    file.lineEnd l = utf8Len (joinedChars ((linePieces file.text).take l)) := by
  rw [ParsedFile.lineEnd, hwf.starts_eq, List.getElem?_toArray]
  rcases Nat.lt_or_ge l (linePieces file.text).length with hlt | hge
  · rw [getElem?_lineStarts hlt, Option.getD_some]
  · -- the last line ends at the end of the text, after every piece
    rw [List.getElem?_eq_none (by rw [length_lineStarts]; exact hge), Option.getD_none,
      List.take_of_length_le hge, joinedChars_linePieces, String.utf8Len_toList]

theorem slice_eq {a b : Nat} (ha : 1 ≤ a) (hab : a ≤ b + 1) (hb : b ≤ file.lineCount) :
    file.slice ⟨a, b⟩ =
      String.ofList (joinedChars (((linePieces file.text).drop (a - 1)).take (b + 1 - a))) := by
  rcases Nat.lt_or_ge b a with hba | hab'
  · -- an empty span has no text, and covers no piece
    have hempty : b + 1 - a = 0 := by omega
    simp [ParsedFile.slice, Span.isEmpty, hba, hempty, joinedChars]
  · have hsplit := joinedChars_split (linePieces file.text) (a - 1) (b + 1 - a)
    rw [joinedChars_linePieces, show a - 1 + (b + 1 - a) = b by omega] at hsplit
    have hend : file.lineEnd b = utf8Len (joinedChars ((linePieces file.text).take (a - 1))) +
        utf8Len (joinedChars (((linePieces file.text).drop (a - 1)).take (b + 1 - a))) := by
      rw [hwf.lineEnd_eq b, ← String.utf8Len_append, ← joinedChars_append, ← List.take_add,
        show a - 1 + (b + 1 - a) = b by omega]
    simp only [ParsedFile.slice, Span.isEmpty, show ¬ b < a by omega, decide_false,
      Bool.false_eq_true, ↓reduceIte, hwf.lineOffset_eq ha (by omega), hend]
    exact sliceBytes_eq hsplit

theorem line_eq_getElem? (l : Nat) :
    file.line l = if l = 0 then none else (physicalLines file.text)[l - 1]? := by
  rcases Nat.eq_zero_or_pos l with rfl | hl0
  · simp [ParsedFile.line, ParsedFile.lineOffset]
  rw [if_neg (Nat.ne_of_gt hl0), physicalLines, List.getElem?_map]
  rcases Nat.lt_or_ge file.lineCount l with hlt | hle
  · have hnone : (linePieces file.text)[l - 1]? = none :=
      List.getElem?_eq_none (by rw [← hwf.lineCount_eq]; omega)
    rw [ParsedFile.line, hwf.lineOffset_eq_none hlt, hnone]
    rfl
  · have hlt : l - 1 < (linePieces file.text).length := by rw [← hwf.lineCount_eq]; omega
    obtain ⟨piece, hp⟩ : ∃ piece, (linePieces file.text)[l - 1]? = some piece :=
      ⟨_, List.getElem?_eq_getElem hlt⟩
    -- the text between the line's offset and its end is its piece
    have hoff := hwf.lineOffset_eq hl0 hle
    have hslice := hwf.slice_eq (show 1 ≤ l from hl0) (show l ≤ l + 1 by omega) hle
    rw [Nat.add_sub_cancel_left, List.take_one, List.head?_drop, hp, Option.toList_some] at hslice
    simp only [ParsedFile.slice, Span.isEmpty, Nat.lt_irrefl, decide_false, Bool.false_eq_true,
      ↓reduceIte, hoff] at hslice
    rw [ParsedFile.line, hoff, Option.map_some, hp, Option.map_some, hslice]
    simp only [joinedChars, List.map_cons, List.map_nil, List.flatten_cons, List.flatten_nil,
      List.append_nil, String.ofList_toList]
    exact congrArg some (trimLineEnd_of_mem_linePieces (List.mem_of_getElem? hp))

theorem line_eq {l : Nat} {s : String} (hl : file.line l = some s) :
    0 < l ∧ ∃ piece, (linePieces file.text)[l - 1]? = some piece ∧ s = pieceLine piece := by
  rw [hwf.line_eq_getElem?] at hl
  split at hl
  · cases hl
  · rename_i hl0
    rw [physicalLines, List.getElem?_map] at hl
    obtain ⟨piece, hp, rfl⟩ := Option.map_eq_some_iff.mp hl
    exact ⟨by omega, piece, hp, rfl⟩

/-- A line of a well-formed file is one of the physical lines of its text. -/
theorem line_mem_physicalLines {l : Nat} {s : String} (hl : file.line l = some s) :
    s ∈ physicalLines file.text := by
  obtain ⟨-, piece, hp, rfl⟩ := hwf.line_eq hl
  exact List.mem_map.mpr ⟨piece, List.mem_of_getElem? hp, rfl⟩

/-- A line of a well-formed file sits in its text at the line's offset. -/
theorem line_in_text {l : Nat} {s : String} (hl : file.line l = some s) :
    ∃ before after, file.text.toList = before ++ s.toList ++ after ∧
      file.lineOffset l = some (utf8Len before) := by
  obtain ⟨hl0, piece, hp, rfl⟩ := hwf.line_eq hl
  obtain ⟨term, hterm⟩ := Layout.pieceLine_prefix piece
  refine ⟨joinedChars ((linePieces file.text).take (l - 1)),
    term ++ joinedChars ((linePieces file.text).drop (l - 1 + 1)), ?_, ?_⟩
  · rw [← joinedChars_linePieces, joinedChars_eq hp, ← hterm]
    simp
  · have hlt : l - 1 < (linePieces file.text).length := (List.getElem?_eq_some_iff.mp hp).1
    exact hwf.lineOffset_eq hl0 (by rw [hwf.lineCount_eq]; omega)

/-- A later line of a well-formed file starts no sooner than an earlier line ends. -/
theorem lineOffset_add_le {l : Nat} {s : String} (hl : file.line l = some s) {l' o o' : Nat}
    (ho : file.lineOffset l = some o) (ho' : file.lineOffset l' = some o') (hll : l < l') :
    o + s.utf8ByteSize ≤ o' := by
  obtain ⟨hl0, piece, hp, rfl⟩ := hwf.line_eq hl
  obtain ⟨-, -, rfl⟩ := hwf.lineOffset_eq_some ho
  obtain ⟨-, -, rfl⟩ := hwf.lineOffset_eq_some ho'
  -- the pieces before line `l'` include line `l`'s piece, which holds the line
  have hpiece : utf8Len (joinedChars ((linePieces file.text).take (l - 1 + 1))) =
      utf8Len (joinedChars ((linePieces file.text).take (l - 1))) + piece.utf8ByteSize := by
    rw [List.take_add_one, hp]
    simp [joinedChars, String.utf8Len_toList]
  have hline : (pieceLine piece).utf8ByteSize ≤ piece.utf8ByteSize := by
    obtain ⟨term, hterm⟩ := Layout.pieceLine_prefix piece
    rw [← String.utf8Len_toList piece, ← hterm, String.utf8Len_append, String.utf8Len_toList]
    omega
  have hmono := utf8Len_joinedChars_take_le (linePieces file.text) (by omega : l - 1 + 1 ≤ l' - 1)
  omega

theorem line_prefix_suffixBytes {l : Nat} {s : String} (hl : file.line l = some s) :
    ∃ o, file.lineOffset l = some o ∧ s.toList <+: (suffixBytes file.text o).toList := by
  obtain ⟨before, after, htext, hoff⟩ := hwf.line_in_text hl
  refine ⟨utf8Len before, hoff, ?_⟩
  have hsplit : file.text.toList = before ++ (s.toList ++ after) := by
    rw [htext, List.append_assoc]
  rw [suffixBytes_eq hsplit, String.toList_ofList]
  exact List.prefix_append _ _

theorem slice_append {a b c : Nat} (ha : 1 ≤ a) (hab : a ≤ b + 1) (hbc : b ≤ c)
    (hc : c ≤ file.lineCount) :
    file.slice ⟨a, b⟩ ++ file.slice ⟨b + 1, c⟩ = file.slice ⟨a, c⟩ := by
  rw [hwf.slice_eq ha hab (by omega), hwf.slice_eq (by omega) (by omega) hc,
    hwf.slice_eq ha (by omega) hc, ← String.ofList_append, ← joinedChars_append,
    show b + 1 - 1 = a - 1 + (b + 1 - a) by omega, ← List.drop_drop, ← List.take_add,
    show b + 1 - a + (c + 1 - (b + 1)) = c + 1 - a by omega]

theorem slice_all : file.slice ⟨1, file.lineCount⟩ = file.text := by
  rw [hwf.slice_eq le_rfl (by omega) le_rfl, hwf.lineCount_eq, Nat.sub_self, List.drop_zero,
    Nat.add_sub_cancel, List.take_length, joinedChars_linePieces, String.ofList_toList]

theorem join_slice_of_covers {lo next : Nat} {spans : List Span} (h : Covers lo spans next)
    (hlo : 1 ≤ lo) (hnext : next ≤ file.lineCount + 1) :
    String.join (spans.map file.slice) = file.slice ⟨lo, next - 1⟩ := by
  induction spans generalizing lo with
  | nil =>
    simp only [Covers] at h
    subst h
    simp [ParsedFile.slice, Span.isEmpty, show lo - 1 < lo by omega]
  | cons s rest ih =>
    obtain ⟨hf, hne, hr⟩ := h
    have hle := hr.le
    have happ := hwf.slice_append (show 1 ≤ lo from hlo) (show lo ≤ s.last + 1 by omega)
      (show s.last ≤ next - 1 by omega) (show next - 1 ≤ file.lineCount by omega)
    rw [List.map_cons, String.join_cons, ih hr (by omega), ← happ, ← hf]

theorem slice_eq_join_children {i : Nat} (hi : i < file.nodes.size)
    (hkids : (entry file.nodes i).children ≠ #[]) :
    file.slice (entry file.nodes i).span =
      String.join ((entry file.nodes i).children.toList.map fun c => file.slice (entry file.nodes c).span) := by
  have hout := hwf.outline
  by_cases hcase : i = 0 ∧ 0 < file.lineCount ∨ 0 < i ∧ (entry file.nodes i).children ≠ #[]
  · have htiles := hout.children_tile i hi hcase
    -- the node's lines lie in the file, and its first and last are lines of it
    have hnonempty : (entry file.nodes i).span.first ≤ (entry file.nodes i).span.last := by
      have hspans : childSpans file.nodes (entry file.nodes i) ≠ [] := by
        simpa [childSpans] using hkids
      have := htiles.lt_of_ne_nil hspans
      omega
    have hfirst := hout.lines_within i hi (entry file.nodes i).span.first
      (Span.mem_lines.mpr (by simp [Span.contains, hnonempty]))
    have hlast := hout.lines_within i hi (entry file.nodes i).span.last
      (Span.mem_lines.mpr (by simp [Span.contains, hnonempty]))
    have hmap : ((entry file.nodes i).children.toList.map fun c => file.slice (entry file.nodes c).span) =
        (childSpans file.nodes (entry file.nodes i)).map file.slice := by
      simp only [childSpans, List.map_map]
      rfl
    rw [hmap, hwf.join_slice_of_covers htiles hfirst.1 (by omega), Nat.add_sub_cancel]
  · -- only the file node of an empty file is left: its one child has no line
    obtain ⟨rfl, htotal⟩ := IsOutline.empty_of_not_tiled hkids hcase
    obtain ⟨c, hc, -, hspan⟩ := hout.empty_file htotal
    simp [hc, hspan, hout.root.2.2.1, htotal, ParsedFile.slice, Span.isEmpty, Span.empty]

theorem slice_root : file.slice (entry file.nodes 0).span = file.text := by
  rw [hwf.outline.root.2.2.1, hwf.slice_all]

end ParsedFile.WellFormed

/-- A file made from any text numbers its lines as the parser does, and every node with children
has the text of its children, one after the other. -/
theorem ParsedFile.make_lines_agree (isProperty : String → Bool) (path name text : String)
    (structured : Bool) :
    let file := ParsedFile.make isProperty path name text structured
    file.lineCount = (physicalLines text).length ∧
      (∀ i, 1 ≤ i → i ≤ file.lineCount → ∃ line o, file.line i = some line ∧
        (physicalLines text)[i - 1]? = some line ∧ file.lineOffset i = some o ∧
        line.toList <+: (suffixBytes text o).toList) ∧
      file.line 0 = none ∧ file.line (file.lineCount + 1) = none ∧
      (∀ a b c, 1 ≤ a → a ≤ b → b < c → c ≤ file.lineCount →
        file.slice ⟨a, b⟩ ++ file.slice ⟨b + 1, c⟩ = file.slice ⟨a, c⟩) ∧
      file.slice ⟨1, file.lineCount⟩ = text ∧
      file.slice (entry file.nodes 0).span = text ∧
      ∀ i, i < file.nodes.size → (entry file.nodes i).children ≠ #[] →
        file.slice (entry file.nodes i).span =
          String.join ((entry file.nodes i).children.toList.map fun c =>
            file.slice (entry file.nodes c).span) := by
  intro file
  have hwf : file.WellFormed := ParsedFile.make_wellFormed isProperty path name text structured
  have htext : file.text = text := rfl
  have hcount : file.lineCount = (physicalLines text).length := by
    rw [hwf.lineCount_eq, htext, physicalLines, List.length_map]
  refine ⟨hcount, fun i hi1 hi => ?_, ?_, ?_, fun a b c ha hab hbc hc => ?_, ?_, ?_,
    fun i hi hkids => hwf.slice_eq_join_children hi hkids⟩
  · obtain ⟨line, hline⟩ : ∃ line, (physicalLines text)[i - 1]? = some line :=
      ⟨_, List.getElem?_eq_getElem (by omega)⟩
    have hl : file.line i = some line := by
      rw [hwf.line_eq_getElem?, if_neg (by omega), htext, hline]
    obtain ⟨o, ho, hpre⟩ := hwf.line_prefix_suffixBytes hl
    exact ⟨line, o, hl, hline, ho, hpre⟩
  · rw [hwf.line_eq_getElem?, if_pos rfl]
  · rw [hwf.line_eq_getElem?, if_neg (by omega), Nat.add_sub_cancel, htext]
    exact List.getElem?_eq_none (by omega)
  · exact hwf.slice_append ha (by omega) (by omega) hc
  · exact hwf.slice_all
  · exact hwf.slice_root

end Arbor
