import Arbor.Tree.Basic
import Arbor.Proofs.Text.Bytes
/-!
Two readings of the lines of a text.
-/

namespace Arbor

open Arbor.Layout
open String (utf8Len)

def joinedChars (pieces : List String) : List Char := (pieces.map String.toList).flatten

/-- The offsets at which pieces start when laid end to end from byte `offset`. -/
def startsFrom : List String → Nat → List Nat
  | [], _ => []
  | p :: ps, offset => offset :: startsFrom ps (offset + p.utf8ByteSize)

namespace Layout

/-- Cutting a list of characters loses none of them. -/
theorem flatten_cutPieces (cur cs : List Char) : (cutPieces cur cs).flatten = cur.reverse ++ cs := by
  induction cs generalizing cur with
  | nil => cases cur <;> simp [cutPieces]
  | cons c cs ih =>
    by_cases hc : c = '\n'
    · simp [cutPieces, hc, ih]
    · simp [cutPieces, hc, ih]

/-- The pieces of a text, laid end to end, are the text. -/
theorem joinedChars_linePieces (text : String) : joinedChars (linePieces text) = text.toList := by
  simp [joinedChars, linePieces, Function.comp_def, flatten_cutPieces]

/-- A line is a prefix of its piece: only the terminator is cut off. -/
theorem pieceLine_prefix (piece : String) : (pieceLine piece).toList <+: piece.toList := by
  have hdrop : ∀ cs : List Char, (cs.dropWhile (· == '\r')).reverse <+: cs.reverse := fun cs =>
    List.reverse_prefix.mpr (List.dropWhile_suffix _)
  simp only [pieceLine, String.toList_ofList]
  split
  · -- a piece ending in a line feed loses it first
    rename_i rest hrest
    have hpiece : piece.toList = rest.reverse ++ ['\n'] := by
      rw [← List.reverse_reverse piece.toList, hrest]
      simp
    rw [hpiece]
    exact (hdrop rest).trans (List.prefix_append _ _)
  · have h := hdrop piece.toList.reverse
    rwa [List.reverse_reverse] at h

theorem feedAtEnd_cutPieces (cur cs : List Char) (hcur : '\n' ∉ cur) :
    ∀ p ∈ cutPieces cur cs, '\n' ∉ p.dropLast ∧ (p.getLast? = some '\n' ∨ '\n' ∉ p) := by
  induction cs generalizing cur with
  | nil =>
    intro p hp
    by_cases hc : cur.isEmpty
    · simp [cutPieces, hc] at hp
    · simp only [cutPieces, hc, Bool.false_eq_true, ↓reduceIte, List.mem_singleton] at hp
      subst hp
      have hr : '\n' ∉ cur.reverse := by simpa using hcur
      exact ⟨fun h => hr ((List.dropLast_sublist _).subset h), .inr hr⟩
  | cons c cs ih =>
    intro p hp
    by_cases hc : c = '\n'
    · simp only [cutPieces, hc, ↓reduceIte, List.mem_cons] at hp
      rcases hp with rfl | hp
      · -- the piece just cut ends in its line feed
        have hr : '\n' ∉ cur.reverse := by simpa using hcur
        simp only [List.reverse_cons]
        exact ⟨by simpa using hr, .inl (by simp)⟩
      · exact ih [] (by simp) p hp
    · simp only [cutPieces, hc, ↓reduceIte] at hp
      exact ih (c :: cur) (by simp [Ne.symm hc, hcur]) p hp

theorem trimLineEnd_eq_pieceLine {p : List Char} (hmid : '\n' ∉ p.dropLast)
    (hend : p.getLast? = some '\n' ∨ '\n' ∉ p) :
    trimLineEnd (String.ofList p) = pieceLine (String.ofList p) := by
  simp only [trimLineEnd, pieceLine, String.toList_ofList]
  congr 3
  rcases hend with hlast | hnone
  · -- one line feed at the end, and none before it
    obtain ⟨body, rfl⟩ := List.getLast?_eq_some_iff.mp hlast
    simp only [List.dropLast_concat] at hmid
    have hrev : '\n' ∉ body.reverse := by simpa using hmid
    simp only [List.reverse_append, List.reverse_cons, List.reverse_nil, List.nil_append,
      List.singleton_append, List.dropWhile_cons, beq_self_eq_true, ↓reduceIte]
    cases hb : body.reverse with
    | nil => rfl
    | cons d ds =>
      have hd : d ≠ '\n' := fun h => hrev (by simp [hb, h])
      simp [hd]
  · have hrev : '\n' ∉ p.reverse := by simpa using hnone
    cases hb : p.reverse with
    | nil => rfl
    | cons d ds =>
      have hd : d ≠ '\n' := fun h => hrev (by simp [hb, h])
      simp [hd]

end Layout

theorem startsFrom_cutPieces (cs cur : List Char) (offset bound : Nat)
    (hbound : bound = offset + utf8Len cur + utf8Len cs) :
    startsFrom ((cutPieces cur cs).map String.ofList) offset =
      if cur = [] ∧ cs = [] then [] else
        offset :: (lineFeedEnds cs (offset + utf8Len cur)).filter (· < bound) := by
  induction cs generalizing cur offset with
  | nil => cases cur <;> simp [cutPieces, startsFrom, lineFeedEnds]
  | cons c cs ih =>
    by_cases hc : c = '\n'
    · -- the piece ends here; the next one starts one byte on
      subst hc
      have hnext : offset + (String.ofList ('\n' :: cur).reverse).utf8ByteSize =
          offset + utf8Len cur + ('\n').utf8Size := by
        rw [← String.utf8Len_toList, String.toList_ofList, String.utf8Len_reverse,
          String.utf8Len_cons, Nat.add_assoc]
      have hfeed : ('\n').utf8Size = 1 := rfl
      rw [cutPieces, if_pos rfl, List.map_cons, startsFrom, hnext,
        ih [] _ (by simp only [String.utf8Len_cons] at hbound; simp [hbound, hfeed]; omega)]
      simp only [lineFeedEnds, List.filter_cons, String.utf8Len_nil, Nat.add_zero, true_and,
        reduceCtorEq, and_false, ↓reduceIte]
      by_cases hcs : cs = []
      · subst hcs
        simp [lineFeedEnds, hbound, hfeed]
      · -- some byte follows the line feed, so the next piece starts before the end
        have hpos : 0 < utf8Len cs := by
          obtain ⟨d, ds, rfl⟩ := List.exists_cons_of_ne_nil hcs
          simp only [String.utf8Len_cons]
          have := Char.utf8Size_pos d
          omega
        simp only [String.utf8Len_cons] at hbound
        rw [if_neg hcs, if_pos (by simp only [decide_eq_true_eq]; omega)]
    · rw [cutPieces, if_neg hc, ih (c :: cur) _ (by simp only [String.utf8Len_cons] at hbound ⊢; omega),
        if_neg (by simp), lineFeedEnds, if_neg hc, String.utf8Len_cons, Nat.add_assoc]
      simp

theorem lineStarts_eq (text : String) : lineStarts text = startsFrom (linePieces text) 0 := by
  rw [linePieces, startsFrom_cutPieces text.toList [] 0 text.utf8ByteSize
    (by simp [String.utf8Len_toList]), lineStarts]
  by_cases h : text.toList = []
  · have : text = "" := String.toList_eq_nil_iff.mp h
    simp [this]
  · have hne : text.isEmpty = false := by
      simpa [String.isEmpty_iff] using fun he : text = "" => h (by simp [he])
    simp [h, hne]

theorem length_startsFrom (pieces : List String) (offset : Nat) :
    (startsFrom pieces offset).length = pieces.length := by
  induction pieces generalizing offset with
  | nil => rfl
  | cons p ps ih => simp [startsFrom, ih]

theorem getElem?_startsFrom {pieces : List String} {i : Nat} (hi : i < pieces.length) (offset : Nat) :
    (startsFrom pieces offset)[i]? = some (offset + utf8Len (joinedChars (pieces.take i))) := by
  induction pieces generalizing i offset with
  | nil => simp at hi
  | cons p ps ih =>
    cases i with
    | zero => simp [startsFrom, joinedChars]
    | succ i =>
      rw [startsFrom, List.getElem?_cons_succ, ih (by simpa using hi)]
      simp [joinedChars, String.utf8Len_toList, Nat.add_assoc]

/-- A text has one line start for each physical line. -/
theorem length_lineStarts (text : String) : (lineStarts text).length = (linePieces text).length := by
  rw [lineStarts_eq, length_startsFrom]

/-- Line `i + 1` of a text starts after the bytes of the pieces before it. -/
theorem getElem?_lineStarts {text : String} {i : Nat} (hi : i < (linePieces text).length) :
    (lineStarts text)[i]? = some (utf8Len (joinedChars ((linePieces text).take i))) := by
  rw [lineStarts_eq, getElem?_startsFrom hi, Nat.zero_add]

/-- A piece of a text holds a line feed only at its end, so a file's cut of its terminator is the
parser's. -/
theorem trimLineEnd_of_mem_linePieces {text p : String} (hp : p ∈ linePieces text) :
    trimLineEnd p = pieceLine p := by
  obtain ⟨cs, hcs, rfl⟩ := List.mem_map.mp hp
  obtain ⟨hmid, hend⟩ := Layout.feedAtEnd_cutPieces [] text.toList (by simp) cs hcs
  exact Layout.trimLineEnd_eq_pieceLine hmid hend

end Arbor
