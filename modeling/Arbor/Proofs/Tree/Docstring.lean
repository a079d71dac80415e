import Arbor.Tree.Docstring
import Arbor.Proofs.Outline.Resync
import Mathlib.Data.List.TakeWhile
/-!
Cleaning a docstring.
-/

namespace Arbor

open Arbor.Text Arbor.Layout

/-! ### Blanks at either end of a list of characters -/

namespace Text

theorem dropBlanks_append_of_blank {xs : List Char} (h : ∀ c ∈ xs, isBlank c = true)
    (ys : List Char) : dropBlanks (xs ++ ys) = dropBlanks ys := by
  have hnil : xs.dropWhile isBlank = [] := List.dropWhile_eq_nil_iff.mpr h
  simp [dropBlanks, List.dropWhile_append, hnil]

theorem dropTrailingBlanks_append {ys : List Char} {c : Char} (hc : c ∈ ys)
    (hb : isBlank c = false) (xs : List Char) :
    dropTrailingBlanks (xs ++ ys) = xs ++ dropTrailingBlanks ys := by
  have hne : ys.reverse.dropWhile isBlank ≠ [] := by
    intro hnil
    have := List.dropWhile_eq_nil_iff.mp hnil c (List.mem_reverse.mpr hc)
    simp [hb] at this
  simp [dropTrailingBlanks, List.reverse_append, List.dropWhile_append, hne]

theorem dropTrailingBlanks_of_blank {cs : List Char} (h : ∀ c ∈ cs, isBlank c = true) :
    dropTrailingBlanks cs = [] := by
  have hnil : cs.reverse.dropWhile isBlank = [] :=
    List.dropWhile_eq_nil_iff.mpr fun c hc => h c (List.mem_reverse.mp hc)
  simp [dropTrailingBlanks, hnil]

theorem dropBlanks_eq_cons {s : String} (h : allBlank s = false) :
    ∃ c r, dropBlanks s.toList = c :: r ∧ isBlank c = false := by
  cases hd : s.toList.dropWhile isBlank with
  | nil =>
    have : allBlank s = true := List.all_eq_true.mpr (List.dropWhile_eq_nil_iff.mp hd)
    simp [this] at h
  | cons c r =>
    have hhead := List.head?_dropWhile_not isBlank s.toList
    rw [hd] at hhead
    exact ⟨c, r, hd, hhead⟩

end Text

/-! ### Indentation of a line indented with spaces -/

namespace Layout

theorem widthFrom_replicate_space (w n : Nat) (cs : List Char) :
    widthFrom w (List.replicate n ' ' ++ cs) = widthFrom (w + n) cs := by
  induction n generalizing w with
  | zero => rfl
  | succ n ih =>
    rw [List.replicate_succ, List.cons_append, widthFrom, ih]
    congr 1
    omega

theorem widthFrom_cons_of_not_blank {c : Char} (hc : isBlank c = false) (w : Nat)
    (cs : List Char) : widthFrom w (c :: cs) = w := by
  have hsp : c ≠ ' ' := by rintro rfl; simp [isBlank] at hc
  have htab : c ≠ '\t' := by rintro rfl; simp [isBlank] at hc
  have hff : c ≠ '\x0c' := by rintro rfl; simp [isBlank] at hc
  exact widthFrom.eq_4 w (c :: cs) (by simp [hsp]) (by simp [htab]) (by simp [hff])

end Layout

/-! ### Cutting one line -/

namespace Docstring

theorem exists_trim_cons {L : String} (h : allBlank L = false) :
    ∃ c r r', dropBlanks L.toList = c :: r ∧ (trim L).toList = c :: r' ∧ isBlank c = false := by
  obtain ⟨c, r, hcr, hc⟩ := dropBlanks_eq_cons h
  obtain ⟨r', hr'⟩ := dropTrailingBlanks_cons hc r
  exact ⟨c, r, r', hcr, by simp only [trim, String.toList_ofList, hcr, hr'], hc⟩

theorem dedentLine_of_allBlank {L : String} (h : allBlank L = true) (m : Nat) :
    dedentLine m L = "" := by
  have hall : ∀ c ∈ L.toList, isBlank c = true := List.all_eq_true.mp h
  have hdrop : ∀ c ∈ L.toList.drop (min (L.toList.takeWhile isBlank).length m), isBlank c = true :=
    fun c hc => hall c (List.mem_of_mem_drop hc)
  simp [dedentLine, dropTrailingBlanks_of_blank hdrop]

theorem toList_dedentLine {L : String} (h : allBlank L = false) (m : Nat) :
    (dedentLine m L).toList = (L.toList.takeWhile isBlank).drop m ++ (trim L).toList := by
  obtain ⟨c, r, hcr, hc⟩ := dropBlanks_eq_cons h
  simp only [dedentLine, String.toList_ofList, trim, hcr]
  set P := L.toList.takeWhile isBlank
  have hsplit : L.toList = P ++ c :: r := by
    rw [← hcr, dropBlanks, List.takeWhile_append_dropWhile]
  -- the cut stays within the leading blanks, and what follows them keeps its last non-blank
  have hcut : L.toList.drop (min P.length m) = P.drop m ++ c :: r := by
    rw [hsplit, List.drop_append_of_le_length (Nat.min_le_left _ _)]
    congr 1
    rcases Nat.le_total m P.length with hm | hm
    · rw [Nat.min_eq_right hm]
    · rw [Nat.min_eq_left hm, List.drop_length, List.drop_eq_nil_of_le hm]
  rw [hcut, dropTrailingBlanks_append List.mem_cons_self hc]

theorem trimStart_dedentLine (m : Nat) (L : String) : trimStart (dedentLine m L) = trim L := by
  cases hb : allBlank L with
  | true =>
    have hall : ∀ c ∈ L.toList, isBlank c = true := List.all_eq_true.mp hb
    rw [dedentLine_of_allBlank hb]
    simp [trimStart, trim, dropBlanks, List.dropWhile_eq_nil_iff.mpr hall, dropTrailingBlanks]
  | false =>
    obtain ⟨c, _, _, -, htrim, hc⟩ := exists_trim_cons hb
    have hblank : ∀ d ∈ (L.toList.takeWhile isBlank).drop m, isBlank d = true :=
      fun d hd => List.mem_takeWhile_imp (List.mem_of_mem_drop hd)
    rw [trimStart, toList_dedentLine hb, dropBlanks_append_of_blank hblank, htrim, dropBlanks,
      List.dropWhile_cons_of_neg (by simp [hc]), ← htrim, String.ofList_toList]

theorem indentation_dedentLine_of_spaces {L : String} (h : allBlank L = false)
    (hs : ∀ c ∈ L.toList.takeWhile isBlank, c = ' ') (m : Nat) :
    indentation (dedentLine m L) = indentation L - m := by
  obtain ⟨c, r, r', hcr, htrim, hc⟩ := exists_trim_cons h
  rw [indentation, toList_dedentLine h, htrim]
  set P := L.toList.takeWhile isBlank
  have hspaces : P = List.replicate P.length ' ' := List.eq_replicate_iff.mpr ⟨rfl, hs⟩
  have hsplit : L.toList = List.replicate P.length ' ' ++ c :: r := by
    rw [← hspaces, ← hcr, dropBlanks, List.takeWhile_append_dropWhile]
  have hwidth : indentation L = P.length := by
    rw [indentation, hsplit, widthFrom_replicate_space, widthFrom_cons_of_not_blank hc,
      Nat.zero_add]
  rw [hspaces, List.drop_replicate, widthFrom_replicate_space, widthFrom_cons_of_not_blank hc,
    hwidth, Nat.zero_add]

/-- The lines `\tA` and `\t\tB` have margin 8; the second, 16 columns deep, is cut to column 0. -/
example : indentation "\t\tB" = 16 ∧ dedentLine 8 "\t\tB" = "B" := by decide

/-! ### The margin and the whole docstring -/

/-- The continuation lines of a raw docstring: its lines after the first. -/
def continuationLines (raw : String) : List String := (textLines raw).drop 1

/-- The margin of a raw docstring: the least indentation of its non-blank continuation lines,
and 0 when every one is blank. -/
def margin (raw : String) : Nat :=
  (((continuationLines raw).filter fun l => !allBlank l).map indentation).min?.getD 0

theorem margin_le_indentation {raw L : String} (hL : L ∈ continuationLines raw)
    (hb : allBlank L = false) : margin raw ≤ indentation L := by
  have hmem : indentation L ∈ ((continuationLines raw).filter fun l => !allBlank l).map indentation :=
    List.mem_map_of_mem (List.mem_filter.mpr ⟨hL, by simp [hb]⟩)
  cases hmin : (((continuationLines raw).filter fun l => !allBlank l).map indentation).min? with
  | none => simp [List.min?_eq_none_iff.mp hmin] at hmem
  | some w =>
    simp only [margin, hmin, Option.getD_some]
    exact (List.min?_eq_some_iff.mp hmin).2 _ hmem

theorem clean_eq (raw : String) :
    clean raw = "\n".intercalate
      (((trim ((textLines raw).headD "") ::
          (continuationLines raw).map (dedentLine (margin raw))).reverse.dropWhile
            (·.isEmpty)).reverse.dropWhile (·.isEmpty)) := by
  simp only [clean, margin, continuationLines]
  split
  next hnil => rw [hnil, List.min?_nil, Option.getD_none]
  next w ws hcons => rw [hcons, List.min?_cons', Option.getD_some]

theorem exists_split_ends {α : Type} (p : α → Bool) (xs : List α) :
    ∃ pre post, xs = pre ++ (xs.reverse.dropWhile p).reverse.dropWhile p ++ post ∧
      (∀ x ∈ pre, p x = true) ∧ (∀ x ∈ post, p x = true) ∧
      (∀ x ∈ ((xs.reverse.dropWhile p).reverse.dropWhile p).head?, p x = false) ∧
      (∀ x ∈ ((xs.reverse.dropWhile p).reverse.dropWhile p).getLast?, p x = false) := by
  set kept := (xs.reverse.dropWhile p).reverse
  have hxs : xs = kept ++ (xs.reverse.takeWhile p).reverse := calc
    xs = (xs.reverse.takeWhile p ++ xs.reverse.dropWhile p).reverse := by
      rw [List.takeWhile_append_dropWhile, List.reverse_reverse]
    _ = kept ++ (xs.reverse.takeWhile p).reverse := List.reverse_append
  refine ⟨kept.takeWhile p, (xs.reverse.takeWhile p).reverse, ?_, ?_, ?_, ?_, ?_⟩
  · rw [List.takeWhile_append_dropWhile]
    exact hxs
  · exact fun x hx => List.mem_takeWhile_imp hx
  · exact fun x hx => List.mem_takeWhile_imp (List.mem_reverse.mp hx)
  · intro x hx
    have hnot := List.head?_dropWhile_not p kept
    rw [Option.mem_def.mp hx] at hnot
    exact hnot
  · -- the last element kept is the last of `kept`, which starts the reversed list after its run
    intro x hx
    have hlast : kept.getLast? = some x := by
      rw [← @List.takeWhile_append_dropWhile _ p kept, List.getLast?_append,
        Option.mem_def.mp hx, Option.some_or]
    have hnot := List.head?_dropWhile_not p xs.reverse
    rw [← List.getLast?_reverse, hlast] at hnot
    exact hnot

/-- Cleaning a docstring keeps its continuation lines, each cut by the margin and trimmed at the
end, and drops only empty lines around them. -/
theorem clean_dedents_continuation_lines (raw : String) :
    ∃ pre lines post,
      trim ((textLines raw).headD "") :: (continuationLines raw).map (dedentLine (margin raw)) =
        pre ++ lines ++ post ∧
      (∀ l ∈ pre, l = "") ∧ (∀ l ∈ post, l = "") ∧
      (∀ l ∈ lines.head?, l ≠ "") ∧ (∀ l ∈ lines.getLast?, l ≠ "") ∧
      clean raw = "\n".intercalate lines ∧
      ∀ L ∈ continuationLines raw,
        (allBlank L = true → dedentLine (margin raw) L = "") ∧
        (allBlank L = false →
          margin raw ≤ indentation L ∧
          (dedentLine (margin raw) L).toList =
            (L.toList.takeWhile isBlank).drop (margin raw) ++ (trim L).toList ∧
          trimStart (dedentLine (margin raw) L) = trim L ∧
          ((∀ c ∈ L.toList.takeWhile isBlank, c = ' ') →
            indentation (dedentLine (margin raw) L) = indentation L - margin raw)) := by
  obtain ⟨pre, post, hsplit, hpre, hpost, hhead, hlast⟩ := exists_split_ends (·.isEmpty)
    (trim ((textLines raw).headD "") :: (continuationLines raw).map (dedentLine (margin raw)))
  refine ⟨pre, _, post, hsplit, fun l hl => String.isEmpty_iff.mp (hpre l hl),
    fun l hl => String.isEmpty_iff.mp (hpost l hl), ?_, ?_, clean_eq raw, ?_⟩
  · intro l hl hempty
    simpa [hempty] using hhead l hl
  · intro l hl hempty
    simpa [hempty] using hlast l hl
  · intro L hL
    exact ⟨fun hb => dedentLine_of_allBlank hb _, fun hb => ⟨margin_le_indentation hL hb,
      toList_dedentLine hb _, trimStart_dedentLine _ _,
      fun hs => indentation_dedentLine_of_spaces hb hs _⟩⟩

end Docstring

end Arbor
