import Arbor.Proofs.Outline.Declarative
import Arbor.Proofs.Tree.Lines
import Mathlib.Data.List.Find
import Mathlib.Data.List.TakeWhile
/-!
A header in column 0 outside a string resynchronizes the outline.
-/

namespace Arbor.Layout

open Arbor.Text

theorem tail_cutPieces (cur cs : List Char) : ∃ t, (cutPieces cur cs).tail = cutPieces [] t := by
  induction cs generalizing cur with
  | nil => exact ⟨[], by cases cur <;> simp [cutPieces]⟩
  | cons c cs ih =>
    by_cases hc : c = '\n'
    · exact ⟨cs, by simp [cutPieces, hc]⟩
    · simpa [cutPieces, hc] using ih (c :: cur)

theorem drop_cutPieces (cs : List Char) (m : Nat) : ∃ t, (cutPieces [] cs).drop m = cutPieces [] t := by
  induction m with
  | zero => exact ⟨cs, rfl⟩
  | succ m ih =>
    obtain ⟨t, ht⟩ := ih
    obtain ⟨t', ht'⟩ := tail_cutPieces [] t
    exact ⟨t', by rw [← List.tail_drop, ht, ht']⟩

/-- The text from line `h` on: the pieces of the text from the `h`-th on, laid end to end. -/
def suffixFrom (text : String) (h : Nat) : String := String.join ((linePieces text).drop (h - 1))

theorem linePieces_suffixFrom (text : String) (h : Nat) :
    linePieces (suffixFrom text h) = (linePieces text).drop (h - 1) := by
  obtain ⟨t, ht⟩ := drop_cutPieces text.toList (h - 1)
  have hchars : (suffixFrom text h).toList = t := by
    rw [suffixFrom, String.toList_join, linePieces, ← List.map_drop, ht, List.flatMap_map]
    simp [flatten_cutPieces]
  rw [linePieces, hchars, linePieces, ← List.map_drop, ht]

theorem physicalLines_suffixFrom (text : String) (h : Nat) :
    physicalLines (suffixFrom text h) = (physicalLines text).drop (h - 1) := by
  rw [physicalLines, physicalLines, linePieces_suffixFrom, List.map_drop]

/-- The lexical state after reading the given lines from state `s`. -/
def stateAfter (s : Lexer.State) (lines : List String) : Lexer.State :=
  lines.foldl (fun s line => (step s line).2) s

theorem classifyFrom_append (s : Lexer.State) (xs ys : List String) :
    classifyFrom s (xs ++ ys) = classifyFrom s xs ++ classifyFrom (stateAfter s xs) ys := by
  induction xs generalizing s with
  | nil => rfl
  | cons x xs ih => simp [classifyFrom, stateAfter, ih]

/-- Whether a line is a `def`, `class` or `async def` header in column 0. -/
def startsTopLevelHeader (line : String) : Bool :=
  indentation line == 0 && startsHeader (dropBlanks line.toList)

theorem startsTopLevelHeader_iff {line : String} :
    startsTopLevelHeader line ↔ widthFrom 0 line.toList = 0 ∧ startsHeader (dropBlanks line.toList) := by
  simp [startsTopLevelHeader, indentation]

theorem startsHeader_cons {t : List Char} (h : startsHeader t) :
    ∃ c cs, t = c :: cs ∧ (c = 'd' ∨ c = 'c' ∨ c = 'a') := by
  match t with
  | [] => simp [startsHeader] at h
  | c :: cs =>
    simp [startsHeader] at h
    obtain (⟨rfl, -⟩ | ⟨rfl, -⟩) | ⟨rfl, -⟩ := h <;> simp

theorem keywordInitial {c : Char} (hc : c = 'd' ∨ c = 'c' ∨ c = 'a') :
    isBlank c = false ∧ c ≠ '#' ∧ c ≠ '@' ∧ c ≠ '\uFEFF' := by
  rcases hc with rfl | rfl | rfl <;> decide

/-- Trimming the end of a line that starts with a character other than a blank keeps that
character first. -/
theorem dropTrailingBlanks_cons {c : Char} (hc : isBlank c = false) (cs : List Char) :
    ∃ r, dropTrailingBlanks (c :: cs) = c :: r := by
  rw [dropTrailingBlanks, List.reverse_cons, List.dropWhile_append]
  split
  · exact ⟨[], by simp [hc]⟩
  · exact ⟨(cs.reverse.dropWhile isBlank).reverse, by simp⟩

theorem step_of_startsTopLevelHeader {s : Lexer.State} (hs : s.triple = none) {line : String}
    (hl : startsTopLevelHeader line) : step s line = step {} line := by
  obtain ⟨hw, hh⟩ := startsTopLevelHeader_iff.mp hl
  obtain ⟨triple, depth⟩ := s
  simp only at hs
  subst hs
  simp [step, Lexer.State.inLogicalLine, hw, hh]

theorem step_fst_of_startsTopLevelHeader {line : String} (hl : startsTopLevelHeader line) :
    (step {} line).1 = .code 0 := by
  obtain ⟨hw, hh⟩ := startsTopLevelHeader_iff.mp hl
  obtain ⟨c, cs, hcs, hc⟩ := startsHeader_cons hh
  obtain ⟨hblank, hhash, -, -⟩ := keywordInitial hc
  simp [step, Lexer.State.inLogicalLine, hw, hcs, hblank, hhash]

theorem not_bom_of_startsTopLevelHeader {line : String} (hl : startsTopLevelHeader line)
    (rest : List Char) : line.toList ≠ '\uFEFF' :: rest := by
  intro hbom
  obtain ⟨-, hh⟩ := startsTopLevelHeader_iff.mp hl
  -- the mark is no blank, so the trimmed text would start with it
  have hdrop : dropBlanks line.toList = '\uFEFF' :: rest := by
    simp [hbom, dropBlanks, show isBlank '\uFEFF' = false by decide]
  obtain ⟨c, cs, hcs, hc⟩ := startsHeader_cons hh
  rw [hdrop, List.cons.injEq] at hcs
  exact (keywordInitial hc).2.2.2 hcs.1.symm

end Arbor.Layout

namespace Arbor.Outline

open Arbor.Layout Arbor.Text

theorem classify_drop_of_startsTopLevelHeader {lines : List String} {o : Nat}
    (ho : o < lines.length) (hstr : (stateAfter {} (lines.take o)).triple = none)
    (hl : startsTopLevelHeader (lines.getD o "")) :
    (classify lines).drop o = classify (lines.drop o) := by
  have hcons := drop_pred_eq_cons lines "" (Nat.le_add_left 1 o) ho
  rw [Nat.add_sub_cancel] at hcons
  conv_lhs => rw [← List.take_append_drop o lines]
  rw [classify, classifyFrom_append, List.drop_left' (by simp; omega), hcons, classify,
    classifyFrom, classifyFrom, step_of_startsTopLevelHeader hstr hl]

theorem takeWhile_congr_of_mem {α : Type} {p q : α → Bool} :
    ∀ {l : List α}, (∀ x ∈ l, p x = q x) → l.takeWhile p = l.takeWhile q
  | [], _ => rfl
  | x :: xs, h => by
    rw [List.takeWhile_cons, List.takeWhile_cons, h x List.mem_cons_self,
      takeWhile_congr_of_mem fun y hy => h y (List.mem_cons_of_mem x hy)]

section Shift

variable {lines : List String} {kinds : List LineKind} {o : Nat}

/-! Line `l` of the lines from line `o + 1` on is line `l + o` of the file. -/

theorem getD_drop {α : Type} (xs : List α) (d : α) {l : Nat} (hl : 1 ≤ l) :
    (xs.drop o).getD (l - 1) d = xs.getD (l + o - 1) d := by
  rw [List.getD_eq_getElem?_getD, List.getD_eq_getElem?_getD, List.getElem?_drop,
    show o + (l - 1) = l + o - 1 by omega]

theorem kindAt_drop {l : Nat} (hl : 1 ≤ l) : kindAt (kinds.drop o) l = kindAt kinds (l + o) :=
  getD_drop kinds .blank hl

theorem lineText_drop {l : Nat} (hl : 1 ≤ l) : lineText (lines.drop o) l = lineText lines (l + o) := by
  rw [lineText, lineText, getD_drop lines "" hl]

theorem codeIndentAt_drop {l : Nat} (hl : 1 ≤ l) :
    codeIndentAt (kinds.drop o) l = codeIndentAt kinds (l + o) := by
  rw [codeIndentAt, codeIndentAt, kindAt_drop hl]

theorem indentOf_drop {l : Nat} (hl : 1 ≤ l) : indentOf (kinds.drop o) l = indentOf kinds (l + o) := by
  rw [indentOf, indentOf, codeIndentAt_drop hl]

theorem closes_drop {l : Nat} (hl : 1 ≤ l) (I : Nat) :
    closes (kinds.drop o) l I = closes kinds (l + o) I := by
  rw [closes, closes, kindAt_drop hl, List.drop_drop, Nat.add_comm o l]

theorem isHeaderLine_drop {l : Nat} (hl : 1 ≤ l) :
    isHeaderLine (lines.drop o) (kinds.drop o) l = isHeaderLine lines kinds (l + o) := by
  rw [isHeaderLine, isHeaderLine, codeIndentAt_drop hl, lineText_drop hl]

theorem isDecoratorAt_drop {l : Nat} (hl : 1 ≤ l) (I : Nat) :
    isDecoratorAt (lines.drop o) (kinds.drop o) I l = isDecoratorAt lines kinds I (l + o) := by
  rw [isDecoratorAt, isDecoratorAt, codeIndentAt_drop hl, lineText_drop hl]

theorem range'_add (s n : Nat) : List.range' (s + o) n = (List.range' s n).map (· + o) := by
  rw [show (fun l => l + o) = (o + ·) from funext fun l => Nat.add_comm l o, List.map_add_range',
    Nat.add_comm]

theorem endLine_drop (ho : o ≤ kinds.length) (g I : Nat) :
    endLine kinds (g + o) I = endLine (kinds.drop o) g I + o := by
  have hrange : List.range' (g + o + 1) (kinds.length - (g + o)) =
      (List.range' (g + 1) ((kinds.drop o).length - g)).map (· + o) := by
    rw [List.length_drop, show g + o + 1 = g + 1 + o by omega, range'_add,
      show kinds.length - (g + o) = kinds.length - o - g by omega]
  have hfind : (List.range' (g + 1) ((kinds.drop o).length - g)).find? ((closes kinds · I) ∘ (· + o)) =
      (List.range' (g + 1) ((kinds.drop o).length - g)).find? (closes (kinds.drop o) · I) :=
    List.find?_congr fun l hl => by
      rw [Function.comp_apply, closes_drop (by have := (List.mem_range'_1.mp hl).1; omega)]
  rw [endLine, endLine, hrange, List.find?_map, hfind]
  cases hf : (List.range' (g + 1) ((kinds.drop o).length - g)).find? (closes (kinds.drop o) · I) with
  | none => simp; omega
  | some l =>
    have := (List.mem_range'_1.mp (List.mem_of_find?_eq_some hf)).1
    simp only [Option.map_some]
    omega

theorem headersBefore_drop {k : Nat} (hk : 1 ≤ k) :
    headersBefore lines kinds (k + o) = headersBefore lines kinds (o + 1) ++
      (headersBefore (lines.drop o) (kinds.drop o) k).map (· + o) := by
  rw [headersBefore_append (Nat.le_add_left 1 o) (by omega), show k + o - (o + 1) = k - 1 by omega,
    Nat.add_comm o 1, range'_add, List.filter_map]
  congr 2
  refine List.filter_congr fun l hl => ?_
  rw [Function.comp_apply, isHeaderLine_drop (List.mem_range'_1.mp hl).1]

theorem nodeIndex_drop {g : Nat} (hg : 1 ≤ g) :
    nodeIndex lines kinds (g + o) =
      nodeIndex (lines.drop o) (kinds.drop o) g + (headersBefore lines kinds (o + 1)).length := by
  rw [nodeIndex, nodeIndex, headersBefore_drop hg, List.length_append, List.length_map]
  omega

theorem codeBefore_drop {k : Nat} (hk : 1 ≤ k) :
    codeBefore kinds (k + o) = (codeBefore (kinds.drop o) k).map (· + o) ++ codeBefore kinds (o + 1) := by
  have hsplit : List.range' 1 (k + o - 1) = List.range' 1 o ++ (List.range' 1 (k - 1)).map (· + o) := by
    rw [← range'_add, show k + o - 1 = o + (k - 1) by omega, List.range'_append_1]
  have hfilter : ((List.range' 1 (k - 1)).map (· + o)).filter (fun l => (codeIndentAt kinds l).isSome) =
      ((List.range' 1 (k - 1)).filter fun l => (codeIndentAt (kinds.drop o) l).isSome).map (· + o) := by
    rw [List.filter_map]
    congr 1
    refine List.filter_congr fun l hl => ?_
    rw [Function.comp_apply, codeIndentAt_drop (List.mem_range'_1.mp hl).1]
  rw [codeBefore, codeBefore, codeBefore, hsplit, List.filter_append, hfilter, List.reverse_append,
    List.map_reverse, Nat.add_sub_cancel]

/-- A node of the lines from line `o + 1` on as a node of the whole file, with `m` header
nodes above that line: its lines shifted by `o`, and its parent past those `m` nodes unless it
is the file. -/
def Node.shift (m o : Nat) (n : Node) : Node :=
  { n with
    span := ⟨n.span.first + o, n.span.last + o⟩
    parent := n.parent.map fun p => if p = 0 then 0 else p + m }

/-- Line `o + 1` resynchronizes the reading: it is a code line in column 0 that is no
decorator, and no decorator run in column 0 stands right above it. -/
structure ResyncLine (lines : List String) (kinds : List LineKind) (o : Nat) : Prop where
  lt_length : o < kinds.length
  code : kindAt kinds (o + 1) = .code 0
  not_decorator : decorator? (lineText lines (o + 1)) = none
  no_run : decoratorRun lines kinds (o + 1) 0 = []

namespace ResyncLine

variable (hr : ResyncLine lines kinds o)
include hr

theorem endLine_lt {g : Nat} (hg : g < o + 1) (I : Nat) : endLine kinds g I < o + 1 :=
  endLine_lt_of_closes hg hr.lt_length (by simp [closes, hr.code])

theorem decoratorRun_drop {k I : Nat} (hk : 1 ≤ k) (hkI : k = 1 → I = 0) :
    decoratorRun lines kinds (k + o) I =
      (decoratorRun (lines.drop o) (kinds.drop o) k I).map (· + o) := by
  rcases Nat.lt_or_ge 1 k with hk2 | hk1
  · have hcode : (codeIndentAt (kinds.drop o) 1).isSome := by
      rw [codeIndentAt_drop le_rfl, Nat.add_comm, codeIndentAt, hr.code]
      rfl
    have hmem : 1 + o ∈ (codeBefore (kinds.drop o) k).map (· + o) :=
      List.mem_map.mpr ⟨1, mem_codeBefore.mpr ⟨le_rfl, hk2, hcode⟩, rfl⟩
    have hnot : isDecoratorAt lines kinds I (1 + o) = false := by
      simp [isDecoratorAt, Nat.add_comm 1 o, hr.not_decorator]
    rw [decoratorRun, codeBefore_drop hk, List.takeWhile_append, if_neg, List.takeWhile_map,
      decoratorRun]
    · congr 1
      exact takeWhile_congr_of_mem fun l hl => by
        rw [Function.comp_apply, isDecoratorAt_drop (mem_codeBefore.mp hl).1]
    · -- the run stops at line `o + 1` at the latest
      intro hlen
      have hall := List.takeWhile_eq_self_iff.mp ((List.takeWhile_prefix _).eq_of_length hlen)
      rw [hall _ hmem] at hnot
      exact Bool.noConfusion hnot
  · obtain rfl : k = 1 := by omega
    obtain rfl := hkI rfl
    rw [Nat.add_comm, hr.no_run]
    rfl

theorem startLine_drop {k I : Nat} (hk : 1 ≤ k) (hkI : k = 1 → I = 0) :
    startLine lines kinds (k + o) I = startLine (lines.drop o) (kinds.drop o) k I + o := by
  rw [startLine, startLine, hr.decoratorRun_drop hk hkI, List.getLast?_map]
  cases (decoratorRun (lines.drop o) (kinds.drop o) k I).getLast? <;> rfl

theorem runNames_drop {k I : Nat} (hk : 1 ≤ k) (hkI : k = 1 → I = 0) :
    runNames lines kinds (k + o) I = runNames (lines.drop o) (kinds.drop o) k I := by
  rw [runNames, runNames, hr.decoratorRun_drop hk hkI, ← List.map_reverse, List.filterMap_map]
  congr 1
  refine List.filterMap_congr fun l hl => ?_
  have hl1 : 1 ≤ l := (mem_codeBefore.mp
    ((List.takeWhile_subset _) (List.mem_reverse.mp hl))).1
  rw [Function.comp_apply, lineText_drop hl1]

theorem parentOf_drop {g : Nat} (hg : 1 ≤ g) :
    parentOf lines kinds (g + o) =
      if parentOf (lines.drop o) (kinds.drop o) g = 0 then 0
      else parentOf (lines.drop o) (kinds.drop o) g + (headersBefore lines kinds (o + 1)).length := by
  have hfilter : (headersBefore lines kinds (g + o)).filter
      (fun x => decide (g + o ≤ endLine kinds x (indentOf kinds x))) =
        ((headersBefore (lines.drop o) (kinds.drop o) g).filter fun x =>
          decide (g ≤ endLine (kinds.drop o) x (indentOf (kinds.drop o) x))).map (· + o) := by
    rw [headersBefore_drop hg, List.filter_append, List.filter_eq_nil_iff.mpr, List.nil_append,
      List.filter_map]
    · congr 1
      refine List.filter_congr fun x hx => ?_
      have hx1 := (mem_headersBefore.mp hx).1
      rw [Function.comp_apply, endLine_drop hr.lt_length.le, ← indentOf_drop hx1]
      simp
    · -- the nodes above line `o + 1` end before it
      intro x hx
      have := hr.endLine_lt (mem_headersBefore.mp hx).2.1 (indentOf kinds x)
      simp only [decide_eq_true_eq]
      omega
  rw [parentOf, parentOf, hfilter, List.getLast?_map]
  cases hl : ((headersBefore (lines.drop o) (kinds.drop o) g).filter fun x =>
      decide (g ≤ endLine (kinds.drop o) x (indentOf (kinds.drop o) x))).getLast? with
  | none => rfl
  | some x =>
    have hx1 : 1 ≤ x := (mem_headersBefore.mp (List.mem_filter.mp (List.mem_of_getLast? hl)).1).1
    simp only [Option.map_some, nodeIndex_drop hx1]
    simp [nodeIndex]

theorem headerLines_drop :
    headerLines lines kinds =
      headersBefore lines kinds (o + 1) ++ (headerLines (lines.drop o) (kinds.drop o)).map (· + o) := by
  rw [headerLines, headerLines, List.length_drop,
    show kinds.length + 1 = kinds.length - o + 1 + o by have := hr.lt_length; omega,
    headersBefore_drop (Nat.le_add_left 1 _)]

theorem headerNode_drop (isProperty : String → Bool) {g : Nat} (hg : 1 ≤ g) :
    headerNode isProperty lines kinds (g + o) =
      (headerNode isProperty (lines.drop o) (kinds.drop o) g).shift
        (headersBefore lines kinds (o + 1)).length o := by
  -- the header line at `o + 1` sits in column 0, so its own run is the empty one
  have hgI : g = 1 → indentOf (kinds.drop o) g = 0 := by
    rintro rfl
    rw [indentOf_drop le_rfl, Nat.add_comm, indentOf, codeIndentAt, hr.code]
    rfl
  simp only [headerNode, Node.shift, ← indentOf_drop hg, ← lineText_drop hg,
    hr.runNames_drop hg hgI, hr.startLine_drop hg hgI, endLine_drop hr.lt_length.le,
    hr.parentOf_drop hg, Option.map_some]

theorem getElem_headerLines_of_lt {j : Nat} (hj : j < (headersBefore lines kinds (o + 1)).length)
    (hj' : j < (headerLines lines kinds).length) :
    (headerLines lines kinds)[j] = (headersBefore lines kinds (o + 1))[j] := by
  simp only [hr.headerLines_drop, List.getElem_append_left hj]

theorem getElem_headerLines_drop {j : Nat} (hj : j < (headerLines (lines.drop o) (kinds.drop o)).length)
    (hj' : (headersBefore lines kinds (o + 1)).length + j < (headerLines lines kinds).length) :
    (headerLines lines kinds)[(headersBefore lines kinds (o + 1)).length + j] =
      (headerLines (lines.drop o) (kinds.drop o))[j] + o := by
  simp [hr.headerLines_drop, List.getElem_append_right]

end ResyncLine

end Shift

theorem resyncLine_of_startsTopLevelHeader {lines : List String} {o : Nat} (ho : o < lines.length)
    (hstr : (stateAfter {} (lines.take o)).triple = none) (hl : startsTopLevelHeader (lines.getD o ""))
    (hrun : decoratorRun lines (classify lines) (o + 1) 0 = []) :
    ResyncLine lines (classify lines) o := by
  have hcons := drop_pred_eq_cons lines "" (Nat.le_add_left 1 o) ho
  rw [Nat.add_sub_cancel] at hcons
  refine ⟨by simpa using ho, ?_, ?_, hrun⟩
  · -- line `o + 1` is the first line of the later lines
    rw [Nat.add_comm, ← kindAt_drop le_rfl, classify_drop_of_startsTopLevelHeader ho hstr hl, hcons]
    exact step_fst_of_startsTopLevelHeader hl
  · -- its text starts with the keyword's first letter, so it is no decorator
    obtain ⟨-, hh⟩ := startsTopLevelHeader_iff.mp hl
    obtain ⟨c, cs, hcs, hc⟩ := startsHeader_cons hh
    obtain ⟨hblank, -, hat, -⟩ := keywordInitial hc
    obtain ⟨r, hr⟩ := dropTrailingBlanks_cons hblank cs
    have htext : lineText lines (o + 1) = c :: r := by
      rw [lineText, Nat.add_sub_cancel, hcs, hr]
    cases hd : decorator? (lineText lines (o + 1)) with
    | none => rfl
    | some d =>
      obtain ⟨ds, hds⟩ := decorator?_cons hd
      rw [htext, List.cons.injEq] at hds
      exact absurd hds.1 hat

theorem parseLines_drop_of_resync (isProperty : String → Bool) (name : String) {lines : List String}
    {o : Nat} (hr : ResyncLine lines (classify lines) o)
    (hkinds : (classify lines).drop o = classify (lines.drop o)) :
    let nodes := parseLines isProperty name lines
    let nodes' := parseLines isProperty name (lines.drop o)
    let m := (headersBefore lines (classify lines) (o + 1)).length
    let n := (headerLines (lines.drop o) (classify (lines.drop o))).length
    m + n < nodes.size ∧ n < nodes'.size ∧
      (∀ j, 1 ≤ j → j ≤ m → (entry nodes j).span.last < o + 1) ∧
      (∀ j, 1 ≤ j → j ≤ n →
        (entry nodes (m + j)).withoutChildren = (entry nodes' j).withoutChildren.shift m o) ∧
      (∀ j, m + n < j → j < nodes.size → (entry nodes j).kind = .content) ∧
      (∀ j, n < j → j < nodes'.size → (entry nodes' j).kind = .content) := by
  intro nodes nodes' m n
  obtain ⟨hsz, hnodes, hcontent⟩ := parseLines_eq_reading isProperty name lines
  obtain ⟨hsz', hnodes', hcontent'⟩ := parseLines_eq_reading isProperty name (lines.drop o)
  rw [← hkinds] at hnodes'
  have hlen : (headerLines lines (classify lines)).length = m + n := by
    rw [hr.headerLines_drop, List.length_append, List.length_map, hkinds]
  refine ⟨hlen ▸ hsz, hsz', fun j hj1 hjm => ?_, fun j hj1 hjn => ?_, hlen ▸ hcontent,
    hcontent'⟩
  · -- a header above line `o + 1` ends above it
    have hnode := hnodes (j - 1) (by omega)
    rw [Nat.sub_add_cancel hj1, hr.getElem_headerLines_of_lt (by omega)] at hnode
    have hlast := congrArg (fun n => n.span.last) hnode
    simp only [Node.withoutChildren, headerNode] at hlast
    rw [hlast]
    exact hr.endLine_lt (mem_headersBefore.mp (List.getElem_mem _)).2.1 _
  · -- a header from line `o + 1` on is the header of the later lines, shifted
    have hj' : j - 1 < (headerLines (lines.drop o) ((classify lines).drop o)).length := by
      rw [hkinds]
      omega
    have hg1 : 1 ≤ (headerLines (lines.drop o) ((classify lines).drop o))[j - 1] :=
      (mem_headersBefore.mp (List.getElem_mem hj')).1
    have hnode := hnodes (m + (j - 1)) (by omega)
    rw [show m + (j - 1) + 1 = m + j by omega, hr.getElem_headerLines_drop hj',
      hr.headerNode_drop isProperty hg1, ← hnodes' (j - 1) hj', Nat.sub_add_cancel hj1] at hnode
    exact hnode

theorem strippedLines_suffixFrom {text : String} {h : Nat} (hh1 : 1 ≤ h)
    (hhN : h ≤ (strippedLines text).length)
    (hbom : ∀ rest, ((strippedLines text).getD (h - 1) "").toList ≠ '\uFEFF' :: rest) :
    strippedLines (suffixFrom text h) = (strippedLines text).drop (h - 1) := by
  unfold strippedLines at hhN hbom ⊢
  rw [physicalLines_suffixFrom]
  cases hp : physicalLines text with
  | nil =>
    simp only [hp, List.length_nil] at hhN
    omega
  | cons first rest =>
    simp only [hp, List.length_cons] at hhN hbom
    rcases Nat.lt_or_ge 1 h with h2 | h1
    · -- from the second line on, the text from line `h` starts with line `h` itself
      obtain ⟨k, rfl⟩ : ∃ k, h = k + 2 := ⟨h - 2, by omega⟩
      have hk : k < rest.length := by omega
      simp only [show k + 2 - 1 = k + 1 by omega, List.drop_succ_cons,
        List.drop_eq_getElem_cons hk, List.getD_eq_getElem?_getD, List.getElem?_cons_succ,
        List.getElem?_eq_getElem hk, Option.getD_some] at hbom ⊢
      rw [stripByteOrderMark]
      split
      · rename_i more hmore
        exact absurd hmore (hbom more)
      · rfl
    · obtain rfl : h = 1 := by omega
      rfl

/-- A `def`, `class` or `async def` header in column 0, outside strings and decorator runs,
resynchronizes the outline: from it on, the outline is that of the text starting there. -/
theorem parse_resyncs_at_top_level_header (isProperty : String → Bool) (name text : String)
    {h : Nat} (hh1 : 1 ≤ h) (hhN : h ≤ (strippedLines text).length)
    (hstr : (stateAfter {} ((strippedLines text).take (h - 1))).triple = none)
    (hl : startsTopLevelHeader ((strippedLines text).getD (h - 1) ""))
    (hrun : decoratorRun (strippedLines text) (classify (strippedLines text)) h 0 = []) :
    let lines := strippedLines text
    let nodes := parse isProperty name text
    let nodes' := parse isProperty name (suffixFrom text h)
    let m := (headersBefore lines (classify lines) h).length
    let n := (headerLines (strippedLines (suffixFrom text h))
      (classify (strippedLines (suffixFrom text h)))).length
    (classify lines).drop (h - 1) = classify (strippedLines (suffixFrom text h)) ∧
      m + n < nodes.size ∧ n < nodes'.size ∧
      (∀ j, 1 ≤ j → j ≤ m → (entry nodes j).span.last < h) ∧
      (∀ j, 1 ≤ j → j ≤ n →
        (entry nodes (m + j)).withoutChildren = (entry nodes' j).withoutChildren.shift m (h - 1)) ∧
      (∀ j, m + n < j → j < nodes.size → (entry nodes j).kind = .content) ∧
      (∀ j, n < j → j < nodes'.size → (entry nodes' j).kind = .content) := by
  have hsuffix : strippedLines (suffixFrom text h) = (strippedLines text).drop (h - 1) :=
    strippedLines_suffixFrom hh1 hhN (not_bom_of_startsTopLevelHeader hl)
  have ho : h - 1 < (strippedLines text).length := by omega
  have hkinds := classify_drop_of_startsTopLevelHeader ho hstr hl
  have hr := resyncLine_of_startsTopLevelHeader ho hstr hl
    (by rw [Nat.sub_add_cancel hh1]; exact hrun)
  have hparse := parseLines_drop_of_resync isProperty name hr hkinds
  simp only [Nat.sub_add_cancel hh1] at hparse
  simp only [parse_eq_parseLines, hsuffix]
  exact ⟨hkinds, hparse⟩

/-- A bracket left open on line 3 does not reach the class on line 4. -/
theorem parse_resyncs_after_unclosed_bracket :
    let text := "@app.route\ndef handler(): pass\nfoo = (\nclass C:\n    def m(self): pass\n"
    let isProperty := fun d => defaultPropertyMarkers.contains d
    1 ≤ 4 ∧ 4 ≤ (strippedLines text).length ∧
      (stateAfter {} ((strippedLines text).take (4 - 1))).triple = none ∧
      startsTopLevelHeader ((strippedLines text).getD (4 - 1) "") = true ∧
      decoratorRun (strippedLines text) (classify (strippedLines text)) 4 0 = [] ∧
      let lines := strippedLines text
      let nodes := parse isProperty "app.py" text
      let nodes' := parse isProperty "app.py" (suffixFrom text 4)
      let m := (headersBefore lines (classify lines) 4).length
      let n := (headerLines (strippedLines (suffixFrom text 4))
        (classify (strippedLines (suffixFrom text 4)))).length
      (classify lines).drop (4 - 1) = classify (strippedLines (suffixFrom text 4)) ∧
        m + n < nodes.size ∧ n < nodes'.size ∧
        (∀ j, 1 ≤ j → j ≤ m → (entry nodes j).span.last < 4) ∧
        (∀ j, 1 ≤ j → j ≤ n →
          (entry nodes (m + j)).withoutChildren = (entry nodes' j).withoutChildren.shift m (4 - 1)) ∧
        (∀ j, m + n < j → j < nodes.size → (entry nodes j).kind = .content) ∧
        (∀ j, n < j → j < nodes'.size → (entry nodes' j).kind = .content) := by
  intro text isProperty
  have h1 : 4 ≤ (strippedLines text).length := by decide +kernel
  have h2 : (stateAfter {} ((strippedLines text).take (4 - 1))).triple = none := by decide +kernel
  have h3 : startsTopLevelHeader ((strippedLines text).getD (4 - 1) "") = true := by decide +kernel
  have h4 : decoratorRun (strippedLines text) (classify (strippedLines text)) 4 0 = [] := by
    decide +kernel
  exact ⟨by decide, h1, h2, h3, h4,
    parse_resyncs_at_top_level_header isProperty "app.py" text (by decide) h1 h2 h3 h4⟩

end Arbor.Outline
