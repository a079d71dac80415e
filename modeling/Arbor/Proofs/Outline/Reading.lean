import Arbor.Proofs.Outline.Parse
/-!
The class and function nodes of an outline, read off the lines without running the parser.
-/

namespace Arbor.Outline

open Arbor.Layout Arbor.Text

section Reading

variable (lines : List String) (kinds : List LineKind)

/-- The kind of line `l`; lines past the end read as blank. -/
def kindAt (l : Nat) : LineKind := kinds.getD (l - 1) .blank

def lineText (l : Nat) : List Char := dropTrailingBlanks (dropBlanks (lines.getD (l - 1) "").toList)

/-- The indentation of line `l` if it is a code line. -/
def codeIndentAt (l : Nat) : Option Nat :=
  match kindAt kinds l with
  | .code i => some i
  | _ => none

def indentOf (h : Nat) : Nat := (codeIndentAt kinds h).getD 0

/-- Whether line `l` closes the nodes whose header sits at indentation `I` or deeper. -/
def closes (l I : Nat) : Bool :=
  match kindAt kinds l with
  | .code i => i ≤ I
  | .comment c => max c ((firstCodeIndent (kinds.drop l)).getD 0) ≤ I
  | _ => false

def stillOpen (h I k : Nat) : Bool := (List.range' (h + 1) (k - (h + 1))).all fun l => !closes kinds l I

/-- The last line of the node of a header on line `h` at indentation `I`: the line before the
first later line that closes `I`, or the last line of the file. -/
def endLine (h I : Nat) : Nat :=
  match (List.range' (h + 1) (kinds.length - h)).find? (closes kinds · I) with
  | some l => l - 1
  | none => kinds.length

/-- Whether line `l` is a code line whose text declares a class or a function. -/
def isHeaderLine (l : Nat) : Bool :=
  (codeIndentAt kinds l).isSome && (header? (lineText lines l)).isSome

def headersBefore (k : Nat) : List Nat := (List.range' 1 (k - 1)).filter (isHeaderLine lines kinds)

def headerLines : List Nat := headersBefore lines kinds (kinds.length + 1)

/-- The position in the table of the node of header line `h`: one after the nodes of the header
lines before it. -/
def nodeIndex (h : Nat) : Nat := (headersBefore lines kinds h).length + 1

/-- The code lines before line `k`, latest first. -/
def codeBefore (k : Nat) : List Nat :=
  ((List.range' 1 (k - 1)).filter fun l => (codeIndentAt kinds l).isSome).reverse

/-- Whether line `l` is a decorator line at indentation `I`. -/
def isDecoratorAt (I l : Nat) : Bool :=
  codeIndentAt kinds l == some I && (decorator? (lineText lines l)).isSome

/-- The decorator lines at indentation `I` that directly precede line `k` among the code lines,
latest first. -/
def decoratorRun (k I : Nat) : List Nat := (codeBefore kinds k).takeWhile (isDecoratorAt lines kinds I)

/-- The first line of the node of a header on line `h` at indentation `I`: the first line of
the decorator run before it, or the header line itself. -/
def startLine (h I : Nat) : Nat := (decoratorRun lines kinds h I).getLast?.getD h

/-- The names of the decorator run before line `h` at indentation `I`, in order. -/
def runNames (h I : Nat) : Array String :=
  ((decoratorRun lines kinds h I).reverse.filterMap fun l => decorator? (lineText lines l)).toArray

/-- The position of the parent of the node of header line `h`: the node of the latest earlier
header line whose node reaches line `h`, or the file. -/
def parentOf (h : Nat) : Nat :=
  match ((headersBefore lines kinds h).filter fun g =>
      decide (h ≤ endLine kinds g (indentOf kinds g))).getLast? with
  | some g => nodeIndex lines kinds g
  | none => 0

/-- The decorator run the parser holds before reading line `k`: nothing unless the last code
line before `k` is a decorator line; then the run at its indentation. -/
def pendingAt (k : Nat) : Option Decorators :=
  match (codeBefore kinds k).head? with
  | some l =>
    if (decorator? (lineText lines l)).isSome then
      some ⟨startLine lines kinds k (indentOf kinds l), indentOf kinds l,
        runNames lines kinds k (indentOf kinds l)⟩
    else none
  | none => none

/-- The start and the decorator names a header at indentation `i` on line `line` takes from a
pending decorator run. -/
def runOf (pending : Option Decorators) (line i : Nat) : Nat × Array String :=
  match pending with
  | some p => if p.indent = i then (p.start, p.names) else (line, #[])
  | none => (line, #[])

variable {lines kinds}

section Growth

variable {k : Nat}

theorem range'_succ_sub (hk : 1 ≤ k) : List.range' 1 (k + 1 - 1) = List.range' 1 (k - 1) ++ [k] := by
  obtain ⟨j, rfl⟩ : ∃ j, k = j + 1 := ⟨k - 1, by omega⟩
  simp [List.range'_concat, Nat.add_comm]

theorem headersBefore_succ (hk : 1 ≤ k) :
    headersBefore lines kinds (k + 1) =
      headersBefore lines kinds k ++ if isHeaderLine lines kinds k then [k] else [] := by
  rw [headersBefore, range'_succ_sub hk, List.filter_append, List.filter_singleton,
    Bool.cond_eq_ite]
  rfl

theorem codeBefore_succ (hk : 1 ≤ k) :
    codeBefore kinds (k + 1) =
      if (codeIndentAt kinds k).isSome then k :: codeBefore kinds k else codeBefore kinds k := by
  rw [codeBefore, codeBefore, range'_succ_sub hk, List.filter_append, List.filter_singleton,
    Bool.cond_eq_ite]
  split <;> simp

theorem mem_headersBefore {h : Nat} :
    h ∈ headersBefore lines kinds k ↔ 1 ≤ h ∧ h < k ∧ isHeaderLine lines kinds h := by
  rw [headersBefore, List.mem_filter, List.mem_range'_1]
  constructor
  · rintro ⟨⟨h1, h2⟩, h3⟩
    exact ⟨h1, by omega, h3⟩
  · rintro ⟨h1, h2, h3⟩
    exact ⟨⟨h1, by omega⟩, h3⟩

theorem headersBefore_append {g h : Nat} (hg : 1 ≤ g) (hgh : g ≤ h) :
    headersBefore lines kinds h =
      headersBefore lines kinds g ++ (List.range' g (h - g)).filter (isHeaderLine lines kinds) := by
  rw [headersBefore, headersBefore, ← List.filter_append]
  congr 1
  rw [show h - 1 = (g - 1) + (h - g) by omega, ← List.range'_append]
  congr 2
  omega

theorem headersBefore_eq_filter {g h : Nat} (hg : 1 ≤ g) (hgh : g ≤ h) :
    headersBefore lines kinds g = (headersBefore lines kinds h).filter (· < g) := by
  rw [headersBefore_append hg hgh, List.filter_append, List.filter_eq_self.mpr, List.filter_eq_nil_iff.mpr,
    List.append_nil]
  · intro l hl
    simp only [List.mem_filter, List.mem_range'_1] at hl
    simp only [decide_eq_true_eq]
    omega
  · intro l hl
    simp only [mem_headersBefore] at hl
    simpa using hl.2.1

/-- A header line before `h` has an earlier node. -/
theorem nodeIndex_lt {g h : Nat} (hg : g ∈ headersBefore lines kinds h) :
    nodeIndex lines kinds g < nodeIndex lines kinds h := by
  obtain ⟨hg1, hgh, -⟩ := mem_headersBefore.mp hg
  have hsub : (headersBefore lines kinds g).Sublist (headersBefore lines kinds h) := by
    rw [headersBefore_eq_filter hg1 hgh.le]
    exact List.filter_sublist
  have hne : headersBefore lines kinds g ≠ headersBefore lines kinds h := fun heq => by
    have := mem_headersBefore.mp (heq ▸ hg)
    omega
  have hlt : (headersBefore lines kinds g).length < (headersBefore lines kinds h).length :=
    lt_of_le_of_ne hsub.length_le fun hlen => hne (hsub.eq_of_length hlen)
  simp only [nodeIndex]
  omega

/-- Distinct header lines have distinct nodes. -/
theorem nodeIndex_inj {g h k : Nat} (hg : g ∈ headersBefore lines kinds k)
    (hh : h ∈ headersBefore lines kinds k) (heq : nodeIndex lines kinds g = nodeIndex lines kinds h) :
    g = h := by
  obtain ⟨hg1, -, hgh⟩ := mem_headersBefore.mp hg
  obtain ⟨hh1, -, hhh⟩ := mem_headersBefore.mp hh
  rcases Nat.lt_trichotomy g h with hlt | heq' | hlt
  · have := nodeIndex_lt (mem_headersBefore.mpr ⟨hg1, hlt, hgh⟩)
    omega
  · exact heq'
  · have := nodeIndex_lt (mem_headersBefore.mpr ⟨hh1, hlt, hhh⟩)
    omega

theorem headersBefore_increasing (k : Nat) :
    (headersBefore lines kinds k).Pairwise (· < ·) :=
  List.Pairwise.filter _ List.pairwise_lt_range'

theorem length_filter_lt_getElem :
    ∀ {l : List Nat} {j : Nat} (hj : j < l.length), l.Pairwise (· < ·) →
      (l.filter (· < l[j])).length = j
  | [], j, hj, _ => absurd hj (Nat.not_lt_zero j)
  | a :: r, 0, _, hinc => by
    rw [List.pairwise_cons] at hinc
    simp only [List.getElem_cons_zero]
    rw [List.filter_eq_nil_iff.mpr]
    · rfl
    · intro x hx
      rcases List.mem_cons.mp hx with rfl | hx
      · simp
      · simpa using (hinc.1 x hx).le
  | a :: r, j + 1, hj, hinc => by
    rw [List.pairwise_cons] at hinc
    have hj' : j < r.length := by simpa using hj
    have ha : a < r[j] := hinc.1 _ (List.getElem_mem hj')
    simp only [List.getElem_cons_succ]
    rw [List.filter_cons_of_pos (by simpa using ha), List.length_cons,
      length_filter_lt_getElem hj' hinc.2]

/-- The header line in position `j` has node `j + 1`. -/
theorem nodeIndex_getElem {k j : Nat} (hj : j < (headersBefore lines kinds k).length) :
    nodeIndex lines kinds (headersBefore lines kinds k)[j] = j + 1 := by
  obtain ⟨h1, hk, -⟩ := mem_headersBefore.mp (List.getElem_mem hj)
  rw [nodeIndex, headersBefore_eq_filter h1 hk.le,
    length_filter_lt_getElem hj (headersBefore_increasing k)]

end Growth

section Closing

variable {g h I k : Nat}

theorem stillOpen_self : stillOpen kinds h I (h + 1) = true := by
  simp [stillOpen]

theorem stillOpen_succ (hk : h < k) :
    stillOpen kinds h I (k + 1) = (stillOpen kinds h I k && !closes kinds k I) := by
  have hrange : List.range' (h + 1) (k + 1 - (h + 1)) =
      List.range' (h + 1) (k - (h + 1)) ++ [k] := by
    rw [show k + 1 - (h + 1) = k - (h + 1) + 1 by omega, List.range'_concat]
    congr 2
    omega
  rw [stillOpen, hrange, List.all_append]
  simp [stillOpen]

theorem stillOpen_iff (h I k : Nat) :
    stillOpen kinds h I k ↔ ∀ l, h < l → l < k → closes kinds l I = false := by
  simp only [stillOpen, List.all_eq_true, List.mem_range'_1, Bool.not_eq_eq_eq_not, Bool.not_true]
  constructor
  · intro hall l hl hlk
    exact hall l ⟨hl, by omega⟩
  · intro hall l hl
    exact hall l hl.1 (by omega)

theorem endLine_le (h I : Nat) : endLine kinds h I ≤ kinds.length := by
  rw [endLine]
  split
  · rename_i l hl
    have := (List.mem_range'_1.mp (List.find?_range'_eq_some.mp hl).2.1)
    omega
  · exact le_rfl

/-- A node ends on the last line, or on the line just before one that closes it. -/
theorem endLine_eq_length_or_closes (h I : Nat) :
    endLine kinds h I = kinds.length ∨ closes kinds (endLine kinds h I + 1) I = true := by
  rw [endLine]
  split
  · rename_i l hl
    obtain ⟨hcl, hmem, -⟩ := List.find?_range'_eq_some.mp hl
    rw [List.mem_range'_1] at hmem
    right
    rw [Nat.sub_add_cancel (by omega)]
    exact hcl
  · left
    rfl

/-- A node is still open before line `k` exactly when it ends on line `k - 1` or later. -/
theorem stillOpen_iff_le_endLine (hk : h < k) (hkN : k ≤ kinds.length + 1) :
    stillOpen kinds h I k ↔ k - 1 ≤ endLine kinds h I := by
  rw [stillOpen_iff, endLine]
  split
  · rename_i l hl
    obtain ⟨hcl, hmem, hbefore⟩ := List.find?_range'_eq_some.mp hl
    rw [List.mem_range'_1] at hmem
    constructor
    · intro hno
      by_contra hlt
      have := hno l (by omega) (by omega)
      rw [hcl] at this
      contradiction
    · intro hle l' hl' hl'k
      simpa using hbefore l' (by omega) (by omega)
  · rename_i hl
    rw [List.find?_range'_eq_none] at hl
    constructor
    · intro _
      omega
    · intro _ l hl' hlk
      simpa using hl l (by omega) (by omega)

/-- A node ends before any later line that closes it. -/
theorem endLine_lt_of_closes (hk : h < k) (hkN : k ≤ kinds.length) (hc : closes kinds k I) :
    endLine kinds h I < k := by
  have hshut : stillOpen kinds h I (k + 1) = false := by
    rw [stillOpen_succ hk, hc]
    simp
  have hnot : ¬ (k + 1 - 1 ≤ endLine kinds h I) := by
    rw [← stillOpen_iff_le_endLine (by omega) (by omega), hshut]
    simp
  omega

/-- A still open node that line `k` closes ends on line `k - 1`. -/
theorem endLine_eq_of_closes (hk : h < k) (hkN : k ≤ kinds.length)
    (hopen : stillOpen kinds h I k) (hc : closes kinds k I) : endLine kinds h I = k - 1 := by
  have hle := (stillOpen_iff_le_endLine hk (by omega)).mp hopen
  have hlt := endLine_lt_of_closes hk hkN hc
  omega

/-- A node no line closes ends on the last line. -/
theorem endLine_eq_of_stillOpen (hh : h ≤ kinds.length)
    (hopen : stillOpen kinds h I (kinds.length + 1)) : endLine kinds h I = kinds.length := by
  have := (stillOpen_iff_le_endLine (by omega) le_rfl).mp hopen
  have : endLine kinds h I ≤ kinds.length := endLine_le h I
  omega

theorem kindAt_of_codeIndentAt {l i : Nat} (hi : codeIndentAt kinds l = some i) :
    kindAt kinds l = .code i := by
  unfold codeIndentAt at hi
  split at hi <;> simp_all

/-- A code line after the header of a still open node sits deeper than that header. -/
theorem indent_lt_of_stillOpen (hgh : g < h) (hhk : h < k) (hopen : stillOpen kinds g I k)
    {i : Nat} (hi : codeIndentAt kinds h = some i) : I < i := by
  have hno := (stillOpen_iff g I k).mp hopen h hgh hhk
  simp only [closes, kindAt_of_codeIndentAt hi, decide_eq_false_iff_not] at hno
  omega

theorem closes_of_level {l level : Nat}
    (hl : closingLevel (kindAt kinds l) (firstCodeIndent (kinds.drop l)) = some level) (I : Nat) :
    closes kinds l I = decide (level ≤ I) := by
  unfold closes
  cases hk : kindAt kinds l <;> simp_all [closingLevel]

theorem closes_of_no_level {l : Nat}
    (hl : closingLevel (kindAt kinds l) (firstCodeIndent (kinds.drop l)) = none) (I : Nat) :
    closes kinds l I = false := by
  unfold closes
  cases hk : kindAt kinds l <;> simp_all [closingLevel]

end Closing

section Decorators

variable {k : Nat}

theorem mem_codeBefore {l : Nat} :
    l ∈ codeBefore kinds k ↔ 1 ≤ l ∧ l < k ∧ (codeIndentAt kinds l).isSome := by
  rw [codeBefore, List.mem_reverse, List.mem_filter, List.mem_range'_1]
  constructor
  · rintro ⟨⟨h1, h2⟩, h3⟩
    exact ⟨h1, by omega, h3⟩
  · rintro ⟨h1, h2, h3⟩
    exact ⟨⟨h1, by omega⟩, h3⟩

theorem isDecoratorAt_iff {I l : Nat} :
    isDecoratorAt lines kinds I l ↔
      codeIndentAt kinds l = some I ∧ (decorator? (lineText lines l)).isSome := by
  simp [isDecoratorAt]

theorem indentOf_of_codeIndentAt {l i : Nat} (hi : codeIndentAt kinds l = some i) :
    indentOf kinds l = i := by
  simp [indentOf, hi]

theorem decoratorRun_succ (hk : 1 ≤ k) (I : Nat) :
    decoratorRun lines kinds (k + 1) I =
      if (codeIndentAt kinds k).isSome then
        if isDecoratorAt lines kinds I k then k :: decoratorRun lines kinds k I else []
      else decoratorRun lines kinds k I := by
  rw [decoratorRun, codeBefore_succ hk]
  split
  · split
    · rw [List.takeWhile_cons_of_pos ‹_›]
      rfl
    · rw [List.takeWhile_cons_of_neg ‹_›]
  · rfl

/-- The node of a header line starts on a code line at the header's indentation: the first line
of its decorator run, or the header itself. -/
theorem kindAt_startLine {h : Nat} (hh : isHeaderLine lines kinds h = true) :
    kindAt kinds (startLine lines kinds h (indentOf kinds h)) = .code (indentOf kinds h) := by
  obtain ⟨i, hi⟩ := Option.isSome_iff_exists.mp (Bool.and_eq_true_iff.mp hh).1
  rw [startLine]
  cases hlast : (decoratorRun lines kinds h (indentOf kinds h)).getLast? with
  | none => simp [kindAt_of_codeIndentAt hi, indentOf_of_codeIndentAt hi]
  | some l =>
    -- every line of the run is a decorator line at the header's indentation
    have hrun := List.all_eq_true.mp (List.all_takeWhile (l := codeBefore kinds h))
      l (List.mem_of_getLast? hlast)
    exact kindAt_of_codeIndentAt (isDecoratorAt_iff.mp hrun).1

theorem decoratorRun_ne_nil {l : Nat} (hhead : (codeBefore kinds k).head? = some l)
    (hdec : (decorator? (lineText lines l)).isSome) :
    decoratorRun lines kinds k (indentOf kinds l) ≠ [] := by
  obtain ⟨-, -, hcode⟩ := mem_codeBefore.mp (List.mem_of_mem_head? hhead)
  obtain ⟨i, hi⟩ := Option.isSome_iff_exists.mp hcode
  obtain ⟨rest, hcb⟩ : ∃ rest, codeBefore kinds k = l :: rest := by
    cases hc : codeBefore kinds k with
    | nil => simp [hc] at hhead
    | cons x rest =>
      rw [hc, List.head?_cons, Option.some_inj] at hhead
      exact ⟨rest, by rw [hhead]⟩
  rw [decoratorRun, hcb, List.takeWhile_cons_of_pos (isDecoratorAt_iff.mpr
    ⟨by rw [indentOf_of_codeIndentAt hi, hi], hdec⟩)]
  exact List.cons_ne_nil _ _

theorem decoratorRun_eq_nil (i : Nat) (h : ∀ p, pendingAt lines kinds k = some p → p.indent ≠ i) :
    decoratorRun lines kinds k i = [] := by
  unfold decoratorRun
  cases hc : codeBefore kinds k with
  | nil => rfl
  | cons l rest =>
    rw [List.takeWhile_cons_of_neg]
    intro hd
    obtain ⟨hi, hdec⟩ := isDecoratorAt_iff.mp hd
    have hp : pendingAt lines kinds k = some ⟨startLine lines kinds k (indentOf kinds l),
        indentOf kinds l, runNames lines kinds k (indentOf kinds l)⟩ := by
      simp [pendingAt, hc, hdec]
    exact h _ hp (indentOf_of_codeIndentAt hi)

/-- The start and names a header at indentation `i` takes from the pending run are the first
line and the names of the run before it at `i`. -/
theorem runOf_pendingAt (i : Nat) :
    runOf (pendingAt lines kinds k) k i = (startLine lines kinds k i, runNames lines kinds k i) := by
  by_cases h : ∃ p, pendingAt lines kinds k = some p ∧ p.indent = i
  · obtain ⟨p, hp, rfl⟩ := h
    rw [hp, runOf, if_pos rfl]
    unfold pendingAt at hp
    split at hp
    · split at hp
      · cases hp
        rfl
      · cases hp
    · cases hp
  · simp only [not_exists, not_and] at h
    rw [startLine, runNames, decoratorRun_eq_nil i h]
    cases hp : pendingAt lines kinds k with
    | none => rfl
    | some p => simp [runOf, h p hp]

theorem extend_eq_runOf (pending : Option Decorators) (i : Nat) (d : String) :
    Decorators.extend pending k i d = ⟨(runOf pending k i).1, i, (runOf pending k i).2.push d⟩ := by
  cases pending with
  | none => rfl
  | some p =>
    by_cases hi : p.indent = i
    · subst hi
      simp [Decorators.extend, runOf]
    · simp [Decorators.extend, runOf, hi]

theorem pendingAt_succ_of_not_code (hk : 1 ≤ k) (hc : codeIndentAt kinds k = none) :
    pendingAt lines kinds (k + 1) = pendingAt lines kinds k := by
  have hcb : codeBefore kinds (k + 1) = codeBefore kinds k := by
    rw [codeBefore_succ hk, hc]
    rfl
  have hrun : ∀ I, decoratorRun lines kinds (k + 1) I = decoratorRun lines kinds k I := fun I => by
    rw [decoratorRun_succ hk, hc]
    rfl
  unfold pendingAt
  rw [hcb]
  cases hhead : (codeBefore kinds k).head? with
  | none => rfl
  | some l =>
    simp only
    split
    · -- the run holds `l`, so its first line does not depend on the line it is read before
      rename_i hdec
      obtain ⟨x, hx⟩ := Option.isSome_iff_exists.mp
        (List.getLast?_isSome.mpr (decoratorRun_ne_nil hhead hdec))
      simp only [startLine, runNames, hrun, hx, Option.getD_some]
    · rfl

theorem pendingAt_succ_of_decorator (hk : 1 ≤ k) {i : Nat} (hi : codeIndentAt kinds k = some i)
    {d : String} (hd : decorator? (lineText lines k) = some d) :
    pendingAt lines kinds (k + 1) = some (Decorators.extend (pendingAt lines kinds k) k i d) := by
  have hdecAt : isDecoratorAt lines kinds i k := isDecoratorAt_iff.mpr ⟨hi, by simp [hd]⟩
  have hrun : decoratorRun lines kinds (k + 1) i = k :: decoratorRun lines kinds k i := by
    rw [decoratorRun_succ hk, hi]
    simp [hdecAt]
  have hcb : codeBefore kinds (k + 1) = k :: codeBefore kinds k := by
    rw [codeBefore_succ hk, hi]
    rfl
  rw [extend_eq_runOf, runOf_pendingAt]
  simp only [pendingAt, hcb, List.head?_cons, hd, Option.isSome_some, if_true,
    indentOf_of_codeIndentAt hi, startLine, runNames, hrun, List.getLast?_cons, Option.getD_some,
    List.reverse_cons, List.filterMap_append, List.filterMap_cons, List.filterMap_nil,
    List.push_toArray]

theorem pendingAt_succ_of_not_decorator (hk : 1 ≤ k) (hc : (codeIndentAt kinds k).isSome)
    (hd : decorator? (lineText lines k) = none) : pendingAt lines kinds (k + 1) = none := by
  simp [pendingAt, codeBefore_succ hk, hc, hd]

end Decorators

end Reading

/-- The kind and name a header gives, with the decorator names of its run. -/
def headerKind (isProperty : String → Bool) (names : Array String) : Header → Kind × String
  | .classDef n => (.classDef, n)
  | .function n => (if names.any isProperty then .property else .function, n)

/-- The node the reading gives header line `h`, without children. -/
def headerNode (isProperty : String → Bool) (lines : List String) (kinds : List LineKind)
    (h : Nat) : Node :=
  let I := indentOf kinds h
  let kn := match header? (lineText lines h) with
    | some hd => headerKind isProperty (runNames lines kinds h I) hd
    | none => (.content, "")
  { kind := kn.1, name := kn.2, span := ⟨startLine lines kinds h I, endLine kinds h I⟩,
    indent := I, parent := some (parentOf lines kinds h) }

end Arbor.Outline
