import Arbor.Edit.Splice
import Arbor.Proofs.Text.Bytes
import Mathlib.Data.List.Chain
/-!
A clean batch of edits applies as one left-to-right pass.
-/

namespace Arbor.Edit

open Arbor.Text
open String (utf8Len)

/-- The text with byte ranges `(start, stop, insert)` replaced, read left to right from byte
`cursor`: the text up to each range's start, then its replacement; after the last range, the
rest of the text. -/
def replaceRanges (text : String) : Nat → List (Nat × Nat × String) → String
  | cursor, [] => suffixBytes text cursor
  | cursor, (start, stop, insert) :: rest =>
    sliceBytes text cursor start ++ insert ++ replaceRanges text stop rest

def Splice.change (e : Splice) : Nat × Nat × String := (e.start, e.stop, e.insert)

/-- A batch of edits that applies to a text without error: every range is non-empty, starts and
ends between characters and holds what its edit expects, and each range ends no later than the
next one starts. -/
structure Clean (text : String) (batch : List Splice) : Prop where
  nonempty : ∀ e ∈ batch, e.start < e.stop
  start_boundary : ∀ e ∈ batch, isCharBoundary text e.start
  stop_boundary : ∀ e ∈ batch, isCharBoundary text e.stop
  expected : ∀ e ∈ batch, e.expected.holds (sliceBytes text e.start e.stop)
  ordered : batch.Pairwise fun e e' => e.stop ≤ e'.start

namespace Clean

variable {text : String} {batch : List Splice}

theorem starts_increasing (h : Clean text batch) : batch.Pairwise fun e e' => e.start < e'.start :=
  List.Pairwise.imp_of_mem (fun {e _} he _ hee' => Nat.lt_of_lt_of_le (h.nonempty e he) hee')
    h.ordered

end Clean

/-- A batch of edits whose ranges can be spliced into a text in one pass: every range is in
order, starts and ends between characters, and ends no later than the next one starts. Empty
ranges are allowed. -/
structure Spliceable (text : String) (batch : List Splice) : Prop where
  le : ∀ e ∈ batch, e.start ≤ e.stop
  start_boundary : ∀ e ∈ batch, isCharBoundary text e.start
  stop_boundary : ∀ e ∈ batch, isCharBoundary text e.stop
  ordered : batch.Pairwise fun e e' => e.stop ≤ e'.start

theorem Spliceable.tail {text : String} {e : Splice} {rest : List Splice}
    (h : Spliceable text (e :: rest)) : Spliceable text rest :=
  ⟨fun e' he' => h.le e' (.tail _ he'), fun e' he' => h.start_boundary e' (.tail _ he'),
    fun e' he' => h.stop_boundary e' (.tail _ he'), (List.pairwise_cons.mp h.ordered).2⟩

theorem Clean.spliceable {text : String} {batch : List Splice} (h : Clean text batch) :
    Spliceable text batch :=
  ⟨fun e he => (h.nonempty e he).le, h.start_boundary, h.stop_boundary, h.ordered⟩

theorem backwards_eq_reverse {batch : List Splice}
    (h : batch.Pairwise fun e e' => e.start < e'.start) : backwards batch = batch.reverse := by
  -- two edits of the batch with one start are one edit
  have hunique : ∀ e e', e ∈ batch → e' ∈ batch → e.start = e'.start → e = e' := by
    intro e e' he he' hs
    induction batch with
    | nil => cases he
    | cons x xs ih =>
      rw [List.pairwise_cons] at h
      rcases List.mem_cons.mp he with hx | hxs <;> rcases List.mem_cons.mp he' with hx' | hxs'
      · rw [hx, hx']
      · subst hx
        exact absurd (h.1 e' hxs') (by omega)
      · subst hx'
        exact absurd (h.1 e hxs) (by omega)
      · exact ih h.2 hxs hxs'
  have hsorted := List.pairwise_mergeSort (fun a b c (hab : decide (b.start ≤ a.start) = true)
      (hbc : decide (c.start ≤ b.start) = true) => by simp at hab hbc ⊢; omega)
    (fun a b => by simp only [decide_eq_true_eq, Bool.or_eq_true]; omega) batch
  refine List.Perm.eq_of_pairwise (fun e e' he he' hle hge => ?_) hsorted ?_
    ((List.mergeSort_perm _ _).trans (List.reverse_perm _).symm)
  · simp only [decide_eq_true_eq] at hle hge
    exact hunique e e' (List.mem_mergeSort.mp he) (List.mem_reverse.mp he') (by omega)
  · rw [List.pairwise_reverse]
    exact h.imp fun hlt => by simp only [decide_eq_true_eq]; omega

/-- The overlap test passes exactly on a batch in which each edit ends no later than the one
before it in the list starts. -/
theorem firstOverlap_eq_ok_iff (size : Nat) {sorted : List Splice} :
    firstOverlap size sorted = .ok () ↔
      sorted.IsChain fun later earlier => earlier.stop ≤ later.start := by
  fun_induction firstOverlap size sorted with
  | case1 later earlier rest hover =>
    simp only [reduceCtorEq, false_iff, List.isChain_cons_cons, not_and]
    omega
  | case2 later earlier rest hle ih =>
    rw [ih, List.isChain_cons_cons]
    exact ⟨fun h => ⟨by omega, h⟩, And.right⟩
  | case3 sorted hshort =>
    match sorted, hshort with
    | [], _ => simp
    | [_], _ => simp
    | _ :: _ :: _, h => exact absurd rfl (h _ _ _)

theorem check_eq_ok_iff {text : String} {e : Splice} :
    e.check text = .ok () ↔
      rangeFits text e.start e.stop ∧ e.expected.holds (sliceBytes text e.start e.stop) := by
  by_cases hfit : rangeFits text e.start e.stop <;>
    by_cases hholds : e.expected.holds (sliceBytes text e.start e.stop) <;>
    simp [Splice.check, hfit, hholds]

theorem forM_check_eq_ok_iff {text : String} {sorted : List Splice} :
    forM sorted (fun e : Splice => e.check text) = (.ok () : Except EditError Unit) ↔
      ∀ e ∈ sorted, e.check text = .ok () := by
  induction sorted with
  | nil => exact ⟨fun _ e he => absurd he List.not_mem_nil, fun _ => rfl⟩
  | cons e rest ih =>
    rw [List.forM_cons]
    cases hc : e.check text with
    | error err => simp [hc, bind, Except.bind]
    | ok u => simp [hc, bind, Except.bind, ih]

/-- `applyAll` succeeds exactly when every check and the overlap test pass on the sorted batch,
and it then gives the text with the sorted edits spliced in one after another. -/
theorem applyAll_eq_ok_iff_sorted {text out : String} {batch : List Splice} :
    applyAll text batch = .ok out ↔
      (∀ e ∈ backwards batch, e.check text = .ok ()) ∧
        firstOverlap text.utf8ByteSize (backwards batch) = .ok () ∧
        out = (backwards batch).foldl (fun acc e => replaceBytes acc e.start e.stop e.insert) text := by
  rw [← forM_check_eq_ok_iff]
  simp only [applyAll, List.forM_eq_forM]
  cases forM (backwards batch) (fun e : Splice => e.check text) with
  | error err => simp [bind, Except.bind]
  | ok u =>
    cases firstOverlap text.utf8ByteSize (backwards batch) with
    | error err => simp [bind, Except.bind]
    | ok v => simp [bind, Except.bind, pure, Except.pure, eq_comm]

theorem foldr_replaceBytes {text : String} {batch : List Splice} (h : Spliceable text batch)
    {cursor : Nat} (hc : isCharBoundary text cursor) (hle : ∀ e ∈ batch, cursor ≤ e.start) :
    batch.foldr (fun e acc => replaceBytes acc e.start e.stop e.insert) text =
      prefixBytes text cursor ++ replaceRanges text cursor (batch.map Splice.change) := by
  induction batch generalizing cursor with
  | nil => exact (prefixBytes_append_suffixBytes hc).symm
  | cons e rest ih =>
    obtain ⟨start, stop, insert, expected⟩ := e
    have he := List.mem_cons_self (a := (⟨start, stop, insert, expected⟩ : Splice)) (l := rest)
    have hstop : ∀ e' ∈ rest, stop ≤ e'.start := (List.pairwise_cons.mp h.ordered).1
    rw [List.foldr_cons, ih h.tail (h.stop_boundary _ he) hstop]
    -- cut the text at the cursor, the edit's start and its stop
    obtain ⟨pre, mid, post, htext, rfl, rfl⟩ :=
      exists_three_parts hc (h.start_boundary _ he) (hle _ he)
    obtain ⟨pre', cut, rest', htext', hpre', rfl⟩ :=
      exists_three_parts (h.start_boundary _ he) (h.stop_boundary _ he) (h.le _ he)
    obtain ⟨rfl, -⟩ := split_unique htext (htext'.trans (List.append_assoc _ _ _))
      (by rw [hpre', String.utf8Len_append])
    rw [← String.utf8Len_append pre mid, ← String.utf8Len_append (pre ++ mid) cut]
    set after := replaceRanges text (utf8Len (pre ++ mid ++ cut)) (rest.map Splice.change)
      with hafter
    have hbefore : text.toList = (pre ++ mid ++ cut) ++ rest' := htext'
    have hspliced : (String.ofList (pre ++ mid ++ cut) ++ after).toList =
        (pre ++ mid) ++ (cut ++ after.toList) := by simp
    have hspliced' : (String.ofList (pre ++ mid ++ cut) ++ after).toList =
        (pre ++ mid ++ cut) ++ after.toList := by simp
    have hslice : sliceBytes text (utf8Len pre) (utf8Len (pre ++ mid)) = String.ofList mid := by
      rw [String.utf8Len_append]
      exact sliceBytes_eq (show text.toList = pre ++ mid ++ (cut ++ rest') by simp [hbefore])
    rw [replaceBytes, prefixBytes_eq hbefore, prefixBytes_eq hspliced, suffixBytes_eq hspliced',
      List.map_cons, Splice.change, replaceRanges, hslice,
      prefixBytes_eq (show text.toList = pre ++ (mid ++ cut ++ rest') by simp [hbefore])]
    simp only [String.ofList_append, String.append_assoc, String.ofList_toList, hafter]

/-- Splicing a batch from its last edit back to its first is reading it left to right. -/
theorem foldr_replaceBytes_zero {text : String} {batch : List Splice} (h : Spliceable text batch) :
    batch.foldr (fun e acc => replaceBytes acc e.start e.stop e.insert) text =
      replaceRanges text 0 (batch.map Splice.change) := by
  have hall : text.toList = [] ++ text.toList := rfl
  have hfold := foldr_replaceBytes h (isCharBoundary_of_eq hall) fun _ _ => Nat.zero_le _
  have hempty : prefixBytes text 0 = "" := by simpa using prefixBytes_eq hall
  rwa [String.utf8Len_nil, hempty, String.empty_append] at hfold

/-- A clean batch applies, giving the text with its ranges replaced left to right. -/
theorem applyAll_eq_ok {text : String} {batch : List Splice} (h : Clean text batch) :
    applyAll text batch = .ok (replaceRanges text 0 (batch.map Splice.change)) := by
  have hsorted := backwards_eq_reverse h.starts_increasing
  have hcheck : ∀ e ∈ backwards batch, e.check text = .ok () := by
    intro e he
    rw [hsorted, List.mem_reverse] at he
    refine check_eq_ok_iff.mpr ⟨?_, h.expected e he⟩
    simp [rangeFits, (h.nonempty e he).le, le_of_isCharBoundary (h.stop_boundary e he),
      h.start_boundary e he, h.stop_boundary e he]
  have hoverlap : firstOverlap text.utf8ByteSize (backwards batch) = .ok () := by
    rw [firstOverlap_eq_ok_iff, hsorted, List.isChain_reverse]
    exact h.ordered.isChain
  refine applyAll_eq_ok_iff_sorted.mpr ⟨hcheck, hoverlap, ?_⟩
  rw [hsorted, List.foldl_reverse, foldr_replaceBytes_zero h.spliceable]

end Arbor.Edit
