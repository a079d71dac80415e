import Arbor.Proofs.Edit.Splice
/-!
When a batch of edits applies, and what it gives.
-/

namespace Arbor.Edit

open Arbor.Text
open String (utf8Len)

section StableSort

variable {α : Type*}

theorem filter_mergeSort {le : α → α → Bool} (trans : ∀ a b c, le a b → le b c → le a c)
    (total : ∀ a b, le a b || le b a) {p : α → Bool} (hp : ∀ a b, p a → p b → le a b)
    (xs : List α) : (xs.mergeSort le).filter p = xs.filter p := by
  have hsorted : (xs.filter p).Pairwise fun a b => le a b :=
    List.pairwise_filter.mpr (List.pairwise_of_forall fun a b => hp a b)
  have hself : (xs.filter p).filter p = xs.filter p :=
    List.filter_eq_self.mpr fun a ha => (List.mem_filter.mp ha).2
  have hsub := (List.sublist_mergeSort trans total hsorted
    (List.filter_sublist : List.Sublist (xs.filter p) xs)).filter p
  rw [hself] at hsub
  exact (hsub.eq_of_length ((List.mergeSort_perm xs le).filter p).length_eq.symm).symm

theorem eq_of_pairwise_of_filter_eq {key : α → Nat} :
    {l l' : List α} → l.Pairwise (fun a b => key a ≤ key b) →
      l'.Pairwise (fun a b => key a ≤ key b) →
      (∀ k, l.filter (fun a => key a == k) = l'.filter (fun a => key a == k)) → l = l'
  | [], [], _, _, _ => rfl
  | [], b :: _, _, _, hf => by simpa using hf (key b)
  | a :: _, [], _, _, hf => by simpa using hf (key a)
  | a :: r, b :: r', h, h', hf => by
    rw [List.pairwise_cons] at h h'
    -- each head is in the other list, so both carry the least key
    have hab : key a = key b := by
      have ha : a ∈ b :: r' := List.mem_of_mem_filter (by rw [← hf (key a)]; simp)
      have hb : b ∈ a :: r := List.mem_of_mem_filter (by rw [hf (key b)]; simp)
      rcases List.mem_cons.mp ha with rfl | ha <;> rcases List.mem_cons.mp hb with hb | hb
      · rfl
      · rfl
      · rw [hb]
      · exact Nat.le_antisymm (h.1 b hb) (h'.1 a ha)
    have hkey := hf (key a)
    rw [List.filter_cons_of_pos (by simp), List.filter_cons_of_pos (by simp [hab])] at hkey
    obtain ⟨rfl, -⟩ := List.cons.inj hkey
    refine congrArg (a :: ·) (eq_of_pairwise_of_filter_eq h.2 h'.2 fun k => ?_)
    by_cases hk : key a = k
    · subst hk
      exact (List.cons.inj hkey).2
    · simpa [List.filter_cons, hk] using hf k

end StableSort

/-- The edits of a batch from left to right: by start, and edits that share a start in the
reverse of their order in the batch. -/
def leftToRight (batch : List Splice) : List Splice :=
  batch.reverse.mergeSort fun a b => decide (a.start ≤ b.start)

theorem pairwise_backwards (batch : List Splice) :
    (backwards batch).Pairwise fun a b => b.start ≤ a.start := by
  have h := @List.pairwise_mergeSort Splice (fun a b => decide (b.start ≤ a.start))
    (fun a b c hab hbc => by simp only [decide_eq_true_eq] at hab hbc ⊢; omega)
    (fun a b => by simp only [Bool.or_eq_true, decide_eq_true_eq]; omega) batch
  exact h.imp fun hab => by simpa using hab

theorem filter_backwards (batch : List Splice) (s : Nat) :
    (backwards batch).filter (fun e => e.start == s) = batch.filter (fun e => e.start == s) :=
  filter_mergeSort (fun a b c hab hbc => by simp only [decide_eq_true_eq] at hab hbc ⊢; omega)
    (fun a b => by simp only [Bool.or_eq_true, decide_eq_true_eq]; omega)
    (fun a b ha hb => by simp only [beq_iff_eq] at ha hb; simp [ha, hb]) batch

theorem pairwise_leftToRight (batch : List Splice) :
    (leftToRight batch).Pairwise fun a b => a.start ≤ b.start := by
  have h := @List.pairwise_mergeSort Splice (fun a b => decide (a.start ≤ b.start))
    (fun a b c hab hbc => by simp only [decide_eq_true_eq] at hab hbc ⊢; omega)
    (fun a b => by simp only [Bool.or_eq_true, decide_eq_true_eq]; omega) batch.reverse
  exact h.imp fun hab => by simpa using hab

theorem filter_leftToRight (batch : List Splice) (s : Nat) :
    (leftToRight batch).filter (fun e => e.start == s) =
      (batch.filter fun e => e.start == s).reverse := by
  rw [leftToRight, filter_mergeSort
    (fun a b c hab hbc => by simp only [decide_eq_true_eq] at hab hbc ⊢; omega)
    (fun a b => by simp only [Bool.or_eq_true, decide_eq_true_eq]; omega)
    (fun a b ha hb => by simp only [beq_iff_eq] at ha hb; simp [ha, hb]), List.filter_reverse]

theorem reverse_backwards (batch : List Splice) :
    (backwards batch).reverse = leftToRight batch :=
  @eq_of_pairwise_of_filter_eq _ Splice.start _ _
    (List.pairwise_reverse.mpr (pairwise_backwards batch)) (pairwise_leftToRight batch)
    fun s => by rw [List.filter_reverse, filter_backwards, filter_leftToRight]

/-- What a batch needs to apply to a text: every range fits the text and holds what its edit
expects, and in the batch sorted last first each edit ends no later than the one before it
starts. -/
structure Applies (text : String) (batch : List Splice) : Prop where
  fits : ∀ e ∈ batch, rangeFits text e.start e.stop
  expected : ∀ e ∈ batch, e.expected.holds (sliceBytes text e.start e.stop)
  apart : (backwards batch).IsChain fun later earlier => earlier.stop ≤ later.start

/-- Each splice of a run, from the first, finds its range in order, inside the text as edited so
far and between its characters. -/
def SplicesFit : String → List Splice → Prop
  | _, [] => True
  | acc, e :: rest =>
    rangeFits acc e.start e.stop ∧ SplicesFit (replaceBytes acc e.start e.stop e.insert) rest

theorem rangeFits_iff {text : String} {a b : Nat} :
    rangeFits text a b ↔ a ≤ b ∧ isCharBoundary text a ∧ isCharBoundary text b := by
  simp only [rangeFits, Bool.and_eq_true, decide_eq_true_eq]
  constructor
  · rintro ⟨⟨⟨hab, -⟩, ha⟩, hb⟩
    exact ⟨hab, ha, hb⟩
  · rintro ⟨hab, ha, hb⟩
    exact ⟨⟨⟨hab, le_of_isCharBoundary hb⟩, ha⟩, hb⟩

theorem pairwise_of_isChain {sorted : List Splice} (hle : ∀ e ∈ sorted, e.start ≤ e.stop)
    (h : sorted.IsChain fun later earlier => earlier.stop ≤ later.start) :
    sorted.Pairwise fun later earlier => earlier.stop ≤ later.start := by
  induction sorted with
  | nil => exact List.Pairwise.nil
  | cons e rest ih =>
    have hrest := ih (fun x hx => hle x (.tail _ hx)) h.tail
    refine List.Pairwise.cons (fun x hx => ?_) hrest
    cases rest with
    | nil => cases hx
    | cons y rest' =>
      have hy : y.stop ≤ e.start := (List.isChain_cons_cons.mp h).1
      rcases List.mem_cons.mp hx with rfl | hx
      · exact hy
      · have := (List.pairwise_cons.mp hrest).1 x hx
        have := hle y (.tail _ List.mem_cons_self)
        omega

/-- A batch that applies can be spliced in one pass when read left to right. -/
theorem Applies.spliceable {text : String} {batch : List Splice} (h : Applies text batch) :
    Spliceable text (leftToRight batch) := by
  have hfits : ∀ e ∈ leftToRight batch, e.start ≤ e.stop ∧ isCharBoundary text e.start ∧
      isCharBoundary text e.stop := fun e he =>
    rangeFits_iff.mp (h.fits e (List.mem_reverse.mp (List.mem_mergeSort.mp he)))
  have hdesc := pairwise_of_isChain (fun e he => rangeFits_iff.mp
    (h.fits e (List.mem_mergeSort.mp he)) |>.1) h.apart
  refine ⟨fun e he => (hfits e he).1, fun e he => (hfits e he).2.1, fun e he => (hfits e he).2.2,
    ?_⟩
  rw [← reverse_backwards, List.pairwise_reverse]
  exact hdesc

theorem replaceBytes_toList {acc : String} {pre mid post : List Char}
    (h : acc.toList = pre ++ mid ++ post) (insert : String) :
    (replaceBytes acc (utf8Len pre) (utf8Len pre + utf8Len mid) insert).toList =
      pre ++ insert.toList ++ post := by
  rw [replaceBytes, prefixBytes_eq (show acc.toList = pre ++ (mid ++ post) by simp [h]),
    ← String.utf8Len_append, suffixBytes_eq h]
  simp

theorem splicesFit_of_prefix {text : String} :
    {sorted : List Splice} → (∀ e ∈ sorted, rangeFits text e.start e.stop) →
      sorted.Pairwise (fun later earlier => earlier.stop ≤ later.start) →
      ∀ {acc : String} {pre : List Char}, pre <+: text.toList → pre <+: acc.toList →
        (∀ e ∈ sorted, e.stop ≤ utf8Len pre) → SplicesFit acc sorted
  | [], _, _, _, _, _, _, _ => trivial
  | e :: rest, hfits, hdesc, acc, pre, ⟨tail, htext⟩, ⟨after, hacc⟩, hstop => by
    obtain ⟨hle, hs, he⟩ := rangeFits_iff.mp (hfits e List.mem_cons_self)
    -- the range of `e` lies inside the shared part, so `acc` cuts there as the text does
    obtain ⟨p₁, p₂, q, hcut, hstart', hstop'⟩ := exists_three_parts hs he hle
    obtain ⟨p₃, rfl, hq⟩ := exists_split_of_le hcut htext.symm (by rw [String.utf8Len_append, hstop']; exact hstop e List.mem_cons_self)
    have hacc' : acc.toList = p₁ ++ p₂ ++ (p₃ ++ after) := by simp [← hacc]
    refine ⟨rangeFits_iff.mpr ⟨hle, ?_, ?_⟩, ?_⟩
    · rw [← hstart']
      exact isCharBoundary_of_eq (show acc.toList = p₁ ++ (p₂ ++ (p₃ ++ after)) by simp [hacc'])
    · rw [← hstop', ← String.utf8Len_append]
      exact isCharBoundary_of_eq hacc'
    · rw [← hstart', ← hstop']
      refine splicesFit_of_prefix (fun x hx => hfits x (.tail _ hx)) (List.pairwise_cons.mp hdesc).2
        (show p₁ <+: text.toList from ⟨p₂ ++ q, by simp [hcut]⟩)
        ⟨e.insert.toList ++ (p₃ ++ after), ?_⟩
        fun x hx => hstart' ▸ (List.pairwise_cons.mp hdesc).1 x hx
      rw [replaceBytes_toList hacc']
      simp

theorem foldl_backwards {text : String} {batch : List Splice} (h : Applies text batch) :
    (backwards batch).foldl (fun acc e => replaceBytes acc e.start e.stop e.insert) text =
      replaceRanges text 0 ((leftToRight batch).map Splice.change) := by
  rw [← List.reverse_reverse (backwards batch), reverse_backwards, List.foldl_reverse,
    foldr_replaceBytes_zero h.spliceable]

theorem Applies.splicesFit {text : String} {batch : List Splice} (h : Applies text batch) :
    SplicesFit text (backwards batch) := by
  have hmem : ∀ e, e ∈ backwards batch ↔ e ∈ batch := fun e => List.mem_mergeSort
  have hfits : ∀ e ∈ backwards batch, rangeFits text e.start e.stop :=
    fun e he => h.fits e ((hmem e).mp he)
  refine splicesFit_of_prefix hfits
    (pairwise_of_isChain (fun e he => (rangeFits_iff.mp (hfits e he)).1) h.apart)
    (List.prefix_refl _) (List.prefix_refl _) fun e he => ?_
  rw [String.utf8Len_toList]
  exact le_of_isCharBoundary (rangeFits_iff.mp (hfits e he)).2.2

/-- A batch applies exactly when its ranges fit the text, hold what their edits expect and do not
overlap once sorted; the result then replaces each range, left to right. -/
theorem applyAll_eq_ok_iff (text : String) (batch : List Splice) (out : String) :
    applyAll text batch = .ok out ↔
      Applies text batch ∧ SplicesFit text (backwards batch) ∧
        out = replaceRanges text 0 ((leftToRight batch).map Splice.change) := by
  have hmem : ∀ e, e ∈ backwards batch ↔ e ∈ batch := fun e => List.mem_mergeSort
  rw [applyAll_eq_ok_iff_sorted, firstOverlap_eq_ok_iff]
  constructor
  · rintro ⟨hcheck, happart, rfl⟩
    have happlies : Applies text batch :=
      ⟨fun e he => (check_eq_ok_iff.mp (hcheck e ((hmem e).mpr he))).1,
        fun e he => (check_eq_ok_iff.mp (hcheck e ((hmem e).mpr he))).2, happart⟩
    exact ⟨happlies, happlies.splicesFit, foldl_backwards happlies⟩
  · rintro ⟨happlies, -, rfl⟩
    exact ⟨fun e he => check_eq_ok_iff.mpr ⟨happlies.fits e ((hmem e).mp he),
      happlies.expected e ((hmem e).mp he)⟩, happlies.apart, (foldl_backwards happlies).symm⟩

/-- Reordering a batch while keeping the order of the edits that share a start changes nothing:
the same error, or the same text. -/
theorem applyAll_eq_of_ties_in_order {batch batch' : List Splice}
    (h : ∀ s, batch.filter (fun e => e.start == s) = batch'.filter (fun e => e.start == s))
    (text : String) : applyAll text batch = applyAll text batch' := by
  have hl : leftToRight batch = leftToRight batch' :=
    @eq_of_pairwise_of_filter_eq _ Splice.start _ _ (pairwise_leftToRight batch)
      (pairwise_leftToRight batch') fun s => by rw [filter_leftToRight, filter_leftToRight, h]
  have hb : backwards batch = backwards batch' := by
    rw [← List.reverse_reverse (backwards batch), reverse_backwards, hl, ← reverse_backwards,
      List.reverse_reverse]
  simp only [applyAll, hb]

/-- Two edits with different starts may come in either order. -/
theorem applyAll_swap_distinct_starts :
    (∀ s, [(⟨0, 1, "A", .exact "a"⟩ : Splice), ⟨1, 2, "B", .exact "b"⟩].filter
        (fun e => e.start == s) =
      [(⟨1, 2, "B", .exact "b"⟩ : Splice), ⟨0, 1, "A", .exact "a"⟩].filter
        (fun e => e.start == s)) ∧
    applyAll "ab" [⟨0, 1, "A", .exact "a"⟩, ⟨1, 2, "B", .exact "b"⟩] =
      applyAll "ab" [⟨1, 2, "B", .exact "b"⟩, ⟨0, 1, "A", .exact "a"⟩] := by
  have h : ∀ s, [(⟨0, 1, "A", .exact "a"⟩ : Splice), ⟨1, 2, "B", .exact "b"⟩].filter
      (fun e => e.start == s) =
      [(⟨1, 2, "B", .exact "b"⟩ : Splice), ⟨0, 1, "A", .exact "a"⟩].filter
        (fun e => e.start == s) := by
    intro s
    match s with
    | 0 => rfl
    | 1 => rfl
    | _ + 2 => rfl
  exact ⟨h, applyAll_eq_of_ties_in_order h "ab"⟩

/-- An empty insertion at the start of a replaced range goes in front of the replacement when it
comes after it in the batch, and is taken for an overlap when it comes before it. -/
theorem applyAll_tie_order_matters :
    applyAll "ab" [⟨0, 1, "x", .exact "a"⟩, ⟨0, 0, "y", .exact ""⟩] = .ok "yxb" ∧
      applyAll "ab" [⟨0, 0, "y", .exact ""⟩, ⟨0, 1, "x", .exact "a"⟩] =
        .error (.invalidByteRange 0 1 2) := by
  -- edits that share a start are already sorted, in either order
  constructor
  · rw [applyAll, backwards, List.mergeSort_of_pairwise (by decide)]
    decide
  · rw [applyAll, backwards, List.mergeSort_of_pairwise (by decide)]
    rfl

end Arbor.Edit
