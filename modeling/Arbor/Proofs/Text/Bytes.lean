import Arbor.Text.Bytes
import Mathlib.Data.String.Basic
/-!
Byte offsets read through characters.
-/

namespace Arbor.Text

open String (utf8Len)

theorem splitAtByte_eq_some_iff {cs p q : List Char} {n : Nat} :
    splitAtByte cs n = some (p, q) ↔ p ++ q = cs ∧ utf8Len p = n := by
  fun_induction splitAtByte cs n generalizing p q with
  | case1 cs =>
    simp only [Option.some.injEq, Prod.mk.injEq, String.utf8Len_eq_zero]
    constructor
    · rintro ⟨rfl, rfl⟩
      exact ⟨rfl, rfl⟩
    · rintro ⟨h, rfl⟩
      exact ⟨rfl, h.symm⟩
  | case2 n =>
    simp only [reduceCtorEq, false_iff, not_and, List.append_eq_nil_iff]
    rintro ⟨rfl, -⟩
    simp
  | case3 c cs n hc ih =>
    rw [Option.map_eq_some_iff]
    constructor
    · rintro ⟨⟨a, b⟩, hab, hpq⟩
      obtain ⟨rfl, rfl⟩ := Prod.mk.inj hpq
      obtain ⟨rfl, hlen⟩ := ih.mp hab
      exact ⟨rfl, by simp only [String.utf8Len_cons]; omega⟩
    · rintro ⟨hpq, hlen⟩
      -- the first part takes bytes, so it is not empty and starts with `c`
      obtain ⟨a, rfl⟩ : ∃ a, p = c :: a := by
        cases p with
        | nil => simp at hlen
        | cons d a => exact ⟨a, by simp_all⟩
      simp only [List.cons_append, List.cons.injEq, true_and] at hpq
      simp only [String.utf8Len_cons] at hlen
      exact ⟨(a, q), ih.mpr ⟨hpq, by omega⟩, rfl⟩
  | case4 c cs n hc =>
    simp only [reduceCtorEq, false_iff, not_and]
    intro hpq hlen
    -- a first part holding `c` takes more bytes than the offset
    cases p with
    | nil => simp at hlen
    | cons d a =>
      simp only [List.cons_append, List.cons.injEq] at hpq
      obtain ⟨rfl, -⟩ := hpq
      simp only [String.utf8Len_cons] at hlen
      omega

theorem splitAtByte_append (p q : List Char) : splitAtByte (p ++ q) (utf8Len p) = some (p, q) :=
  splitAtByte_eq_some_iff.mpr ⟨rfl, rfl⟩

theorem isCharBoundary_iff {s : String} {n : Nat} :
    isCharBoundary s n ↔ ∃ p q, s.toList = p ++ q ∧ utf8Len p = n := by
  rw [isCharBoundary, Option.isSome_iff_exists]
  constructor
  · rintro ⟨⟨p, q⟩, h⟩
    obtain ⟨hpq, hlen⟩ := splitAtByte_eq_some_iff.mp h
    exact ⟨p, q, hpq.symm, hlen⟩
  · rintro ⟨p, q, hpq, rfl⟩
    exact ⟨(p, q), by rw [hpq, splitAtByte_append]⟩

theorem isCharBoundary_of_eq {s : String} {p q : List Char} (h : s.toList = p ++ q) :
    isCharBoundary s (utf8Len p) := isCharBoundary_iff.mpr ⟨p, q, h, rfl⟩

/-- An offset that falls between characters is at most the byte size of the text. -/
theorem le_of_isCharBoundary {s : String} {n : Nat} (h : isCharBoundary s n) :
    n ≤ s.utf8ByteSize := by
  obtain ⟨p, q, hpq, rfl⟩ := isCharBoundary_iff.mp h
  rw [← String.utf8Len_toList, hpq, String.utf8Len_append]
  omega

/-- A list of characters splits at most once at a given byte offset. -/
theorem split_unique {cs p q p' q' : List Char} (h : cs = p ++ q) (h' : cs = p' ++ q')
    (hlen : utf8Len p = utf8Len p') : p = p' ∧ q = q' := by
  have hs := splitAtByte_eq_some_iff.mpr ⟨h.symm, hlen⟩
  rw [h', splitAtByte_append] at hs
  obtain ⟨rfl, rfl⟩ := Prod.mk.inj (Option.some.inj hs)
  exact ⟨rfl, rfl⟩

variable {s : String} {pre mid post : List Char}

theorem prefixBytes_eq (h : s.toList = pre ++ post) :
    prefixBytes s (utf8Len pre) = String.ofList pre := by
  rw [prefixBytes, h, splitAtByte_append]

theorem suffixBytes_eq (h : s.toList = pre ++ post) :
    suffixBytes s (utf8Len pre) = String.ofList post := by
  rw [suffixBytes, h, splitAtByte_append]

/-- Cut at an offset between characters, a text is what comes before and what comes after. -/
theorem prefixBytes_append_suffixBytes {n : Nat} (h : isCharBoundary s n) :
    prefixBytes s n ++ suffixBytes s n = s := by
  obtain ⟨p, q, hpq, rfl⟩ := isCharBoundary_iff.mp h
  rw [prefixBytes_eq hpq, suffixBytes_eq hpq, ← String.ofList_append, ← hpq, String.ofList_toList]

/-- The slice between the end of `pre` and the end of `mid` is `mid`. -/
theorem sliceBytes_eq (h : s.toList = pre ++ mid ++ post) :
    sliceBytes s (utf8Len pre) (utf8Len pre + utf8Len mid) = String.ofList mid := by
  rw [sliceBytes, h, List.append_assoc, splitAtByte_append]
  simp only [Nat.add_sub_cancel_left, splitAtByte_append, Nat.le_add_right, ↓reduceIte]

/-- Of two offsets between the characters of a text, the split at the later one extends the
split at the earlier one. -/
theorem exists_split_of_le {cs p q p' q' : List Char} (h : cs = p ++ q) (h' : cs = p' ++ q')
    (hle : utf8Len p ≤ utf8Len p') : ∃ mid, p' = p ++ mid ∧ q = mid ++ q' := by
  have hpre : p <+: p' := by
    rcases List.prefix_or_prefix_of_prefix (h ▸ List.prefix_append p q : p <+: cs)
        (h' ▸ List.prefix_append p' q') with hp | ⟨x, rfl⟩
    · exact hp
    · -- a longer first part takes more bytes unless the extra part is empty
      have hx : utf8Len x = 0 := by simp only [String.utf8Len_append] at hle; omega
      obtain rfl : x = [] := String.utf8Len_eq_zero.mp hx
      exact ⟨[], by simp⟩
  obtain ⟨mid, rfl⟩ := hpre
  refine ⟨mid, rfl, ?_⟩
  rw [h, List.append_assoc] at h'
  exact List.append_cancel_left h'

/-- Two offsets between the characters of a text, in order, cut it into three parts. -/
theorem exists_three_parts {a b : Nat} (ha : isCharBoundary s a) (hb : isCharBoundary s b)
    (hab : a ≤ b) :
    ∃ pre mid post, s.toList = pre ++ mid ++ post ∧ utf8Len pre = a ∧
      utf8Len pre + utf8Len mid = b := by
  obtain ⟨p, q, hpq, rfl⟩ := isCharBoundary_iff.mp ha
  obtain ⟨p', q', hpq', rfl⟩ := isCharBoundary_iff.mp hb
  obtain ⟨mid, rfl, rfl⟩ := exists_split_of_le hpq hpq' hab
  exact ⟨p, mid, q', by rw [hpq, List.append_assoc], rfl, by simp⟩

variable {t : String}

/-- An offset between the characters of a part of a text, moved past what comes before the part,
falls between the characters of the text. -/
theorem isCharBoundary_within (h : t.toList = pre ++ s.toList ++ post) {a : Nat}
    (ha : isCharBoundary s a) : isCharBoundary t (utf8Len pre + a) := by
  obtain ⟨p, q, hpq, rfl⟩ := isCharBoundary_iff.mp ha
  have ht : t.toList = (pre ++ p) ++ (q ++ post) := by
    rw [h, hpq]
    simp
  simpa using isCharBoundary_of_eq ht

/-- A slice of a part of a text is the slice of the text at the offsets moved past what comes
before the part. -/
theorem sliceBytes_within (h : t.toList = pre ++ s.toList ++ post) {a b : Nat}
    (ha : isCharBoundary s a) (hb : isCharBoundary s b) (hab : a ≤ b) :
    sliceBytes t (utf8Len pre + a) (utf8Len pre + b) = sliceBytes s a b := by
  obtain ⟨p, m, q, hs, rfl, rfl⟩ := exists_three_parts ha hb hab
  have ht : t.toList = (pre ++ p) ++ m ++ (q ++ post) := by
    rw [h, hs]
    simp
  rw [sliceBytes_eq hs, ← Nat.add_assoc, ← String.utf8Len_append, sliceBytes_eq ht]

end Arbor.Text
