import Arbor.Proofs.Outline.Declarative
import Arbor.Tree.Basic
import Mathlib.Data.List.TakeWhile
/-!
The names an outline gives.
-/

namespace Arbor

open Arbor.Outline Arbor.Layout Arbor.Text

/-! ### Plain names -/

/-- None of the characters that separate the names of a path, or close a call, is a word
character. -/
theorem isWordChar_separators :
    isWordChar '.' = false ∧ isWordChar '/' = false ∧ isWordChar '\\' = false ∧
      isWordChar ')' = false := by
  decide +kernel

/-- A name the outline gives a class or a function: one or more word characters. -/
structure IsPlainName (s : String) : Prop where
  ne_empty : s ≠ ""
  word : ∀ c ∈ s.toList, isWordChar c = true

namespace IsPlainName

variable {s : String} (h : IsPlainName s)
include h

theorem not_mem {c : Char} (hc : isWordChar c = false) : c ∉ s.toList := fun hm => by
  simp [h.word c hm] at hc

theorem isEmpty_eq_false : s.isEmpty = false := by
  simpa [String.isEmpty_iff] using h.ne_empty

theorem not_separator {c : Char} (hc : c ∈ s.toList) : (c == '.' || c == '/') = false := by
  have hdot : c ≠ '.' := fun he => h.not_mem isWordChar_separators.1 (he ▸ hc)
  have hslash : c ≠ '/' := fun he => h.not_mem isWordChar_separators.2.1 (he ▸ hc)
  simp [hdot, hslash]

theorem ne_backslash {c : Char} (hc : c ∈ s.toList) : c ≠ '\\' :=
  fun he => h.not_mem isWordChar_separators.2.2.1 (he ▸ hc)

theorem ne_rparen {c : Char} (hc : c ∈ s.toList) : c ≠ ')' :=
  fun he => h.not_mem isWordChar_separators.2.2.2 (he ▸ hc)

end IsPlainName

theorem nameAt?_isPlainName {cs : List Char} {s : String} (h : nameAt? cs = some s) :
    IsPlainName s := by
  cases cs with
  | nil => simp [nameAt?] at h
  | cons c cs =>
    simp only [nameAt?] at h
    split at h
    · rename_i hc
      obtain rfl := Option.some_inj.mp h
      refine ⟨fun he => by simpa using congrArg String.toList he, fun x hx => ?_⟩
      rcases List.mem_cons.mp (by simpa using hx) with rfl | hx
      · simp only [Bool.and_eq_true] at hc
        exact hc.1
      · exact List.mem_takeWhile_imp hx
    · cases h

theorem headerKind_isPlainName (isProperty : String → Bool) (names : Array String)
    {trimmed : List Char} {hd : Header} (h : header? trimmed = some hd) :
    IsPlainName (headerKind isProperty names hd).2 := by
  unfold header? at h
  split at h
  · rename_i n hn
    cases h
    simp only [classHeader?] at hn
    obtain ⟨rest, -, hrest⟩ := Option.bind_eq_some_iff.mp hn
    exact nameAt?_isPlainName hrest
  · obtain ⟨n, hn, rfl⟩ := Option.map_eq_some_iff.mp h
    simp only [defHeader?] at hn
    obtain ⟨rest, -, hrest⟩ := Option.bind_eq_some_iff.mp hn
    exact nameAt?_isPlainName hrest

/-- An outline whose nodes past the file node that are not content have plain names. -/
def PlainNames (nodes : Array Node) : Prop :=
  ∀ j, 0 < j → j < nodes.size → (entry nodes j).kind ≠ .content → IsPlainName (entry nodes j).name

theorem parse_plainNames (isProperty : String → Bool) (name text : String) :
    PlainNames (parse isProperty name text) := by
  intro j hj0 hj hk
  -- the node is read off a header line, and the header names it
  obtain ⟨h, -, hnode⟩ := parse_entry_of_ne_content isProperty name text hj0 hj hk
  have hname := congrArg Node.name hnode
  have hkind := congrArg Node.kind hnode
  simp only [Node.withoutChildren] at hname hkind
  rw [hname]
  rw [hkind] at hk
  cases hhd : header? (lineText (strippedLines text) h) with
  | none => simp [headerNode, hhd] at hk
  | some hd =>
    simp only [headerNode, hhd]
    exact headerKind_isPlainName _ _ hhd

theorem make_plainNames (isProperty : String → Bool) (path name text : String)
    (structured : Bool) : PlainNames (ParsedFile.make isProperty path name text structured).nodes := by
  cases structured
  · -- a file kept whole has one node past its file node, a content node
    intro j hj0 hj hk
    have hsize : (wholeFileNodes name text).size = 2 := rfl
    simp only [ParsedFile.make, Bool.false_eq_true, ↓reduceIte] at hj hk
    obtain rfl : j = 1 := by omega
    exact absurd (by simp [entry, wholeFileNodes]) hk
  · simpa [ParsedFile.make] using parse_plainNames isProperty name text

/-! ### The name of the file node -/

/-- A table that keeps the names of the nodes of another. -/
structure KeepsNames (nodes nodes' : Array Node) : Prop where
  size_le : nodes.size ≤ nodes'.size
  name : ∀ i, i < nodes.size → (entry nodes' i).name = (entry nodes i).name

namespace KeepsNames

variable {a b c : Array Node}

theorem refl (a : Array Node) : KeepsNames a a := ⟨le_rfl, fun _ _ => rfl⟩

theorem trans (hab : KeepsNames a b) (hbc : KeepsNames b c) : KeepsNames a c :=
  ⟨hab.size_le.trans hbc.size_le, fun i hi => by
    rw [hbc.name i (Nat.lt_of_lt_of_le hi hab.size_le), hab.name i hi]⟩

theorem push (a : Array Node) (x : Node) : KeepsNames a (a.push x) :=
  ⟨by simp, fun _ hi => by rw [entry_push_lt hi]⟩

theorem modify (a : Array Node) (j : Nat) {f : Node → Node} (hf : ∀ n, (f n).name = n.name) :
    KeepsNames a (a.modify j f) := by
  refine ⟨by simp, fun i _ => ?_⟩
  rw [entry_modify]
  split
  · exact hf _
  · rfl

theorem of_keepsHeadings (h : KeepsHeadings a b) : KeepsNames a b := by
  refine ⟨h.size_le, fun i hi => ?_⟩
  have hname := congrArg Node.name (h.keep i hi)
  exact hname

end KeepsNames

theorem keepsNames_closeOpen (level last : Nat) :
    ∀ (stack : List Nat) (nodes : Array Node), KeepsNames nodes (closeOpen level last stack nodes).2
  | [], nodes => KeepsNames.refl nodes
  | top :: rest, nodes => by
    unfold closeOpen
    split
    · exact KeepsNames.refl nodes
    · refine (KeepsNames.modify nodes top fun _ => ?_).trans (keepsNames_closeOpen level last rest _)
      rfl

theorem keepsNames_codeLine (isProperty : String → Bool) (total line indent : Nat)
    (trimmed : List Char) (st : ParseState) :
    KeepsNames st.nodes (st.codeLine isProperty total line indent trimmed).nodes := by
  unfold ParseState.codeLine
  split
  · exact KeepsNames.refl _
  · dsimp only
    split
    · exact KeepsNames.refl _
    · -- a header adds its node and lists it under its parent
      dsimp only
      apply (KeepsNames.push _ _).trans
      apply KeepsNames.modify
      intro n
      rfl

theorem keepsNames_readLine (isProperty : String → Bool) (total line : Nat) (text : String)
    (kind : LineKind) (next : Option Nat) (st : ParseState) :
    KeepsNames st.nodes (st.readLine isProperty total line text kind next).nodes := by
  unfold ParseState.readLine
  -- closing open nodes changes their spans only, and a code line may then add a node
  cases hc : closingLevel kind next with
  | none =>
    dsimp only
    split
    · exact keepsNames_codeLine _ _ _ _ _ _
    · exact KeepsNames.refl _
  | some level =>
    have hclose := keepsNames_closeOpen level (line - 1) st.stack st.nodes
    dsimp only
    split
    · exact hclose.trans (keepsNames_codeLine isProperty total line _ _
        ⟨(closeOpen level (line - 1) st.stack st.nodes).2, (closeOpen level (line - 1) st.stack st.nodes).1,
          st.pending⟩)
    · exact hclose

theorem keepsNames_readLines (isProperty : String → Bool) (total : Nat) :
    ∀ (line : Nat) (lines : List (String × LineKind × Option Nat)) (st : ParseState),
      KeepsNames st.nodes (ParseState.readLines isProperty total line lines st).nodes
  | _, [], _ => KeepsNames.refl _
  | line, (text, kind, next) :: rest, st =>
    (keepsNames_readLine isProperty total line text kind next st).trans
      (keepsNames_readLines isProperty total (line + 1) rest _)

theorem name_parse_root (isProperty : String → Bool) (name text : String) :
    (entry (parse isProperty name text) 0).name = name := by
  have h := (keepsNames_readLines isProperty (strippedLines text).length 1
    ((strippedLines text).zip ((classify (strippedLines text)).zip
      (nextCodeIndents (classify (strippedLines text)))))
    ⟨#[{ kind := .file, name, span := ⟨1, (strippedLines text).length⟩, indent := 0,
          parent := none }], [], none⟩).trans
    (KeepsNames.of_keepsHeadings (keepsHeadings_fillContent _))
  exact h.name 0 (by simp)

theorem name_make_root (isProperty : String → Bool) (path name text : String) (structured : Bool) :
    (entry (ParsedFile.make isProperty path name text structured).nodes 0).name = name := by
  cases structured
  · simp [ParsedFile.make, entry, wholeFileNodes]
  · simpa [ParsedFile.make] using name_parse_root isProperty name text

end Arbor
