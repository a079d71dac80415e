import Arbor.Proofs.Outline.Stack
/-!
The parser builds an outline.
-/

namespace Arbor.Outline

open Arbor.Layout Arbor.Text

/-- The indentation of the first code line from a line of kind `kind` on, when the first code
line after it has indentation `next`. -/
def upcomingAt (kind : LineKind) (next : Option Nat) : Option Nat :=
  match kind with
  | .code i => some i
  | _ => next

/-- The indentation of the first code line among lines of the given kinds. -/
def firstCodeIndent : List LineKind → Option Nat
  | [] => none
  | kind :: rest => upcomingAt kind (firstCodeIndent rest)

/-- Each line is told the indentation of the first code line after it. -/
theorem nextCodeIndents_cons (kind : LineKind) (rest : List LineKind) :
    nextCodeIndents (kind :: rest) = firstCodeIndent rest :: nextCodeIndents rest := by
  simp only [nextCodeIndents, List.foldr_cons]
  congr 1
  -- the fold carries the indentation of the first code line it has read
  induction rest with
  | nil => rfl
  | cons k ks ih =>
    rw [List.foldr_cons, firstCodeIndent, ← ih]
    cases k <;> rfl

theorem codeLine_header {isProperty : String → Bool} {total k i : Nat} {trimmed : List Char}
    {st : ParseState} {hd : Header} (hdec : decorator? trimmed = none)
    (hhead : header? trimmed = some hd) :
    ∃ (start : Nat) (kind : Kind) (name : String), kind ≠ .content ∧ kind ≠ .directory ∧
      (start = k ∨ ∃ p, st.pending = some p ∧ p.indent = i ∧ start = p.start) ∧
      st.codeLine isProperty total k i trimmed =
        ({ st with pending := none } : ParseState).opening total start i kind name := by
  unfold ParseState.codeLine
  simp only [hdec, hhead]
  refine ⟨_, _, _, ?_, ?_, ?_, rfl⟩
  -- the kind comes from the header
  · cases hd with
    | classDef n => simp
    | function n =>
      have hne : ∀ b : Bool, (if b = true then Kind.property else Kind.function) ≠ .content := by
        decide
      exact hne _
  · cases hd with
    | classDef n => simp
    | function n =>
      have hne : ∀ b : Bool, (if b = true then Kind.property else Kind.function) ≠ .directory := by
        decide
      exact hne _
  -- the start from the pending run
  · cases hp : st.pending with
    | none => exact .inl rfl
    | some p =>
      dsimp only
      split
      · rename_i hpi
        exact .inr ⟨p, rfl, hpi, rfl⟩
      · exact .inl rfl

namespace ParseInv

variable {total k : Nat} {up : Option Nat} {st : ParseState}

theorem clear_pending (h : ParseInv total k up st) (up' : Option Nat) :
    ParseInv total k up' { st with pending := none } :=
  ⟨h.toNested, h.first_lt, h.open_last, h.closed_last, h.chain, h.latest,
    fun _ hd => (nomatch hd), h.not_directory⟩

theorem code_line (h : ParseInv total k (some i) st) (hk1 : 1 ≤ k) (hk : k ≤ total)
    (htop : ∀ s ∈ st.stack, (entry st.nodes s).indent < i) (isProperty : String → Bool)
    (trimmed : List Char) (up' : Option Nat) :
    ParseInv total (k + 1) up' (st.codeLine isProperty total k i trimmed) := by
  cases hdec : decorator? trimmed with
  | some d =>
    unfold ParseState.codeLine
    rw [hdec]
    exact h.decorate htop hk1 d up'
  | none =>
    cases hhead : header? trimmed with
    | none =>
      unfold ParseState.codeLine
      simp only [hdec, hhead]
      exact (h.clear_pending up').next_line
    | some hd =>
      obtain ⟨start, kind, name, hkind, hdir, hstart, heq⟩ :=
        @codeLine_header isProperty total k i trimmed st hd hdec hhead
      rw [heq]
      have h0 := h.clear_pending (some i)
      -- a node started at the run needs every node to start, and every closed one to end,
      -- before the run
      rcases hstart with rfl | ⟨p, hp, hpi, rfl⟩
      · exact h0.open_node hk htop hk1 le_rfl (fun j hj0 hj => (h.first_lt j hj0 hj).2)
          (fun j hj0 hj hjs => h.closed_last j hj0 hj hjs) hkind hdir name up'
      · obtain ⟨hs1, hs2, hfirst, hrun⟩ := h.pending_ok p hp
        obtain ⟨hclosed, -⟩ := hrun (by rw [hpi])
        exact h0.open_node hk htop hs1 (by omega) hfirst hclosed hkind hdir name up'

/-- Reading line `k` of kind `kind`, when the first code line after it has indentation `next`,
keeps the invariant. -/
theorem read_line (h : ParseInv total k (upcomingAt kind next) st) (hk1 : 1 ≤ k)
    (hk : k ≤ total) (isProperty : String → Bool) (text : String) :
    ParseInv total (k + 1) next (st.readLine isProperty total k text kind next) := by
  cases kind with
  | blank => exact h.next_line
  | continuation => exact h.next_line
  | comment j =>
    -- a comment closes no deeper than the next code line
    obtain ⟨hc, -⟩ := h.close hk1 (by omega) (max j (next.getD 0)) fun i hi => by
      simp only [upcomingAt] at hi
      simp [hi]
    exact hc.next_line
  | code j =>
    obtain ⟨hc, htop⟩ := h.close hk1 (by omega) j fun i hi => by
      simp only [upcomingAt, Option.some_inj] at hi
      omega
    exact hc.code_line hk1 hk htop isProperty _ next

/-- Reading the lines of a file from line `k` to its end keeps the invariant, and ends with no
code line to come. -/
theorem read_lines (isProperty : String → Bool) :
    ∀ (lines : List String) (kinds : List LineKind) (k : Nat) (st : ParseState),
      lines.length = kinds.length → 1 ≤ k → k + lines.length ≤ total + 1 →
      ParseInv total k (firstCodeIndent kinds) st →
      ParseInv total (k + lines.length) none
        (ParseState.readLines isProperty total k (lines.zip (kinds.zip (nextCodeIndents kinds))) st)
  | [], kinds, k, st, hlen, _, _, h => by
    rw [List.length_nil, eq_comm, List.length_eq_zero_iff] at hlen
    subst hlen
    exact h
  | text :: rest, kinds, k, st, hlen, hk1, hk, h => by
    obtain ⟨kind, ks, rfl⟩ : ∃ kind ks, kinds = kind :: ks :=
      List.exists_cons_of_length_eq_add_one hlen.symm
    rw [nextCodeIndents_cons, List.zip_cons_cons, List.zip_cons_cons]
    have hstep : ParseInv total (k + 1) (firstCodeIndent ks)
        (st.readLine isProperty total k text kind (firstCodeIndent ks)) :=
      h.read_line hk1 (by simp at hk; omega) isProperty text
    have := read_lines isProperty rest ks (k + 1) _ (by simpa using hlen) (by omega)
      (by simp at hk; omega) hstep
    rw [List.length_cons, show k + (rest.length + 1) = k + 1 + rest.length by omega]
    exact this

/-- Before the first line the table holds the file node alone, and nothing is open. -/
theorem initial (total : Nat) (name : String) (up : Option Nat) :
    ParseInv total 1 up
      ⟨#[{ kind := .file, name, span := ⟨1, total⟩, indent := 0, parent := none }], [], none⟩ := by
  refine ⟨⟨?root, ?parent_lt, ?not_content, ?children_eq, ?nonempty, ?within, ?ordered⟩,
    ?first_lt, ?open_last, ?closed_last, trivial, ?latest, ?pending_ok, ?not_directory⟩
  all_goals simp only [List.size_toArray, List.length_singleton, List.not_mem_nil]
  case root => exact ⟨Nat.one_pos, rfl, rfl, rfl⟩
  case not_content =>
    intro i hi
    rw [show i = 0 by omega]
    simp [entry]
  case not_directory =>
    intro i hi
    rw [show i = 0 by omega]
    simp [entry]
  case children_eq =>
    intro p hp
    rw [show p = 0 by omega]
    simp [entry]
  -- nothing is open or pending
  case open_last | latest | pending_ok => intros; contradiction
  -- the file node is the only node
  all_goals intros; omega

end ParseInv

theorem parseLines_eq_fillContent (isProperty : String → Bool) (name : String)
    (lines : List String) :
    ∃ nodes, Nested lines.length nodes ∧
      (∀ i, i < nodes.size → (entry nodes i).kind ≠ .directory) ∧
      parseLines isProperty name lines = fillContent nodes := by
  have h := @ParseInv.read_lines lines.length isProperty lines (classify lines) 1 _
    (length_classify lines).symm le_rfl (by omega) (ParseInv.initial lines.length name _)
  exact ⟨_, h.toNested, h.not_directory, rfl⟩

theorem parseLines_isOutline (isProperty : String → Bool) (name : String) (lines : List String) :
    IsOutline lines.length (parseLines isProperty name lines) := by
  obtain ⟨nodes, hn, -, heq⟩ := parseLines_eq_fillContent isProperty name lines
  rw [heq]
  exact fillContent_isOutline hn

theorem parseLines_not_directory (isProperty : String → Bool) (name : String)
    (lines : List String) {i : Nat} (hi : i < (parseLines isProperty name lines).size) :
    (entry (parseLines isProperty name lines) i).kind ≠ .directory := by
  obtain ⟨nodes, hn, hdir, heq⟩ := parseLines_eq_fillContent isProperty name lines
  rw [heq] at hi ⊢
  rcases fillContent_kind hn hi with ⟨hin, hk⟩ | hk
  · rw [hk]
    exact hdir i hin
  · rw [hk]
    decide

/-- No node of the outline of a text is a directory. -/
theorem parse_not_directory (isProperty : String → Bool) (name text : String) {i : Nat}
    (hi : i < (parse isProperty name text).size) :
    (entry (parse isProperty name text) i).kind ≠ .directory := by
  unfold parse at hi ⊢
  generalize physicalLines text = pieces at hi ⊢
  cases pieces <;> exact parseLines_not_directory isProperty name _ hi

/-- The nodes read from a text form an outline of its physical lines. -/
theorem parse_outline (isProperty : String → Bool) (name text : String) :
    IsOutline (physicalLines text).length (parse isProperty name text) := by
  unfold parse
  cases physicalLines text with
  | nil => exact parseLines_isOutline isProperty name []
  | cons first rest => exact parseLines_isOutline isProperty name (stripByteOrderMark first :: rest)

/-- The outline of any text tiles its lines: children tile their parent's span, content nodes are
leaves, and every line lies in exactly one leaf. -/
theorem parse_isOutline (isProperty : String → Bool) (name text : String) :
    IsOutline (physicalLines text).length (parse isProperty name text) ∧
      ∀ l, 1 ≤ l → l ≤ (physicalLines text).length →
        ((Finset.range (parse isProperty name text).size).filter fun i =>
          (entry (parse isProperty name text) i).children = #[] ∧
            (entry (parse isProperty name text) i).span.contains l).card = 1 := by
  have hout : IsOutline (physicalLines text).length (parse isProperty name text) := by
    unfold parse
    cases physicalLines text with
    | nil => exact parseLines_isOutline isProperty name []
    | cons first rest =>
      exact parseLines_isOutline isProperty name (stripByteOrderMark first :: rest)
  exact ⟨hout, fun l h1 hl => hout.leaves_partition h1 hl⟩

end Arbor.Outline
