import Arbor.Proofs.Outline.Fill
/-!
The parser's stack of open nodes.
-/

namespace Arbor.Outline

open Arbor.Layout

/-- The open nodes, innermost first: each a child of the next one with a deeper header, the
outermost a child of the file node. -/
def OpenChain (nodes : Array Node) : List Nat → Prop
  | [] => True
  | s :: rest => 0 < s ∧ s < nodes.size ∧ (entry nodes s).parent = some (rest.head?.getD 0) ∧
      (∀ t ∈ rest.head?, (entry nodes t).indent < (entry nodes s).indent) ∧ OpenChain nodes rest

def endAt (last : Nat) (n : Node) : Node := { n with span := { n.span with last := last } }

/-- The state after closing the open nodes at `level` on line `k`. -/
def ParseState.closing (level k : Nat) (st : ParseState) : ParseState :=
  { st with stack := (closeOpen level (k - 1) st.stack st.nodes).1
            nodes := (closeOpen level (k - 1) st.stack st.nodes).2 }

/-- The state after a header at indentation `i` opens a node of the given kind and name, starting
on line `start`, under the innermost open node, in a file of `total` lines. -/
def ParseState.opening (total start i : Nat) (kind : Kind) (name : String) (st : ParseState) :
    ParseState :=
  let parent := st.stack.head?.getD 0
  let node : Node := { kind, name, span := ⟨start, total⟩, indent := i, parent := some parent }
  { nodes := (st.nodes.push node).modify parent
      fun n => { n with children := n.children.push st.nodes.size }
    stack := st.nodes.size :: st.stack
    pending := none }

theorem closeOpen_cons (level last top : Nat) (rest : List Nat) (nodes : Array Node) :
    closeOpen level last (top :: rest) nodes =
      if level > (entry nodes top).indent then (top :: rest, nodes)
      else closeOpen level last rest (nodes.modify top (endAt last)) := rfl

/-- Closing pops the open nodes down to the first one with a shallower header than `level`, and
ends each popped node on line `last`. -/
theorem closeOpen_spec (level last : Nat) :
    (stack : List Nat) → (nodes : Array Node) → (∀ s ∈ stack, s < nodes.size) →
    ∃ popped rest, stack = popped ++ rest ∧ (closeOpen level last stack nodes).1 = rest ∧
      (closeOpen level last stack nodes).2.size = nodes.size ∧
      (∀ i, entry (closeOpen level last stack nodes).2 i =
        if i ∈ popped then endAt last (entry nodes i) else entry nodes i) ∧
      (∀ s ∈ popped, level ≤ (entry nodes s).indent) ∧
      (∀ t ∈ rest.head?, (entry nodes t).indent < level)
  | [], nodes, _ => ⟨[], [], rfl, rfl, rfl, fun _ => by simp [closeOpen], by simp, by simp⟩
  | top :: rest, nodes, hvalid => by
    rw [closeOpen_cons]
    by_cases hlt : level > (entry nodes top).indent
    · rw [if_pos hlt]
      exact ⟨[], top :: rest, rfl, rfl, rfl, fun _ => by simp, by simp, by simpa using hlt⟩
    · rw [if_neg hlt]
      have hvalid' : ∀ s ∈ rest, s < (nodes.modify top (endAt last)).size := fun s hs => by
        simpa using hvalid s (by simp [hs])
      obtain ⟨popped, rest', hsplit, h1, h2, h3, h4, h5⟩ :=
        closeOpen_spec level last rest (nodes.modify top (endAt last)) hvalid'
      have htop : top < nodes.size := hvalid top (by simp)
      have hindent : ∀ i, (entry (nodes.modify top (endAt last)) i).indent = (entry nodes i).indent :=
        fun i => by rw [entry_modify]; split <;> rfl
      refine ⟨top :: popped, rest', by rw [hsplit]; rfl, h1, by rw [h2]; simp, fun i => ?_, ?_, ?_⟩
      · rw [h3 i, entry_modify]
        by_cases hi : i = top
        · subst hi
          simp [htop, endAt]
        · have : top ≠ i := Ne.symm hi
          simp [hi, this]
      · intro s hs
        rcases List.mem_cons.mp hs with rfl | hs
        · omega
        · simpa [hindent] using h4 s hs
      · intro t ht
        simpa [hindent] using h5 t ht

namespace OpenChain

variable {nodes : Array Node}

theorem valid : {stack : List Nat} → OpenChain nodes stack → ∀ s ∈ stack, 0 < s ∧ s < nodes.size
  | [], _, _, hs => by simp at hs
  | _ :: _, ⟨h0, hs, _, _, hrest⟩, s, hmem => by
    rcases List.mem_cons.mp hmem with rfl | hmem
    · exact ⟨h0, hs⟩
    · exact valid hrest s hmem

theorem tail {s : Nat} {rest : List Nat} (h : OpenChain nodes (s :: rest)) : OpenChain nodes rest :=
  h.2.2.2.2

theorem of_append : {popped rest : List Nat} → OpenChain nodes (popped ++ rest) →
    OpenChain nodes rest
  | [], _, h => h
  | _ :: _, _, h => of_append h.tail

/-- Open nodes further out come earlier in the table and have shallower headers. -/
theorem sorted (hlt : ∀ i, 0 < i → i < nodes.size → ∃ p, (entry nodes i).parent = some p ∧ p < i) :
    {stack : List Nat} → OpenChain nodes stack →
      stack.Pairwise fun a b => b < a ∧ (entry nodes b).indent < (entry nodes a).indent
  | [], _ => List.Pairwise.nil
  | s :: rest, h => by
    have ih := sorted hlt h.tail
    refine List.Pairwise.cons (fun t ht => ?_) ih
    obtain ⟨h0, hs, hpar, hind, hrest⟩ := h
    cases rest with
    | nil => simp at ht
    | cons u rest =>
      obtain ⟨p, hp, hps⟩ := hlt s h0 hs
      rw [hpar] at hp
      simp only [List.head?_cons, Option.getD_some, Option.some_inj] at hp
      subst hp
      have hu := hind u (by simp)
      rcases List.mem_cons.mp ht with rfl | ht
      · exact ⟨hps, hu⟩
      · have := (List.pairwise_cons.mp ih).1 t ht
        omega

theorem parent_mem : {stack : List Nat} → OpenChain nodes stack → ∀ c ∈ stack,
    ∃ p, (entry nodes c).parent = some p ∧ (p = 0 ∨ p ∈ stack)
  | [], _, _, hc => by simp at hc
  | s :: rest, h, c, hc => by
    rcases List.mem_cons.mp hc with rfl | hc
    · refine ⟨_, h.2.2.1, ?_⟩
      cases rest with
      | nil => exact .inl rfl
      | cons u _ => exact .inr (by simp)
    · obtain ⟨p, hp, hmem⟩ := parent_mem h.tail c hc
      exact ⟨p, hp, hmem.imp id fun hm => List.mem_cons_of_mem _ hm⟩

/-- The chain stays when the table changes but keeps the open nodes' parents and headers. -/
theorem congr {nodes' : Array Node} (hsize : nodes.size ≤ nodes'.size) :
    {stack : List Nat} → OpenChain nodes stack →
    (∀ s ∈ stack, (entry nodes' s).parent = (entry nodes s).parent ∧
      (entry nodes' s).indent = (entry nodes s).indent) → OpenChain nodes' stack
  | [], _, _ => trivial
  | s :: rest, ⟨h0, hs, hpar, hind, hrest⟩, hkeep => by
    obtain ⟨k1, k2⟩ := hkeep s (by simp)
    refine ⟨h0, by omega, k1.trans hpar, fun t ht => ?_, congr hsize hrest fun u hu =>
      hkeep u (List.mem_cons_of_mem _ hu)⟩
    have hu := hkeep t (by cases rest <;> simp_all)
    rw [hu.2, k2]
    exact hind t ht

theorem le_head (hlt : ∀ i, 0 < i → i < nodes.size → ∃ p, (entry nodes i).parent = some p ∧ p < i)
    {stack : List Nat} (h : OpenChain nodes stack) {s : Nat} (hs : s ∈ stack) :
    s ≤ stack.head?.getD 0 := by
  cases stack with
  | nil => simp at hs
  | cons t rest =>
    rcases List.mem_cons.mp hs with rfl | hs
    · simp
    · have := (List.pairwise_cons.mp (h.sorted hlt)).1 s hs
      simp only [List.head?_cons, Option.getD_some]
      omega

end OpenChain

theorem entry_open (nodes : Array Node) (node : Node) {parent : Nat} (hp : parent < nodes.size)
    (j : Nat) :
    entry ((nodes.push node).modify parent
        (fun n => { n with children := n.children.push nodes.size })) j =
      if j = parent then { entry nodes j with children := (entry nodes j).children.push nodes.size }
      else if j < nodes.size then entry nodes j else if j = nodes.size then node else default := by
  by_cases hj : j = parent
  · subst hj
    rw [entry_modify_self _ _ (by simp; omega), entry_push, if_pos hp, if_pos rfl]
  · rw [entry_modify_ne _ _ (Ne.symm hj), entry_push, if_neg hj]

theorem entry_past {nodes : Array Node} {j : Nat} (hj : nodes.size ≤ j) : entry nodes j = default := by
  simp [entry, Array.getElem?_eq_none hj]

namespace ParseState

/-! The table after a header opens a node, read one entry at a time. The statements hold when the
innermost open node, or the file node when none is open, is in the table. -/

variable {total start i : Nat} {kind : Kind} {name : String} {st : ParseState}

@[simp] theorem opening_stack :
    (st.opening total start i kind name).stack = st.nodes.size :: st.stack := rfl

@[simp] theorem opening_pending : (st.opening total start i kind name).pending = none := rfl

@[simp] theorem opening_size :
    (st.opening total start i kind name).nodes.size = st.nodes.size + 1 := by
  simp [opening]

/-- The new node comes last, under the innermost open node. -/
theorem entry_opening_new (hP : st.stack.head?.getD 0 < st.nodes.size) :
    entry (st.opening total start i kind name).nodes st.nodes.size =
      { kind, name, span := ⟨start, total⟩, indent := i, parent := some (st.stack.head?.getD 0) } := by
  simp only [opening]
  rw [entry_open _ _ hP, if_neg (by omega), if_neg (by omega), if_pos rfl]

/-- A node already in the table changes in its children only, and only the innermost open node,
which gains the new node. -/
theorem entry_opening_of_lt (hP : st.stack.head?.getD 0 < st.nodes.size) {j : Nat}
    (hj : j < st.nodes.size) :
    entry (st.opening total start i kind name).nodes j =
      { entry st.nodes j with
        children := if j = st.stack.head?.getD 0 then (entry st.nodes j).children.push st.nodes.size
          else (entry st.nodes j).children } := by
  simp only [opening]
  rw [entry_open _ _ hP]
  by_cases hjP : j = st.stack.head?.getD 0
  · rw [if_pos hjP, if_pos hjP]
  · rw [if_neg hjP, if_pos hj, if_neg hjP]

theorem parent_opening (hP : st.stack.head?.getD 0 < st.nodes.size) {j : Nat}
    (hj : j < st.nodes.size + 1) :
    (entry (st.opening total start i kind name).nodes j).parent =
      if j < st.nodes.size then (entry st.nodes j).parent else some (st.stack.head?.getD 0) := by
  by_cases hjs : j < st.nodes.size
  · rw [if_pos hjs, entry_opening_of_lt hP hjs]
  · rw [if_neg hjs, show j = st.nodes.size by omega, entry_opening_new hP]

theorem children_opening (hP : st.stack.head?.getD 0 < st.nodes.size) (p : Nat) :
    (entry (st.opening total start i kind name).nodes p).children =
      if p = st.stack.head?.getD 0 then (entry st.nodes p).children.push st.nodes.size
      else (entry st.nodes p).children := by
  by_cases hps : p < st.nodes.size
  · rw [entry_opening_of_lt hP hps]
  · rw [if_neg (by omega), @entry_past st.nodes p (by omega)]
    by_cases hp : p = st.nodes.size
    · rw [hp, entry_opening_new hP]
      rfl
    · simp only [opening]
      rw [entry_open _ _ hP, if_neg (by omega), if_neg hps, if_neg hp]

end ParseState

/-- What holds of the parser's state before it reads line `k` of a file of `total` lines, when
the first code line from line `k` on has indentation `upcoming`. -/
structure ParseInv (total k : Nat) (upcoming : Option Nat) (st : ParseState) : Prop
    extends Nested total st.nodes where
  first_lt : ∀ i, 0 < i → i < st.nodes.size →
    1 ≤ (entry st.nodes i).span.first ∧ (entry st.nodes i).span.first < k
  open_last : ∀ s ∈ st.stack, (entry st.nodes s).span.last = total
  closed_last : ∀ i, 0 < i → i < st.nodes.size → i ∉ st.stack → (entry st.nodes i).span.last < k
  chain : OpenChain st.nodes st.stack
  latest : ∀ s ∈ st.stack, ∀ j, s < j → j < st.nodes.size →
    ∃ p, (entry st.nodes j).parent = some p ∧ s ≤ p
  pending_ok : ∀ d, st.pending = some d → 1 ≤ d.start ∧ d.start < k ∧
    (∀ i, 0 < i → i < st.nodes.size → (entry st.nodes i).span.first < d.start) ∧
    (upcoming = some d.indent →
      (∀ i, 0 < i → i < st.nodes.size → i ∉ st.stack → (entry st.nodes i).span.last < d.start) ∧
      ∀ s ∈ st.stack, (entry st.nodes s).indent < d.indent)
  not_directory : ∀ i, i < st.nodes.size → (entry st.nodes i).kind ≠ .directory

namespace ParseInv

variable {total k : Nat} {up : Option Nat} {st : ParseState}

theorem innermost_lt (h : ParseInv total k up st) : st.stack.head?.getD 0 < st.nodes.size := by
  cases hst : st.stack with
  | nil => exact h.root.1
  | cons t rest => simpa using (h.chain.valid t (by simp [hst])).2

/-- Closing the open nodes at `level` on line `k` keeps the invariant, as long as the next code
line is no deeper than `level`; the nodes left open all have shallower headers. -/
theorem close (h : ParseInv total k up st) (hk1 : 1 ≤ k) (hk : k ≤ total + 1) (level : Nat)
    (hlevel : ∀ i, up = some i → i ≤ level) :
    ParseInv total k up (st.closing level k) ∧
      ∀ s ∈ (st.closing level k).stack, (entry (st.closing level k).nodes s).indent < level := by
  have hvalid := h.chain.valid
  obtain ⟨popped, rest, hsplit, h1, h2, h3, h4, h5⟩ :=
    closeOpen_spec level (k - 1) st.stack st.nodes fun s hs => (hvalid s hs).2
  simp only [ParseState.closing]
  rw [h1]
  generalize (closeOpen level (k - 1) st.stack st.nodes).2 = nodes' at h2 h3 ⊢
  have hsorted := h.chain.sorted h.parent_lt
  rw [hsplit] at hsorted
  have hdisj : ∀ x ∈ popped, x ∉ rest := fun x hx hr =>
    (List.pairwise_append.mp hsorted).2.2 x hx x hr |>.1.false
  have hpop : ∀ x ∈ popped, x ∈ st.stack := fun x hx => by rw [hsplit]; simp [hx]
  have hrest : ∀ x ∈ rest, x ∈ st.stack := fun x hx => by rw [hsplit]; simp [hx]
  -- everything but the ends of the popped nodes stays
  have hsame : ∀ i, (entry nodes' i).kind = (entry st.nodes i).kind ∧
      (entry nodes' i).parent = (entry st.nodes i).parent ∧
      (entry nodes' i).indent = (entry st.nodes i).indent ∧
      (entry nodes' i).children = (entry st.nodes i).children ∧
      (entry nodes' i).span.first = (entry st.nodes i).span.first := fun i => by
    rw [h3 i]
    split <;> exact ⟨rfl, rfl, rfl, rfl, rfl⟩
  simp only [forall_and] at hsame
  obtain ⟨hkind, hparent, hindent, hchildren, hfirst⟩ := hsame
  have hlast : ∀ i, (entry nodes' i).span.last =
      if i ∈ popped then k - 1 else (entry st.nodes i).span.last := fun i => by
    rw [h3 i]
    split <;> rfl
  have hchainRest : OpenChain st.nodes rest := by
    have := h.chain
    rw [hsplit] at this
    exact this.of_append
  have hchain := hchainRest.congr (by omega) fun s _ => ⟨hparent s, hindent s⟩
  have hrestLt : ∀ s ∈ rest, (entry nodes' s).indent < level := fun s hs => by
    rw [hindent s]
    cases rest with
    | nil => simp at hs
    | cons u rest' =>
      have hu := h5 u (by simp)
      rcases List.mem_cons.mp hs with rfl | hs
      · exact hu
      · have := (List.pairwise_cons.mp (List.pairwise_append.mp hsorted).2.1).1 s hs
        omega
  refine ⟨⟨⟨?root, ?parent_lt, ?not_content, ?children_eq, ?nonempty, ?within, ?ordered⟩,
    ?first_lt, ?open_last, ?closed_last, hchain, ?latest, ?pending_ok, ?not_directory⟩, hrestLt⟩
  all_goals dsimp only
  case root =>
    have h0 : (0 : Nat) ∉ popped := fun h0 => (hvalid 0 (hpop 0 h0)).1.false
    obtain ⟨hsz, hk, hs, hp⟩ := h.root
    refine ⟨by omega, (hkind 0).trans hk, ?_, (hparent 0).trans hp⟩
    rw [← hs, h3 0, if_neg h0]
  case parent_lt =>
    intro i hi0 hi
    rw [hparent i]
    exact h.parent_lt i hi0 (by omega)
  case not_content =>
    intro i hi
    rw [hkind i]
    exact h.not_content i (by omega)
  case children_eq =>
    intro p hp
    rw [hchildren p, h.children_eq p (by omega), h2]
    exact List.filter_congr fun j _ => by rw [hparent j]
  case nonempty =>
    intro i hi0 hi
    rw [hfirst i, hlast i]
    split
    · have := h.first_lt i hi0 (by omega)
      omega
    · exact h.nonempty i hi0 (by omega)
  case within =>
    intro c p hc0 hc hpar
    rw [hparent c] at hpar
    have hw := h.within c p hc0 (by omega) hpar
    rw [hfirst c, hfirst p, hlast c, hlast p]
    refine ⟨hw.1, ?_⟩
    by_cases hcp : c ∈ popped
    · by_cases hpp : p ∈ popped
      · simp [hcp, hpp]
      · rw [if_pos hcp, if_neg hpp]
        obtain ⟨q, hq, hq0⟩ := h.chain.parent_mem c (hpop c hcp)
        rw [hpar, Option.some_inj] at hq
        subst hq
        rcases hq0 with rfl | hqs
        · simp only [h.root.2.2.1]
          omega
        · rw [h.open_last p hqs]
          omega
    · rw [if_neg hcp]
      by_cases hpp : p ∈ popped
      · rw [if_pos hpp]
        by_cases hcs : c ∈ st.stack
        · have hcr : c ∈ rest := by
            rw [hsplit] at hcs
            rcases List.mem_append.mp hcs with h' | h'
            · exact absurd h' hcp
            · exact h'
          obtain ⟨q, hq, hq0⟩ := hchainRest.parent_mem c hcr
          rw [hpar, Option.some_inj] at hq
          subst hq
          rcases hq0 with rfl | hqr
          · exact absurd hpp fun h0 => (hvalid 0 (hpop 0 h0)).1.false
          · exact absurd hqr (hdisj _ hpp)
        · have := h.closed_last c hc0 (by omega) hcs
          omega
      · rw [if_neg hpp]
        exact hw.2
  case ordered =>
    intro c c' hc0 hcc' hc' hpar
    rw [hparent c, hparent c'] at hpar
    rw [hfirst c', hlast c]
    split
    · rename_i hcp
      obtain ⟨q, hq, hcq⟩ := h.latest c (hpop c hcp) c' hcc' (by omega)
      obtain ⟨q', hq', hq'c⟩ := h.parent_lt c hc0 (by omega)
      rw [hpar, hq, Option.some_inj] at hq'
      omega
    · exact h.ordered c c' hc0 hcc' (by omega) hpar
  case first_lt =>
    intro i hi0 hi
    rw [hfirst i]
    exact h.first_lt i hi0 (by omega)
  case open_last =>
    intro s hs
    rw [hlast s, if_neg fun hp => hdisj s hp hs]
    exact h.open_last s (hrest s hs)
  case closed_last =>
    intro i hi0 hi hir
    rw [hlast i]
    split
    · omega
    · rename_i hip
      refine h.closed_last i hi0 (by omega) fun his => ?_
      rw [hsplit] at his
      rcases List.mem_append.mp his with h' | h'
      · exact hip h'
      · exact hir h'
  case latest =>
    intro s hs j hsj hj
    rw [hparent j]
    exact h.latest s (hrest s hs) j hsj (by omega)
  case pending_ok =>
    intro d hd
    obtain ⟨hd1, hd2, hd3, hd4⟩ := h.pending_ok d hd
    refine ⟨hd1, hd2, fun i hi0 hi => by rw [hfirst i]; exact hd3 i hi0 (by omega),
      fun hup => ?_⟩
    obtain ⟨hclosed, hopen⟩ := hd4 hup
    -- nothing is closed: every open header is shallower than the level
    have hnone : popped = [] := by
      cases popped with
      | nil => rfl
      | cons x xs =>
        have hx := h4 x (by simp)
        have := hopen x (hpop x (by simp))
        have := hlevel d.indent hup
        omega
    subst hnone
    simp only [List.nil_append] at hsplit
    subst hsplit
    refine ⟨fun i hi0 hi hir => ?_, fun s hs => ?_⟩
    · rw [hlast i, if_neg (by simp)]
      exact hclosed i hi0 (by omega) hir
    · rw [hindent s]
      exact hopen s hs
  case not_directory =>
    intro i hi
    rw [hkind i]
    exact h.not_directory i (by omega)

/-- The next line may be read once this one is done. -/
theorem next_line (h : ParseInv total k up st) : ParseInv total (k + 1) up st :=
  { h with
    first_lt := fun i hi0 hi => (h.first_lt i hi0 hi).imp id fun hlt => by omega
    closed_last := fun i hi0 hi hs => by have := h.closed_last i hi0 hi hs; omega
    pending_ok := fun d hd => by
      obtain ⟨h1, h2, h3, h4⟩ := h.pending_ok d hd
      exact ⟨h1, by omega, h3, h4⟩ }

/-- A decorator line at indentation `i`, with every open header shallower, extends the pending
run or starts a new one. -/
theorem decorate (h : ParseInv total k (some i) st) (htop : ∀ s ∈ st.stack, (entry st.nodes s).indent < i)
    (hk1 : 1 ≤ k) (name : String) (up' : Option Nat) :
    ParseInv total (k + 1) up' { st with pending := some (Decorators.extend st.pending k i name) } := by
  have hnext := h.next_line
  refine { hnext with pending_ok := fun d hd => ?_ }
  simp only [Option.some_inj] at hd
  subst hd
  unfold Decorators.extend
  split
  · rename_i p hp
    split
    · dsimp only
      rename_i hind
      obtain ⟨h1, h2, h3, h4⟩ := h.pending_ok p hp
      obtain ⟨hclosed, hopen⟩ := h4 (by rw [hind])
      exact ⟨h1, by omega, h3, fun _ => ⟨hclosed, by simpa [hind] using hopen⟩⟩
    · dsimp only
      exact ⟨hk1, by omega, fun j hj0 hj => (h.first_lt j hj0 hj).2,
        fun _ => ⟨h.closed_last, htop⟩⟩
  · dsimp only
    exact ⟨hk1, by omega, fun j hj0 hj => (h.first_lt j hj0 hj).2, fun _ => ⟨h.closed_last, htop⟩⟩

/-- A header line at indentation `i`, with every open header shallower, opens a node starting on
line `start` under the innermost open node, provided every node started before `start` and every
closed node ended before it. -/
theorem open_node (h : ParseInv total k (some i) st) (hk : k ≤ total)
    (htop : ∀ s ∈ st.stack, (entry st.nodes s).indent < i) {start : Nat} (hs1 : 1 ≤ start)
    (hs2 : start ≤ k)
    (hfirst : ∀ j, 0 < j → j < st.nodes.size → (entry st.nodes j).span.first < start)
    (hclosed : ∀ j, 0 < j → j < st.nodes.size → j ∉ st.stack →
      (entry st.nodes j).span.last < start)
    {kind : Kind} (hkind : kind ≠ .content) (hdir : kind ≠ .directory) (name : String)
    (up' : Option Nat) :
    ParseInv total (k + 1) up' (st.opening total start i kind name) := by
  have hsz := h.root.1
  have hP := h.innermost_lt
  have hsize : (st.opening total start i kind name).nodes.size = st.nodes.size + 1 :=
    ParseState.opening_size
  have hnew : entry (st.opening total start i kind name).nodes st.nodes.size =
      { kind, name, span := ⟨start, total⟩, indent := i, parent := some (st.stack.head?.getD 0) } :=
    ParseState.entry_opening_new hP
  have hle := fun {s} (hs : s ∈ st.stack) => h.chain.le_head h.parent_lt hs
  have hPopen : st.stack.head?.getD 0 = 0 ∨ st.stack.head?.getD 0 ∈ st.stack := by
    cases hst : st.stack with
    | nil => exact .inl rfl
    | cons t rest => exact .inr (by simp)
  refine ⟨⟨?root, ?parent_lt, ?not_content, ?children_eq, ?nonempty, ?within, ?ordered⟩,
    ?first_lt, ?open_last, ?closed_last, ?chain, ?latest, ?pending_ok, ?not_directory⟩
  case root =>
    obtain ⟨-, hk0, hs0, hp0⟩ := h.root
    rw [hsize, ParseState.entry_opening_of_lt hP hsz]
    exact ⟨by omega, hk0, hs0, hp0⟩
  case parent_lt =>
    intro j hj0 hj
    rw [ParseState.parent_opening hP (by omega)]
    by_cases hjs : j < st.nodes.size
    · rw [if_pos hjs]
      exact h.parent_lt j hj0 hjs
    · rw [if_neg hjs]
      exact ⟨_, rfl, by omega⟩
  case not_content =>
    intro j hj
    by_cases hjs : j < st.nodes.size
    · rw [ParseState.entry_opening_of_lt hP hjs]
      exact h.not_content j hjs
    · rw [show j = st.nodes.size by omega, hnew]
      exact hkind
  case children_eq =>
    -- the new node joins the end of its parent's list, and of the table
    intro p hp
    rw [hsize, List.range_succ, List.filter_append, ParseState.children_opening hP p,
      List.filter_congr (l := List.range st.nodes.size) (q := fun j => (entry st.nodes j).parent == some p)
        fun j hj => by rw [ParseState.parent_opening hP (by simp at hj; omega), if_pos (by simpa using hj)]]
    have hlast : [st.nodes.size].filter
        (fun j => (entry (st.opening total start i kind name).nodes j).parent == some p) =
          if st.stack.head?.getD 0 = p then [st.nodes.size] else [] := by
      rw [List.filter_singleton, ParseState.parent_opening hP (by omega), if_neg (by omega)]
      by_cases hPp : st.stack.head?.getD 0 = p
      · simp [hPp]
      · have hne : (st.stack.head?.getD 0 == p) = false := by simpa using hPp
        simp [hne, hPp]
    rw [hlast]
    by_cases hps : p < st.nodes.size
    · rw [← h.children_eq p hps]
      by_cases hpP : p = st.stack.head?.getD 0
      · subst hpP
        simp
      · rw [if_neg hpP, if_neg (Ne.symm hpP)]
        simp
    · obtain rfl : p = st.nodes.size := by omega
      rw [if_neg (by omega), if_neg (by omega), entry_past (le_refl _), List.append_nil]
      show [] = _
      symm
      simp only [List.filter_eq_nil_iff, List.mem_range, beq_iff_eq]
      intro j hj hjp
      rcases Nat.eq_zero_or_pos j with rfl | hj0
      · rw [h.root.2.2.2] at hjp
        cases hjp
      · obtain ⟨q, hq, hqj⟩ := h.parent_lt j hj0 hj
        rw [hq, Option.some_inj] at hjp
        omega
  case nonempty =>
    intro j hj0 hj
    by_cases hjs : j < st.nodes.size
    · rw [ParseState.entry_opening_of_lt hP hjs]
      exact h.nonempty j hj0 hjs
    · rw [show j = st.nodes.size by omega, hnew]
      show start ≤ total
      omega
  case within =>
    intro c p hc0 hc hcp
    by_cases hcs : c < st.nodes.size
    · simp only [ParseState.entry_opening_of_lt hP hcs] at hcp ⊢
      obtain ⟨q, hq, hqc⟩ := h.parent_lt c hc0 hcs
      rw [hcp, Option.some_inj] at hq
      subst hq
      simp only [ParseState.entry_opening_of_lt hP (show p < st.nodes.size by omega)]
      exact h.within c p hc0 hcs hcp
    · -- the new node lies inside the innermost open node, which reaches the last line
      obtain rfl : c = st.nodes.size := by omega
      rw [hnew] at hcp ⊢
      simp only [Option.some_inj] at hcp
      subst hcp
      simp only [ParseState.entry_opening_of_lt hP hP]
      rcases hPopen with hP0 | hPs
      · rw [hP0, h.root.2.2.1]
        exact ⟨hs1, le_refl _⟩
      · rw [h.open_last _ hPs]
        exact ⟨Nat.le_of_lt (hfirst _ (h.chain.valid _ hPs).1 hP), le_refl _⟩
  case ordered =>
    intro c c' hc0 hcc' hc' hpar
    have hcs : c < st.nodes.size := by omega
    by_cases hcs' : c' < st.nodes.size
    · simp only [ParseState.entry_opening_of_lt hP hcs, ParseState.entry_opening_of_lt hP hcs']
        at hpar ⊢
      exact h.ordered c c' hc0 hcc' hcs' hpar
    · -- an earlier sibling of the new node is closed, so it ended before the new one starts
      obtain rfl : c' = st.nodes.size := by omega
      rw [hnew] at hpar ⊢
      simp only [ParseState.entry_opening_of_lt hP hcs] at hpar ⊢
      refine hclosed c hc0 hcs fun hcs => ?_
      have hcP := hle hcs
      obtain ⟨q, hq, hqc⟩ := h.parent_lt c hc0 (by omega)
      rw [hpar, Option.some_inj] at hq
      omega
  case first_lt =>
    intro j hj0 hj
    by_cases hjs : j < st.nodes.size
    · simp only [ParseState.entry_opening_of_lt hP hjs]
      have := h.first_lt j hj0 hjs
      omega
    · rw [show j = st.nodes.size by omega, hnew]
      exact ⟨hs1, by show start < k + 1; omega⟩
  case open_last =>
    intro s hs
    rw [ParseState.opening_stack] at hs
    rcases List.mem_cons.mp hs with rfl | hs
    · rw [hnew]
    · rw [ParseState.entry_opening_of_lt hP (h.chain.valid s hs).2]
      exact h.open_last s hs
  case closed_last =>
    intro j hj0 hj hjs
    rw [ParseState.opening_stack] at hjs
    have hjs' : j < st.nodes.size := by
      by_contra hn
      exact hjs (by simp [show j = st.nodes.size by omega])
    simp only [ParseState.entry_opening_of_lt hP hjs']
    have := h.closed_last j hj0 hjs' fun hm => hjs (List.mem_cons_of_mem _ hm)
    omega
  case chain =>
    rw [ParseState.opening_stack]
    have hkeep : ∀ s ∈ st.stack,
        (entry (st.opening total start i kind name).nodes s).parent = (entry st.nodes s).parent ∧
        (entry (st.opening total start i kind name).nodes s).indent = (entry st.nodes s).indent :=
      fun s hs => by
        rw [ParseState.entry_opening_of_lt hP (h.chain.valid s hs).2]
        exact ⟨rfl, rfl⟩
    refine ⟨hsz, by omega, by rw [hnew], fun t ht => ?_, h.chain.congr (by omega) hkeep⟩
    have ht' : t ∈ st.stack := List.mem_of_mem_head? ht
    rw [hnew, (hkeep t ht').2]
    exact htop t ht'
  case latest =>
    intro s hs j hsj hj
    rw [ParseState.opening_stack] at hs
    rcases List.mem_cons.mp hs with rfl | hs
    · omega
    · rw [ParseState.parent_opening hP (by omega)]
      by_cases hjs : j < st.nodes.size
      · rw [if_pos hjs]
        exact h.latest s hs j hsj hjs
      · rw [if_neg hjs]
        exact ⟨_, rfl, hle hs⟩
  case pending_ok =>
    intro d hd
    rw [ParseState.opening_pending] at hd
    cases hd
  case not_directory =>
    intro j hj
    by_cases hjs : j < st.nodes.size
    · rw [ParseState.entry_opening_of_lt hP hjs]
      exact h.not_directory j hjs
    · rw [show j = st.nodes.size by omega, hnew]
      exact hdir

end ParseInv

end Arbor.Outline
