import Arbor.Tree.Imports
import Mathlib.Data.String.Basic
/-!
Grouping imports is a stable sort by key.
-/

namespace Arbor

open scoped List

/-! ### The order on keys -/

theorem keyLt_some_some (x y : String) (as bs : List (Option String)) :
    keyLt (some x :: as) (some y :: bs) = if x < y then true else if y < x then false else keyLt as bs :=
  rfl

theorem keyLt_single_some (x y : String) : keyLt [some x] [some y] = true ↔ x < y := by
  rw [keyLt_some_some]
  by_cases hxy : x < y
  · simp only [hxy, if_true]
  · -- a text after or equal to the other leaves a key one value long after it
    have hrest : keyLt [] [] = false := rfl
    by_cases hyx : y < x
    · simp only [hxy, hyx, if_true, if_false, Bool.false_eq_true]
    · simp only [hxy, hyx, if_false, hrest, Bool.false_eq_true]

theorem keyLt_single_trans {a b c : Option String} (h₁ : keyLt [a] [b] = true)
    (h₂ : keyLt [b] [c] = true) : keyLt [a] [c] = true := by
  -- an absent value comes before every text, and nothing comes before it
  cases a with
  | none =>
    cases c with
    | none => cases b <;> cases h₂
    | some z => rfl
  | some x =>
    cases b with
    | none => cases h₁
    | some y =>
      cases c with
      | none => cases h₂
      | some z =>
        exact (keyLt_single_some x z).mpr
          (lt_trans ((keyLt_single_some x y).mp h₁) ((keyLt_single_some y z).mp h₂))

theorem keyLt_single_trichotomy : ∀ a b : Option String,
    keyLt [a] [b] = true ∨ a = b ∨ keyLt [b] [a] = true
  | none, none => .inr (.inl rfl)
  | none, some _ => .inl rfl
  | some _, none => .inr (.inr rfl)
  | some x, some y => by
    rcases lt_trichotomy x y with h | rfl | h
    · exact .inl ((keyLt_single_some x y).mpr h)
    · exact .inr (.inl rfl)
    · exact .inr (.inr ((keyLt_single_some y x).mpr h))

theorem keyLt_cons_cons (a b : Option String) (as bs : List (Option String)) :
    keyLt (a :: as) (b :: bs) = true ↔ keyLt [a] [b] = true ∨ (a = b ∧ keyLt as bs = true) := by
  match a, b with
  | none, none => simp only [keyLt, Bool.false_eq_true, false_or, true_and]
  | none, some _ => simp only [keyLt, true_or]
  | some _, none => simp only [keyLt, Bool.false_eq_true, reduceCtorEq, false_and, or_self]
  | some x, some y =>
    rw [keyLt_some_some, keyLt_single_some, Option.some.injEq]
    by_cases hxy : x < y
    · simp only [hxy, if_true, true_or]
    · by_cases hyx : y < x
      · simp only [hxy, hyx, if_true, if_false, Bool.false_eq_true, false_or, false_iff, not_and]
        rintro rfl
        exact absurd hyx (lt_irrefl x)
      · obtain rfl : x = y := le_antisymm (not_lt.mp hyx) (not_lt.mp hxy)
        rw [if_neg hxy, if_neg hxy]
        exact ⟨fun h => .inr ⟨rfl, h⟩, fun h => h.elim (fun h' => absurd h' hxy) And.right⟩

theorem keyLt_irrefl : ∀ a : List (Option String), keyLt a a = false
  | [] => rfl
  | none :: as => keyLt_irrefl as
  | some x :: as => by
    rw [keyLt_some_some, if_neg (lt_irrefl x), if_neg (lt_irrefl x)]
    exact keyLt_irrefl as

theorem keyLt_trans : ∀ {a b c : List (Option String)},
    keyLt a b = true → keyLt b c = true → keyLt a c = true
  | [], [], _, h, _ => by cases h
  | _ :: _, [], _, h, _ => by cases h
  | _, _ :: _, [], _, h => by cases h
  | [], _ :: _, _ :: _, _, _ => rfl
  | x :: as, y :: bs, z :: cs, h₁, h₂ => by
    rw [keyLt_cons_cons] at h₁ h₂ ⊢
    rcases h₁ with h₁ | ⟨rfl, h₁⟩ <;> rcases h₂ with h₂ | ⟨rfl, h₂⟩
    · exact .inl (keyLt_single_trans h₁ h₂)
    · exact .inl h₁
    · exact .inl h₂
    · exact .inr ⟨rfl, keyLt_trans h₁ h₂⟩

theorem keyLt_trichotomy : ∀ a b : List (Option String),
    keyLt a b = true ∨ a = b ∨ keyLt b a = true
  | [], [] => .inr (.inl rfl)
  | [], _ :: _ => .inl rfl
  | _ :: _, [] => .inr (.inr rfl)
  | x :: as, y :: bs => by
    rw [keyLt_cons_cons x y as bs, keyLt_cons_cons y x bs as]
    rcases keyLt_single_trichotomy x y with h | rfl | h
    · exact .inl (.inl h)
    · rcases keyLt_trichotomy as bs with h | rfl | h
      · exact .inl (.inr ⟨rfl, h⟩)
      · exact .inr (.inl rfl)
      · exact .inr (.inr (.inr ⟨rfl, h⟩))
    · exact .inr (.inr (.inl h))

theorem keyLe_trans {a b c : List (Option String)} (h₁ : (!keyLt b a) = true)
    (h₂ : (!keyLt c b) = true) : (!keyLt c a) = true := by
  rw [Bool.not_eq_true', ← Bool.not_eq_true] at h₁ h₂ ⊢
  intro hca
  rcases keyLt_trichotomy c b with hcb | rfl | hbc
  · exact h₂ hcb
  · exact h₁ hca
  · exact h₁ (keyLt_trans hbc hca)

theorem keyLe_total (a b : List (Option String)) : (!keyLt b a || !keyLt a b) = true := by
  cases hba : keyLt b a
  · rfl
  · have hab : keyLt a b = false := by
      cases h : keyLt a b
      · rfl
      · have := keyLt_trans hba h
        rw [keyLt_irrefl] at this
        cases this
    simp [hab]

/-! ### One pass of grouping -/

/-- One import's key and position added to the groups: to the group of its key, or as a new
group at the end. -/
def addToGroups : List (List (Option String) × List Nat) → List (Option String) × Nat →
    List (List (Option String) × List Nat) :=
  fun acc (k, n) =>
    if acc.any (·.1 == k) then acc.map fun (k', ns) => if k' == k then (k', ns ++ [n]) else (k', ns)
    else acc ++ [(k, [n])]

/-- Each import's key, its values of the grouping fields, with its position. -/
def keyedImports (imports : List Import) (fields : List ImportField) :
    List (List (Option String) × Nat) :=
  imports.zipIdx.map fun (i, n) => (fields.map i.field, n)

theorem groupImports_eq (imports : List Import) (fields : List ImportField) :
    groupImports imports fields =
      ((keyedImports imports fields).foldl addToGroups []).mergeSort fun a b => !keyLt b.1 a.1 :=
  rfl

/-- What a pass over keyed positions `l` keeps: the groups have distinct keys, exactly the keys of
`l`, and each holds the positions of `l` with its key, in order. -/
structure GroupsOf (l : List (List (Option String) × Nat))
    (groups : List (List (Option String) × List Nat)) : Prop where
  nodup : (groups.map (·.1)).Nodup
  keys : ∀ k, k ∈ groups.map (·.1) ↔ k ∈ l.map (·.1)
  members : ∀ k ns, (k, ns) ∈ groups → ns = (l.filter (·.1 == k)).map (·.2)

section Add

variable {l : List (List (Option String) × Nat)} {groups : List (List (Option String) × List Nat)}

theorem GroupsOf.add_of_mem (h : GroupsOf l groups) {k : List (Option String)}
    (hk : k ∈ groups.map (·.1)) (n : Nat) : GroupsOf (l ++ [(k, n)]) (addToGroups groups (k, n)) := by
  have hany : groups.any (·.1 == k) = true := by simpa using hk
  have hkeys : (groups.map fun (k', ns) => if k' == k then (k', ns ++ [n]) else (k', ns)).map
      (·.1) = groups.map (·.1) := by
    rw [List.map_map]
    refine List.map_congr_left fun p _ => ?_
    simp only [Function.comp_apply]
    split <;> rfl
  simp only [addToGroups, hany, if_true]
  refine ⟨hkeys ▸ h.nodup, fun k' => ?_, fun k' ns hmem => ?_⟩
  · rw [hkeys, h.keys, List.map_append, List.mem_append]
    simp only [List.map_cons, List.map_nil, List.mem_singleton]
    constructor
    · exact .inl
    · rintro (h' | rfl)
      · exact h'
      · exact (h.keys _).mp hk
  · obtain ⟨⟨k'', ns'⟩, hmem', heq⟩ := List.mem_map.mp hmem
    rw [List.filter_append, List.map_append]
    -- the group of `k` gains `n` at its end, and every other group stays
    by_cases hkk : k'' = k
    · subst hkk
      simp only [beq_self_eq_true, if_true, Prod.mk.injEq] at heq
      obtain ⟨rfl, rfl⟩ := heq
      simp [h.members k'' ns' hmem']
    · simp only [beq_iff_eq, hkk, if_false, Prod.mk.injEq] at heq
      obtain ⟨rfl, rfl⟩ := heq
      have hne : (k == k'') = false := by simpa using Ne.symm hkk
      simp [h.members k'' ns' hmem', hne]

theorem GroupsOf.add_of_not_mem (h : GroupsOf l groups) {k : List (Option String)}
    (hk : k ∉ groups.map (·.1)) (n : Nat) : GroupsOf (l ++ [(k, n)]) (addToGroups groups (k, n)) := by
  have hany : groups.any (·.1 == k) = false := by
    rw [List.any_eq_false]
    intro p hp hpk
    exact hk (List.mem_map.mpr ⟨p, hp, by simpa using hpk⟩)
  have hnone : l.filter (·.1 == k) = [] := by
    rw [List.filter_eq_nil_iff]
    intro p hp hpk
    exact hk ((h.keys k).mpr (List.mem_map.mpr ⟨p, hp, by simpa using hpk⟩))
  simp only [addToGroups, hany, Bool.false_eq_true, if_false]
  refine ⟨?_, fun k' => ?_, fun k' ns hmem => ?_⟩
  · rw [List.map_append, List.nodup_append]
    refine ⟨h.nodup, by simp, fun a ha b hb => ?_⟩
    rw [List.mem_singleton.mp hb]
    rintro rfl
    exact hk ha
  · simp only [List.map_append, List.mem_append, h.keys, List.map_cons, List.map_nil]
  · rcases List.mem_append.mp hmem with hmem | hmem
    · -- an old group: the new position has another key
      have hne : (k == k') = false := by
        rw [beq_eq_false_iff_ne]
        rintro rfl
        exact hk (List.mem_map.mpr ⟨_, hmem, rfl⟩)
      simp [List.filter_append, h.members k' ns hmem, hne]
    · obtain ⟨rfl, rfl⟩ := Prod.mk.inj (List.mem_singleton.mp hmem)
      simp [List.filter_append, hnone]

/-- Adding one keyed position keeps `GroupsOf`. -/
theorem GroupsOf.add (h : GroupsOf l groups) (k : List (Option String)) (n : Nat) :
    GroupsOf (l ++ [(k, n)]) (addToGroups groups (k, n)) := by
  by_cases hk : k ∈ groups.map (·.1)
  · exact h.add_of_mem hk n
  · exact h.add_of_not_mem hk n

end Add

/-- A pass of `addToGroups` over more keyed positions keeps `GroupsOf`. -/
theorem GroupsOf.foldl {pre : List (List (Option String) × Nat)}
    {groups : List (List (Option String) × List Nat)} (h : GroupsOf pre groups) :
    ∀ l, GroupsOf (pre ++ l) (l.foldl addToGroups groups)
  | [] => by simpa using h
  | (k, n) :: l => by
    rw [List.foldl_cons, show pre ++ (k, n) :: l = pre ++ [(k, n)] ++ l by simp]
    exact (h.add k n).foldl l

theorem groupsOf_foldl (l : List (List (Option String) × Nat)) :
    GroupsOf l (l.foldl addToGroups []) := by
  have hstart : GroupsOf [] [] := ⟨List.nodup_nil, by simp, by simp⟩
  simpa using hstart.foldl l

/-- `GroupsOf` does not depend on the order of the groups. -/
theorem GroupsOf.perm {l : List (List (Option String) × Nat)}
    {groups groups' : List (List (Option String) × List Nat)} (h : GroupsOf l groups)
    (hp : groups' ~ groups) : GroupsOf l groups' where
  nodup := ((hp.map _).nodup_iff).mpr h.nodup
  keys k := ((hp.map _).mem_iff).trans (h.keys k)
  members k ns hmem := h.members k ns (hp.mem_iff.mp hmem)

theorem filter_mergeSort_key {α : Type} (key : α → List (Option String)) (l : List α)
    (k : List (Option String)) :
    (l.mergeSort fun a b => !keyLt (key b) (key a)).filter (key · == k) = l.filter (key · == k) := by
  have htrans : ∀ a b c : α, (!keyLt (key b) (key a)) = true → (!keyLt (key c) (key b)) = true →
      (!keyLt (key c) (key a)) = true := fun _ _ _ h₁ h₂ => keyLe_trans h₁ h₂
  have htotal : ∀ a b : α, (!keyLt (key b) (key a) || !keyLt (key a) (key b)) = true :=
    fun a b => keyLe_total (key a) (key b)
  -- the elements of key `k`, all equal by the comparison, stay a sublist of the sorted list
  have hsame : (l.filter (key · == k)).Pairwise fun a b => (!keyLt (key b) (key a)) = true := by
    refine List.pairwise_of_forall_mem_list fun a ha b hb => ?_
    rw [(beq_iff_eq.mp (List.mem_filter.mp ha).2), (beq_iff_eq.mp (List.mem_filter.mp hb).2),
      keyLt_irrefl]
    rfl
  have hsub := List.sublist_mergeSort htrans htotal hsame (List.filter_sublist)
  have hsub' : l.filter (key · == k) <+ (l.mergeSort fun a b => !keyLt (key b) (key a)).filter
      (key · == k) := by
    simpa [List.filter_filter] using hsub.filter (key · == k)
  have hlen : ((l.mergeSort fun a b => !keyLt (key b) (key a)).filter (key · == k)).length =
      (l.filter (key · == k)).length :=
    ((List.mergeSort_perm l _).filter _).length_eq
  exact (hsub'.eq_of_length hlen.symm).symm

/-! ### The sorted groups -/

section Sorted

variable (imports : List Import) (fields : List ImportField)

theorem groupsOf_groupImports : GroupsOf (keyedImports imports fields) (groupImports imports fields) :=
  (groupsOf_foldl _).perm (by rw [groupImports_eq]; exact List.mergeSort_perm _ _)

theorem groupImports_keys_ascend :
    ((groupImports imports fields).map (·.1)).Pairwise fun a b => keyLt a b = true := by
  have hle : (groupImports imports fields).Pairwise fun a b => (!keyLt b.1 a.1) = true := by
    rw [groupImports_eq]
    apply List.pairwise_mergeSort
    · intro a b c h₁ h₂
      exact keyLe_trans h₁ h₂
    · intro a b
      exact keyLe_total a.1 b.1
  have hne : (groupImports imports fields).Pairwise
      fun a b : List (Option String) × List Nat => a.1 ≠ b.1 :=
    List.pairwise_map.mp (groupsOf_groupImports imports fields).nodup
  rw [List.pairwise_map]
  refine (hle.and hne).imp fun ⟨hle, hne⟩ => ?_
  rw [Bool.not_eq_true', ← Bool.not_eq_true] at hle
  rcases keyLt_trichotomy _ _ with h | h | h
  · exact h
  · exact absurd h hne
  · exact absurd h hle

theorem keyedImports_keys :
    (keyedImports imports fields).map (·.1) = imports.map fun i => fields.map i.field := by
  unfold keyedImports
  conv => rhs; rw [← List.zipIdx_map_fst 0 imports]
  rw [List.map_map, List.map_map]
  rfl

theorem keyedImports_filter (k : List (Option String)) :
    ((keyedImports imports fields).filter (·.1 == k)).map (·.2) =
      (imports.zipIdx.filter fun p => fields.map p.1.field == k).map (·.2) := by
  simp [keyedImports, List.filter_map, Function.comp_def]

theorem mem_groupImports {k : List (Option String)} {ns : List Nat} :
    (k, ns) ∈ groupImports imports fields ↔ (∃ i ∈ imports, fields.map i.field = k) ∧
      ns = (imports.zipIdx.filter fun p => fields.map p.1.field == k).map (·.2) := by
  have hg := groupsOf_groupImports imports fields
  have hkey : k ∈ (groupImports imports fields).map (·.1) ↔ ∃ i ∈ imports, fields.map i.field = k := by
    rw [hg.keys, keyedImports_keys, List.mem_map]
  constructor
  · intro hmem
    refine ⟨hkey.mp (List.mem_map.mpr ⟨_, hmem, rfl⟩), ?_⟩
    rw [hg.members k ns hmem, keyedImports_filter]
  · rintro ⟨hocc, rfl⟩
    obtain ⟨⟨k', ns'⟩, hmem, rfl⟩ := List.mem_map.mp (hkey.mpr hocc)
    rw [← keyedImports_filter, ← hg.members k' ns' hmem]
    exact hmem

theorem zipIdx_pairwise_lt {α : Type} (l : List α) : l.zipIdx.Pairwise fun p q => p.2 < q.2 := by
  have h := List.pairwise_lt_range' (s := 0) (n := l.length)
  rw [← List.zipIdx_map_snd 0 l, List.pairwise_map] at h
  exact h

/-- Positioned imports ordered by key, and by position within one key. -/
def KeyOrder (fields : List ImportField) (p q : Import × Nat) : Prop :=
  keyLt (fields.map p.1.field) (fields.map q.1.field) = true ∨
    (fields.map p.1.field = fields.map q.1.field ∧ p.2 < q.2)

theorem keyOrder_irrefl (p : Import × Nat) : ¬KeyOrder fields p p := by
  rintro (h | ⟨-, h⟩)
  · rw [keyLt_irrefl] at h
    cases h
  · exact Nat.lt_irrefl _ h

theorem keyOrder_asymm {p q : Import × Nat} (hpq : KeyOrder fields p q) (hqp : KeyOrder fields q p) :
    False := by
  rcases hpq with h | ⟨he, h⟩ <;> rcases hqp with h' | ⟨he', h'⟩
  · exact keyOrder_irrefl fields p (.inl (keyLt_trans h h'))
  · rw [he'] at h
    exact keyOrder_irrefl fields p (.inl h)
  · rw [he] at h'
    exact keyOrder_irrefl fields q (.inl h')
  · omega

theorem pairwise_keyOrder_mergeSort :
    (imports.zipIdx.mergeSort fun p q => !keyLt (fields.map q.1.field) (fields.map p.1.field)).Pairwise
      (KeyOrder fields) := by
  have hle : (imports.zipIdx.mergeSort fun p q =>
      !keyLt (fields.map q.1.field) (fields.map p.1.field)).Pairwise fun p q =>
        (!keyLt (fields.map q.1.field) (fields.map p.1.field)) = true := by
    apply List.pairwise_mergeSort
    · intro a b c h₁ h₂
      exact keyLe_trans h₁ h₂
    · intro a b
      exact keyLe_total _ _
  refine List.pairwise_iff_forall_sublist.mpr fun {p q} hpq => ?_
  have hpq' := List.pairwise_iff_forall_sublist.mp hle hpq
  rw [Bool.not_eq_true', ← Bool.not_eq_true] at hpq'
  rcases keyLt_trichotomy (fields.map p.1.field) (fields.map q.1.field) with h | h | h
  · exact .inl h
  · -- of one key, the sorted list is the imports of that key in their order
    refine .inr ⟨h, ?_⟩
    have hkey : [p, q] <+ (imports.zipIdx.mergeSort fun p q =>
        !keyLt (fields.map q.1.field) (fields.map p.1.field)).filter
          fun x => fields.map x.1.field == fields.map p.1.field := by
      simpa [List.filter_cons, h] using hpq.filter fun x => fields.map x.1.field == fields.map p.1.field
    rw [filter_mergeSort_key] at hkey
    exact List.pairwise_iff_forall_sublist.mp ((zipIdx_pairwise_lt imports).filter _) hkey
  · exact absurd h hpq'

theorem pairwise_keyOrder_groups :
    ((groupImports imports fields).flatMap fun g =>
      imports.zipIdx.filter fun p => fields.map p.1.field == g.1).Pairwise (KeyOrder fields) := by
  rw [List.pairwise_flatMap]
  refine ⟨fun g _ => ?_, ?_⟩
  · -- within a group one key, in the imports' order
    refine ((zipIdx_pairwise_lt imports).filter _).imp_of_mem fun ha hb hlt => .inr ⟨?_, hlt⟩
    rw [beq_iff_eq.mp (List.mem_filter.mp ha).2, beq_iff_eq.mp (List.mem_filter.mp hb).2]
  · -- across groups, ascending keys
    have hasc := groupImports_keys_ascend imports fields
    rw [List.pairwise_map] at hasc
    refine hasc.imp fun hlt x hx y hy => .inl ?_
    rw [beq_iff_eq.mp (List.mem_filter.mp hx).2, beq_iff_eq.mp (List.mem_filter.mp hy).2]
    exact hlt

theorem flatMap_groupImports :
    (groupImports imports fields).flatMap (·.2) =
      (imports.zipIdx.mergeSort fun p q => !keyLt (fields.map q.1.field) (fields.map p.1.field)).map
        (·.2) := by
  -- each group is its key's imports, so both sides list every import once in `KeyOrder`
  have hpositions : (groupImports imports fields).flatMap (·.2) =
      ((groupImports imports fields).flatMap fun g =>
        imports.zipIdx.filter fun p => fields.map p.1.field == g.1).map (·.2) := by
    rw [List.map_flatMap, List.flatMap_def, List.flatMap_def]
    congr 1
    exact List.map_congr_left fun g hg => ((mem_groupImports imports fields).mp hg).2
  have hnodup : ((groupImports imports fields).flatMap fun g =>
      imports.zipIdx.filter fun p => fields.map p.1.field == g.1).Nodup := by
    refine (pairwise_keyOrder_groups imports fields).imp fun {p q} hpq => ?_
    rintro rfl
    exact keyOrder_irrefl fields p hpq
  have hZnodup : imports.zipIdx.Nodup := by
    refine (zipIdx_pairwise_lt imports).imp fun {p q} hlt => ?_
    rintro rfl
    exact Nat.lt_irrefl _ hlt
  have hperm : ((groupImports imports fields).flatMap fun g =>
      imports.zipIdx.filter fun p => fields.map p.1.field == g.1) ~
        imports.zipIdx.mergeSort fun p q => !keyLt (fields.map q.1.field) (fields.map p.1.field) := by
    refine ((List.perm_ext_iff_of_nodup hnodup hZnodup).mpr fun p => ?_).trans
      (List.mergeSort_perm _ _).symm
    -- every import is in the group of its key
    simp only [List.mem_flatMap, List.mem_filter, beq_iff_eq]
    constructor
    · rintro ⟨g, -, hp, -⟩
      exact hp
    · intro hp
      have hmem : p.1 ∈ imports := by
        rw [← List.zipIdx_map_fst 0 imports]
        exact List.mem_map_of_mem hp
      exact ⟨_, (mem_groupImports imports fields).mpr ⟨⟨p.1, hmem, rfl⟩, rfl⟩, hp, rfl⟩
  rw [hpositions, List.Perm.eq_of_pairwise (fun a b _ _ hab hba => (keyOrder_asymm fields hab hba).elim)
    (pairwise_keyOrder_groups imports fields) (pairwise_keyOrder_mergeSort imports fields) hperm]

theorem flatMap_groupImports_perm :
    (groupImports imports fields).flatMap (·.2) ~ List.range imports.length := by
  rw [flatMap_groupImports, List.range_eq_range', ← List.zipIdx_map_snd 0 imports]
  exact (List.mergeSort_perm _ _).map _

theorem groupImports_nil_fields :
    groupImports imports [] = if imports = [] then [] else [([], List.range imports.length)] := by
  -- the one group there can be holds every position under the empty key
  have hmem : ∀ g, g ∈ groupImports imports [] ↔
      imports ≠ [] ∧ g = ([], List.range imports.length) := by
    rintro ⟨k, ns⟩
    rw [mem_groupImports, List.range_eq_range', ← List.zipIdx_map_snd 0 imports]
    simp only [List.map_nil, Prod.mk.injEq]
    constructor
    · rintro ⟨⟨i, hi, rfl⟩, rfl⟩
      exact ⟨List.ne_nil_of_mem hi, rfl, by simp⟩
    · rintro ⟨hne, rfl, rfl⟩
      obtain ⟨i, hi⟩ := List.exists_mem_of_ne_nil imports hne
      exact ⟨⟨i, hi, rfl⟩, by simp⟩
  split
  · exact List.eq_nil_iff_forall_not_mem.mpr fun g hg => ((hmem g).mp hg).1 ‹_›
  · rename_i hne
    have hnodup := (groupsOf_groupImports imports []).nodup
    rcases hG : groupImports imports [] with _ | ⟨g, _ | ⟨g', rest⟩⟩
    · have := (hmem _).mpr ⟨hne, rfl⟩
      rw [hG] at this
      cases this
    · rw [((hmem g).mp (hG ▸ List.mem_singleton_self g)).2]
    · -- two groups would share the empty key
      have hg := ((hmem g).mp (hG ▸ List.mem_cons_self)).2
      have hg' := ((hmem g').mp (hG ▸ List.mem_cons_of_mem _ List.mem_cons_self)).2
      rw [hG, List.map_cons, List.map_cons, hg, hg'] at hnodup
      exact absurd hnodup (by simp)

/-- Grouping imports is a stable sort by key: one group per key, keys ascending, each holding its
imports' positions in order. -/
theorem groupImports_stable :
    ((groupImports imports fields).map (·.1)).Pairwise (fun a b => keyLt a b = true) ∧
      (∀ k ns, (k, ns) ∈ groupImports imports fields ↔
        (∃ i ∈ imports, fields.map i.field = k) ∧
          ns = (imports.zipIdx.filter fun p => fields.map p.1.field == k).map (·.2)) ∧
      (groupImports imports fields).flatMap (·.2) =
        (imports.zipIdx.mergeSort fun p q =>
          !keyLt (fields.map q.1.field) (fields.map p.1.field)).map (·.2) ∧
      (groupImports imports fields).flatMap (·.2) ~ List.range imports.length ∧
      groupImports imports [] =
        if imports = [] then [] else [([], List.range imports.length)] :=
  ⟨groupImports_keys_ascend imports fields, fun _ _ => mem_groupImports imports fields,
    flatMap_groupImports imports fields, flatMap_groupImports_perm imports fields,
    groupImports_nil_fields imports⟩

/-- No imports make no group, even without fields: the empty key names no group. -/
theorem groupImports_nil_nil : groupImports [] [] = [] := by
  rw [groupImports_nil_fields]
  rfl

end Sorted

end Arbor
