import Arbor.Proofs.Tree.Ancestors
import Mathlib.Data.List.Chain
/-!
The subtree below a node and the track down to it.
-/

namespace Arbor

namespace Tree

variable {t : Tree}

theorem contains_of_mem_children {x c : NodeId} (hc : c ∈ t.children x) : t.contains x := by
  match x with
  | .dir d =>
    cases hd : t.dirs[d]? with
    | none => simp [children, hd] at hc
    | some dir => simp [contains, (Array.getElem?_eq_some_iff.mp hd).1]
  | .unit f j =>
    cases hf : t.files[f]? with
    | none => simp [children, node?, hf] at hc
    | some file =>
      cases hn : file.nodes[j]? with
      | none => simp [children, node?, hf, hn] at hc
      | some node => simp [contains, hf, (Array.getElem?_eq_some_iff.mp hn).1]

section Track

variable (hwf : t.WellFormed) (hpa : ParentsAbove t.dirs t.files)
include hwf

theorem induction_parent {P : NodeId → Prop} (h : ∀ x, (∀ p, t.parent? x = some p → P p) → P x)
    (x : NodeId) : P x := by
  -- the rank falls going up
  induction hm : t.rank x using Nat.strong_induction_on generalizing x with
  | _ m ih =>
    refine h x fun p hp => ih (t.rank p) ?_ p rfl
    rw [← hm]
    exact rank_lt_of_parent? hwf hp

theorem contains_of_parent? {x p : NodeId} (h : t.parent? x = some p) : t.contains p :=
  contains_of_mem_children (mem_children_of_parent? hwf h)

include hpa

theorem track_isChain (x : NodeId) : (t.track x).IsChain fun a b => t.parent? b = some a := by
  induction x using induction_parent hwf with
  | _ x ih =>
    cases hx : t.parent? x with
    | none => simp [track_of_parent?_eq_none hx]
    | some p =>
      rw [track_of_parent? hwf hpa hx]
      refine (ih p hx).append (.singleton x) fun a ha b hb => ?_
      have hlast : (t.track p).getLast? = some p := by simp [track]
      simp only [hlast, Option.mem_def, Option.some.injEq, List.head?_cons] at ha hb
      subst ha hb
      exact hx

theorem parent?_head_track (x : NodeId) : ∀ r ∈ (t.track x).head?, t.parent? r = none := by
  induction x using induction_parent hwf with
  | _ x ih =>
    cases hx : t.parent? x with
    | none => simp [track_of_parent?_eq_none hx, hx]
    | some p =>
      intro r hr
      have hne : t.track p ≠ [] := by simp [track]
      rw [track_of_parent? hwf hpa hx, List.head?_append_of_ne_nil _ hne] at hr
      exact ih p hx r hr

theorem mem_preorder_iff_mem_track {x y : NodeId} : y ∈ t.preorder x ↔ x ∈ t.track y := by
  induction y using induction_parent hwf with
  | _ y ih =>
    cases hy : t.parent? y with
    | none =>
      -- a node in nothing is below no node but itself
      rw [track_of_parent?_eq_none hy, List.mem_singleton]
      refine ⟨fun hmem => by_contra fun hne => ?_, fun h => h ▸ mem_preorder_self hwf y⟩
      obtain ⟨p, hp, -⟩ := parent?_mem_preorder hwf hmem (Ne.symm hne)
      simp [hy] at hp
    | some p =>
      rw [track_of_parent? hwf hpa hy, List.mem_append, List.mem_singleton, ← ih p hy]
      constructor
      · intro hmem
        by_cases hyx : y = x
        · exact .inr hyx.symm
        · obtain ⟨q, hq, hqx⟩ := parent?_mem_preorder hwf hmem hyx
          rw [hy] at hq
          cases hq
          exact .inl hqx
      · rintro (hpx | rfl)
        · have hyp : y ∈ t.preorder p :=
            (mem_preorder hwf).mpr (.inr ⟨y, mem_children_of_parent? hwf hy, mem_preorder_self hwf y⟩)
          exact mem_preorder_trans hwf hpx hyp
        · exact mem_preorder_self hwf _

theorem head_track (hroot : t.Rooted) {x : NodeId} (hx : t.contains x) :
    (t.track x).head? = some t.root := by
  induction x using induction_parent hwf with
  | _ x ih =>
    cases hpx : t.parent? x with
    | none => rw [track_of_parent?_eq_none hpx, hroot x hx hpx, List.head?_singleton]
    | some p =>
      have hne : t.track p ≠ [] := by simp [track]
      rw [track_of_parent? hwf hpa hpx, List.head?_append_of_ne_nil _ hne]
      exact ih p hpx (contains_of_parent? hwf hpx)

end Track

theorem wellFormed_of_loaded
    (ht : (∃ loader text, t = Tree.ofText loader text) ∨
      ∃ (b : Builder) (d : Disk) (cwd : List String) (path : String), b.build d cwd path = .ok t) :
    t.WellFormed ∧ ParentsAbove t.dirs t.files ∧ t.Rooted := by
  rcases ht with ⟨loader, text, rfl⟩ | ⟨b, d, cwd, path, hbuild⟩
  · exact ⟨ofText_wellFormed loader text, ofText_parentsAbove loader text, ofText_rooted loader text⟩
  · exact ⟨Builder.build_wellFormed hbuild, Builder.build_parentsAbove hbuild,
      Builder.build_rooted hbuild⟩

/-- The nodes below a node come in pre-order, each once, and a node is below another exactly when
the other is on its track, which starts at the root. -/
theorem descendants_preorder_track_from_root
    (ht : (∃ loader text, t = Tree.ofText loader text) ∨
      ∃ (b : Builder) (d : Disk) (cwd : List String) (path : String), b.build d cwd path = .ok t) :
    (∀ x, t.descendants x = x :: (t.children x).flatMap t.descendants) ∧
    (∀ x, (t.descendants x).Nodup) ∧
    (∀ x y, y ∈ t.descendants x ↔ x ∈ t.track y) ∧
    (∀ x, (t.track x).IsChain (fun a b => t.parent? b = some a) ∧
      (∀ r ∈ (t.track x).head?, t.parent? r = none) ∧ (t.track x).getLast? = some x) ∧
    (∀ x, t.contains x → (t.track x).head? = some t.root) := by
  obtain ⟨hwf, hpa, hroot⟩ := wellFormed_of_loaded ht
  have hdesc : t.descendants = t.preorder := funext (descendants_eq_preorder hwf)
  refine ⟨fun x => ?_, fun x => ?_, fun x y => ?_, fun x => ⟨?_, ?_, ?_⟩, fun x hx => ?_⟩
  · rw [hdesc]
    exact preorder_eq hwf x
  · rw [hdesc]
    exact preorder_nodup hwf x
  · rw [hdesc]
    exact mem_preorder_iff_mem_track hwf hpa
  · exact track_isChain hwf hpa x
  · exact parent?_head_track hwf hpa x
  · simp [track]
  · exact head_track hwf hpa hroot hx

def siblingsText : String := "class A:\n    def f(self):\n        pass\n    def g(self):\n        pass\n"

theorem descendants_fileRoot_siblings :
    (Tree.ofText {} siblingsText).descendants (.fileRoot 0) =
      .fileRoot 0 :: ((Tree.ofText {} siblingsText).children (.fileRoot 0)).flatMap
        (Tree.ofText {} siblingsText).descendants :=
  (descendants_preorder_track_from_root (.inl ⟨{}, siblingsText, rfl⟩)).1 _

end Tree

end Arbor
