import Arbor.Tree.Resolve
/-!
A leading dot climbs one level.
-/

namespace Arbor

namespace TreeError

/-- The error with the whole path it records replaced; only a failed lookup records one. -/
def withTarget (target : String) : TreeError → TreeError
  | .notFound _ segment parent suggestion => .notFound target segment parent suggestion
  | err => err

end TreeError

namespace Tree

variable {t : Tree}

theorem splitWhere_ne_nil (sep : Char → Bool) : ∀ cs : List Char, splitWhere sep cs ≠ []
  | [] => by simp [splitWhere]
  | c :: cs => by
    unfold splitWhere
    split
    · simp
    · split <;> simp

theorem resolveSegments_withTarget (e e' : String) (segs : Array String) (dotted : Array Bool) :
    ∀ fuel cur idx, t.resolveSegments e' segs dotted fuel cur idx =
      (t.resolveSegments e segs dotted fuel cur idx).mapError (TreeError.withTarget e') := by
  intro fuel
  induction fuel with
  | zero => intro cur idx; rfl
  | succ fuel ih =>
    intro cur idx
    -- both readings take the same branch; each either goes on by the hypothesis or stops
    simp only [resolveSegments]
    split
    · split
      · split
        · rfl
        · split
          · exact ih _ _
          · rfl
      · split
        · exact ih _ _
        · split
          · exact ih _ _
          · split
            · exact ih _ _
            · rfl
    · rfl

theorem lastOfRun_cons (s : String) (b : Bool) (segs : List String) (dotted : List Bool) :
    ∀ fuel i, findDottedChild?.lastOfRun (s :: segs).toArray (b :: dotted).toArray fuel (i + 1) =
      findDottedChild?.lastOfRun segs.toArray dotted.toArray fuel i + 1
  | 0, _ => rfl
  | fuel + 1, i => by
    simp only [findDottedChild?.lastOfRun, Array.getD_eq_getD_getElem?, List.getElem?_toArray,
      List.getElem?_cons_succ]
    split <;> simp [lastOfRun_cons s b segs dotted fuel (i + 1)]

theorem lastOfRun_succ (segs : Array String) (dotted : Array Bool) :
    ∀ fuel i, dotted.size ≤ fuel + i →
      findDottedChild?.lastOfRun segs dotted (fuel + 1) i =
        findDottedChild?.lastOfRun segs dotted fuel i
  | 0, i, hi => by
    have hout : dotted.getD i false = false := by
      simp [Array.getD_eq_getD_getElem?, Array.getElem?_eq_none (by omega : dotted.size ≤ i)]
    simp [findDottedChild?.lastOfRun, hout]
  | fuel + 1, i, hi => by
    conv => lhs; rw [findDottedChild?.lastOfRun]
    conv => rhs; rw [findDottedChild?.lastOfRun]
    by_cases hc : (dotted.getD i false && !(segs.getD (i + 1) "").isEmpty) = true
    · rw [if_pos hc, if_pos hc]
      exact lastOfRun_succ segs dotted fuel (i + 1) (by omega)
    · rw [if_neg hc, if_neg hc]

theorem extract_cons_succ (s : String) (segs : List String) (i j : Nat) :
    ((s :: segs).toArray.extract (i + 1) (j + 1)).toList = (segs.toArray.extract i j).toList := by
  simp [List.extract_eq_take_drop]

theorem findDottedChild?_cons (id : NodeId) (segs : List String) (dotted : List Bool)
    (first : Nat) :
    t.findDottedChild? id ("" :: segs).toArray (true :: dotted).toArray (first + 1) =
      (t.findDottedChild? id segs.toArray dotted.toArray first).map fun (c, l) => (c, l + 1) := by
  have hlast : findDottedChild?.lastOfRun ("" :: segs).toArray (true :: dotted).toArray
      (true :: dotted).toArray.size (first + 1) =
      findDottedChild?.lastOfRun segs.toArray dotted.toArray dotted.toArray.size first + 1 := by
    rw [lastOfRun_cons, List.size_toArray, List.length_cons, List.size_toArray,
      lastOfRun_succ _ _ _ _ (by simp)]
  unfold findDottedChild?
  simp only [hlast, Nat.add_sub_add_right, List.findSome?_map, List.map_findSome?]
  congr 1
  funext k
  simp only [Function.comp_apply, Option.map_map]
  rw [extract_cons_succ, Nat.add_right_comm (first + 1) 1 k]
  congr 1

theorem resolveSegments_cons (expr : String) (segs : List String) (dotted : List Bool) :
    ∀ fuel cur idx, t.resolveSegments expr ("" :: segs).toArray (true :: dotted).toArray fuel cur
      (idx + 1) = t.resolveSegments expr segs.toArray dotted.toArray fuel cur idx := by
  intro fuel
  induction fuel with
  | zero => intro cur idx; rfl
  | succ fuel ih =>
    intro cur idx
    simp only [resolveSegments, List.size_toArray, List.length_cons, Nat.add_lt_add_iff_right,
      List.getElem_toArray, List.getElem_cons_succ, Nat.add_right_cancel_iff,
      findDottedChild?_cons]
    -- index `idx + 1` of the longer arrays reads what index `idx` of the shorter ones does, so
    -- each branch takes both sides one step alike
    by_cases hlt : idx < segs.length
    · simp only [hlt, dite_true]
      by_cases hemp : segs[idx].isEmpty = true
      · simp only [hemp, if_true]
        split
        · rfl
        · cases t.parent? cur with
          | some p => exact ih p (idx + 1)
          | none => rfl
      · simp only [hemp, Bool.false_eq_true, if_false]
        rcases t.findDottedChild? cur segs.toArray dotted.toArray idx with _ | ⟨child, last⟩
        · simp only [Option.map_none]
          rcases t.findChild? cur (dropCallParens segs[idx]) with _ | c
          · simp only
            split
            · exact ih cur (idx + 1)
            · rfl
          · exact ih c (idx + 1)
        · exact ih child (last + 1)
    · simp only [hlt, dite_false]

/-- Reading `"." ++ e` from a node that has a parent reads `e` from the parent: the same node,
or the same failure, naming the same missing name, the same node searched and the same
suggestion, with only the whole path it records changed. -/
theorem resolveFrom_dot_append {n p : NodeId} (hp : t.parent? n = some p) (e : String) :
    t.resolveFrom n ("." ++ e) = (t.resolveFrom p e).mapError (TreeError.withTarget ("." ++ e)) := by
  unfold resolveFrom
  -- the dot is an empty name in front of the names of `e` and a dot mark in front of its marks
  have hdot : ".".toList = ['.'] := rfl
  simp only [String.toList_append, hdot, List.cons_append, List.nil_append, List.map_cons,
    List.filter_cons, show (('.' == '\\') = true) = False by decide, if_false, beq_self_eq_true,
    Bool.true_or, if_true, splitWhere, String.ofList_nil]
  have hlen : 0 < ((splitWhere (fun c => c == '.' || c == '/')
      (e.toList.map fun c => if (c == '\\') = true then '/' else c)).map String.ofList).length := by
    simp [List.length_pos_iff, splitWhere_ne_nil]
  generalize (splitWhere (fun c => c == '.' || c == '/')
    (e.toList.map fun c => if (c == '\\') = true then '/' else c)).map String.ofList = segs at hlen ⊢
  generalize ((e.toList.map fun c => if (c == '\\') = true then '/' else c).filter
    fun c => c == '.' || c == '/').map (· == '.') = dotted
  -- the empty name in front climbs to the parent, and the rest is read from there
  have hclimb : ¬(0 + 1 = ("" :: segs).toArray.size) := by
    rw [List.size_toArray, List.length_cons]
    omega
  have hempty : "".isEmpty = true := rfl
  rw [List.length_cons, resolveSegments, dif_pos (by simp)]
  simp only [List.getElem_toArray, List.getElem_cons_zero, hempty, if_true, hclimb, if_false, hp]
  rw [resolveSegments_cons, resolveSegments_withTarget e]

/-- In a class of two methods, `.f` read from the second method is `f` read from the class. -/
theorem resolveFrom_dot_append_sibling :
    (Tree.ofText {} "class A:\n    def f(): pass\n    def g(): pass\n").parent? (.unit 0 3) =
        some (.unit 0 1) ∧
      (Tree.ofText {} "class A:\n    def f(): pass\n    def g(): pass\n").resolveFrom (.unit 0 3)
          ("." ++ "f") =
        ((Tree.ofText {} "class A:\n    def f(): pass\n    def g(): pass\n").resolveFrom
          (.unit 0 1) "f").mapError (TreeError.withTarget ("." ++ "f")) :=
  ⟨by decide +kernel, resolveFrom_dot_append (by decide +kernel) "f"⟩

end Tree

end Arbor
