import Mathlib.Data.List.Induction
import Mathlib.Data.Prod.Lex
import Mathlib.Data.String.Basic
import Recast.Validation.Errors

/-!
# Collections of violations

Violations are ordered by their places and messages. However they are collected, one by one or all at
once, the collection is the same: the one in order.
-/

namespace Recast.Validation

variable {α : Type} {p : α → Bool} {items before after : List α} {base size k : Nat}
variable {a b c v : Violation} {vs ws : List Violation}

/-! ## The order -/

namespace Violation

/-- What violations are ordered by: the place in the document, then the place in the schema, then the
message. -/
def key (v : Violation) : String ×ₗ String ×ₗ String :=
  toLex (v.instancePath, toLex (v.schemaPath, v.message))

theorem key_injective : Function.Injective key := by
  rintro ⟨_, _, _⟩ ⟨_, _, _⟩ h
  cases h
  rfl

theorem le_iff : a.le b = true ↔ a.key ≤ b.key := by
  simp only [key, Prod.Lex.toLex_le_toLex]
  unfold le
  by_cases hinstance : a.instancePath = b.instancePath
  · by_cases hschema : a.schemaPath = b.schemaPath
    · simp [hinstance, hschema]
    · simp [hinstance, hschema]
  · simp [hinstance]

end Violation

namespace Violations

/-- A collection is in order. -/
def InOrder (vs : List Violation) : Prop := vs.Pairwise fun a b => a.key ≤ b.key

/-- Two collections in order that have the same violations are the same. -/
theorem InOrder.eq_of_perm (hv : InOrder vs) (hw : InOrder ws) (h : vs.Perm ws) : vs = ws :=
  h.eq_of_pairwise (fun _ _ _ _ hab hba => Violation.key_injective (le_antisymm hab hba)) hv hw

/-! ## Searching -/

/-- The boundary stays in the range that is searched. -/
theorem boundaryFrom_eq (hp : ∀ i, items[i]?.any p = decide (i < k)) (hbase : base ≤ k)
    (hk : k ≤ base + size) : boundaryFrom p items base size = k := by
  fun_induction boundaryFrom p items base size with
  | case1 base size hsize hfound =>
      have hlt : base < k := by simpa [hp] using hfound
      omega
  | case2 base size hsize hmissed =>
      have hle : k ≤ base := by simpa [hp] using hmissed
      omega
  | case3 base size hsize half ih =>
      rw [hp] at ih ⊢
      simp only [dite_eq_ite] at ih
      by_cases hmid : base + half < k
      · rw [decide_eq_true hmid, if_pos rfl] at ih ⊢
        exact ih (by omega) (by omega)
      · rw [decide_eq_false hmid, if_neg Bool.false_ne_true] at ih ⊢
        exact ih hbase (by omega)

theorem boundary_append (hbefore : ∀ x ∈ before, p x = true) (hafter : ∀ x ∈ after, p x = false) :
    boundary p (before ++ after) = before.length := by
  refine boundaryFrom_eq (fun i => ?_) (Nat.zero_le _) (by simp)
  by_cases hi : i < before.length
  · rw [List.getElem?_append_left hi, List.getElem?_eq_getElem hi]
    simpa [hi] using hbefore _ (List.getElem_mem hi)
  · rw [List.getElem?_append_right (by omega)]
    cases hx : after[i - before.length]? with
    | none => simp [hi]
    | some x => simpa [hi] using hafter x (List.mem_of_getElem? hx)

/-! ## Adding -/

theorem insertIdx_length (before after : List α) (x : α) :
    (before ++ after).insertIdx before.length x = before ++ x :: after := by
  induction before with
  | nil => rw [List.nil_append, List.length_nil, List.insertIdx_zero, List.nil_append]
  | cons y before ih =>
      rw [List.cons_append, List.length_cons, List.insertIdx_succ_cons, ih, List.cons_append]

/-- A collection in order is cut by a violation into those that are not greater and those that are. -/
theorem InOrder.cut (h : InOrder vs) (v : Violation) :
    ∃ smaller greater, vs = smaller ++ greater ∧ (∀ w ∈ smaller, w.key ≤ v.key) ∧
      ∀ w ∈ greater, v.key < w.key := by
  induction h with
  | nil => exact ⟨[], [], rfl, by simp, by simp⟩
  | @cons w ws hw _ ih =>
      by_cases hle : w.key ≤ v.key
      · obtain ⟨smaller, greater, rfl, hsmaller, hgreater⟩ := ih
        exact ⟨w :: smaller, greater, rfl, List.forall_mem_cons.mpr ⟨hle, hsmaller⟩, hgreater⟩
      · have hlt : v.key < w.key := lt_of_not_ge hle
        refine ⟨[], w :: ws, rfl, by simp, List.forall_mem_cons.mpr ⟨hlt, fun x hx => ?_⟩⟩
        exact hlt.trans_le (hw x hx)

theorem InOrder.add_eq (h : InOrder vs) (v : Violation) :
    ∃ smaller greater, vs = smaller ++ greater ∧ (∀ w ∈ smaller, w.key ≤ v.key) ∧
      (∀ w ∈ greater, v.key < w.key) ∧ add v vs = smaller ++ v :: greater := by
  obtain ⟨smaller, greater, rfl, hsmaller, hgreater⟩ := h.cut v
  refine ⟨smaller, greater, rfl, hsmaller, hgreater, ?_⟩
  have hboundary : boundary (·.le v) (smaller ++ greater) = smaller.length := by
    refine boundary_append (fun w hw => Violation.le_iff.mpr (hsmaller w hw)) fun w hw => ?_
    exact Bool.eq_false_iff.mpr fun hle => (Violation.le_iff.mp hle).not_gt (hgreater w hw)
  rw [add, hboundary, insertIdx_length]

theorem InOrder.add (h : InOrder vs) (v : Violation) : InOrder (add v vs) := by
  obtain ⟨smaller, greater, rfl, hsmaller, hgreater, heq⟩ := h.add_eq v
  rw [heq]
  obtain ⟨hs, hg, hsg⟩ := List.pairwise_append.mp h
  refine List.pairwise_append.mpr ⟨hs, List.pairwise_cons.mpr ⟨fun w hw => ?_, hg⟩, ?_⟩
  · exact (hgreater w hw).le
  · exact fun w hw => List.forall_mem_cons.mpr ⟨hsmaller w hw, hsg w hw⟩

theorem InOrder.perm_add (h : InOrder vs) (v : Violation) : (Violations.add v vs).Perm (v :: vs) := by
  obtain ⟨smaller, greater, rfl, _, _, heq⟩ := h.add_eq v
  rw [heq]
  exact List.perm_middle

/-! ## Collecting -/

/-- The violations added one by one. -/
def addAll (vs : List Violation) : List Violation := vs.foldl (fun collected v => add v collected) []

theorem addAll_concat (vs : List Violation) (v : Violation) :
    addAll (vs ++ [v]) = add v (addAll vs) := by
  simp [addAll]

theorem inOrder_addAll (vs : List Violation) : InOrder (addAll vs) := by
  induction vs using List.reverseRecOn with
  | nil => exact .nil
  | append_singleton vs v ih =>
      rw [addAll_concat]
      exact ih.add v

theorem perm_addAll (vs : List Violation) : (addAll vs).Perm vs := by
  induction vs using List.reverseRecOn with
  | nil => exact .nil
  | append_singleton vs v ih =>
      rw [addAll_concat]
      exact ((inOrder_addAll vs).perm_add v).trans
        ((ih.cons v).trans (List.perm_append_singleton v vs).symm)

theorem inOrder_ofList (vs : List Violation) : InOrder (ofList vs) := by
  have htrans (a b c : Violation) (hab : a.le b) (hbc : b.le c) : a.le c :=
    Violation.le_iff.mpr ((Violation.le_iff.mp hab).trans (Violation.le_iff.mp hbc))
  have htotal (a b : Violation) : a.le b || b.le a := by
    simpa [Violation.le_iff] using le_total a.key b.key
  exact (List.pairwise_mergeSort htrans htotal vs).imp Violation.le_iff.mp

/-- Violations that are added one by one, in whatever order, are in order after every step, are those
that were added, and make the collection that is made of them at once. -/
theorem addAll_eq_ofList {items order : List Violation} (h : order.Perm items) :
    (∀ n, InOrder (addAll (order.take n)) ∧ (addAll (order.take n)).Perm (order.take n)) ∧
      (addAll order).Perm items ∧
      ∀ again : List Violation, again.Perm items → ofList again = addAll order := by
  have hperm : (addAll order).Perm items := (perm_addAll order).trans h
  refine ⟨fun n => ⟨inOrder_addAll _, perm_addAll _⟩, hperm, fun again hagain => ?_⟩
  have hsame : (ofList again).Perm (addAll order) :=
    (List.mergeSort_perm again _).trans (hagain.trans hperm.symm)
  exact (inOrder_ofList again).eq_of_perm (inOrder_addAll order) hsame

theorem addAll_eq_ofList_partlyEqual :
    [⟨"/b", "", "x"⟩, ⟨"/a", "/t", "x"⟩, ⟨"/b", "", "x"⟩, ⟨"/a", "/s", "y"⟩].Perm
        [⟨"/a", "/s", "y"⟩, ⟨"/a", "/t", "x"⟩, ⟨"/b", "", "x"⟩, (⟨"/b", "", "x"⟩ : Violation)] ∧
      addAll [⟨"/b", "", "x"⟩, ⟨"/a", "/t", "x"⟩, ⟨"/b", "", "x"⟩, ⟨"/a", "/s", "y"⟩] =
        ofList [⟨"/b", "", "x"⟩, ⟨"/a", "/s", "y"⟩, ⟨"/b", "", "x"⟩, ⟨"/a", "/t", "x"⟩] ∧
      addAll [⟨"/b", "", "x"⟩, ⟨"/a", "/t", "x"⟩, ⟨"/b", "", "x"⟩, ⟨"/a", "/s", "y"⟩] =
        [⟨"/a", "/s", "y"⟩, ⟨"/a", "/t", "x"⟩, ⟨"/b", "", "x"⟩, ⟨"/b", "", "x"⟩] := by
  have hperm : [⟨"/b", "", "x"⟩, ⟨"/a", "/t", "x"⟩, ⟨"/b", "", "x"⟩, ⟨"/a", "/s", "y"⟩].Perm
      [⟨"/a", "/s", "y"⟩, ⟨"/a", "/t", "x"⟩, ⟨"/b", "", "x"⟩, (⟨"/b", "", "x"⟩ : Violation)] := by
    decide
  exact ⟨hperm, ((addAll_eq_ofList hperm).2.2 _ (by decide)).symm, by decide +kernel⟩

end Violations

end Recast.Validation
