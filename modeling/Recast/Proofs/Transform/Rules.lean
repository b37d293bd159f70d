import Mathlib.Data.List.Forall2
import Recast.Proofs.Transform.Resolve

/-!
# Rules that find the same

The value of a rule depends on what its sources find and on their operations. The path of the
instance is only told in errors.
-/

namespace Recast.Transform

open Json (Value)
open Schema (Rule Source)

variable {p p' : Place} {kind : Kind} {s s' : Source} {sources sources' : List Source}
variable {rule rule' : Rule}

/-- The sources find the same at two places, and the same operations are run on it. -/
def FindsSame (p p' : Place) (s s' : Source) : Prop :=
  find p s = find p' s' ∧ s.operations = s'.operations

theorem evaluate_congr (h : FindsSame p p' s s') (path : String) :
    evaluate p kind path s = evaluate p' kind path s' := by
  unfold evaluate
  rw [h.1, h.2]

theorem firstOf_congr (h : List.Forall₂ (FindsSame p p') sources sources') (path : String) :
    firstOf p kind path sources = firstOf p' kind path sources' := by
  induction h with
  | nil => rfl
  | cons hs _ ih =>
      unfold firstOf
      rw [evaluate_congr hs, ih]

theorem parts_congr (h : List.Forall₂ (FindsSame p p') sources sources') (path : String) :
    parts p kind path sources = parts p' kind path sources' := by
  induction h with
  | nil => rfl
  | cons hs _ ih =>
      unfold parts
      rw [evaluate_congr hs, ih]

/-- Rules that combine sources in the same way have the same value where these find the same. -/
theorem applyRule_congr (hm : rule.method = rule'.method) (hd : rule.delimiter = rule'.delimiter)
    (h : List.Forall₂ (FindsSame p p') rule.sources rule'.sources) (path : String) :
    applyRule p kind path rule = applyRule p' kind path rule' := by
  unfold applyRule
  rw [hm, hd]
  cases rule'.method with
  | first => exact firstOf_congr h path
  | last => exact firstOf_congr (List.forall₂_reverse_iff.mpr h) path
  | concatenate =>
      dsimp only
      rw [parts_congr h]

/-! ## Paths in errors -/

theorem runAll_kind (path path' : String) (operations : List Operation) (v : Value) :
    (runAll path operations v).mapError Error.kind =
      (runAll path' operations v).mapError Error.kind := by
  induction operations generalizing v with
  | nil => rfl
  | cons operation rest ih =>
      unfold runAll
      split
      · rfl
      · rfl
      · exact ih _

theorem evaluate_kind (path path' : String) (s : Source) :
    (evaluate p kind path s).mapError Error.kind =
      (evaluate p kind path' s).mapError Error.kind := by
  unfold evaluate
  rw [mapError_bind, mapError_bind]
  congr 1
  funext found
  cases found with
  | none => rfl
  | some found =>
      dsimp only
      split
      · rfl
      · exact runAll_kind path path' _ _

theorem firstOf_kind (path path' : String) (sources : List Source) :
    (firstOf p kind path sources).mapError Error.kind =
      (firstOf p kind path' sources).mapError Error.kind := by
  induction sources with
  | nil => rfl
  | cons s rest ih =>
      unfold firstOf
      rw [mapError_bind, mapError_bind, evaluate_kind path path' s]
      congr 1
      funext found
      cases found with
      | none => exact ih
      | some found => rfl

theorem parts_kind (path path' : String) (sources : List Source) :
    (parts p kind path sources).mapError Error.kind =
      (parts p kind path' sources).mapError Error.kind := by
  induction sources with
  | nil => rfl
  | cons s rest ih =>
      unfold parts
      rw [mapError_bind, mapError_bind, evaluate_kind path path' s]
      congr 1
      funext found
      split
      · exact ih
      · exact ih
      · rw [mapError_bind, mapError_bind, ih]
      · rfl

/-- The kind of an error does not depend on the path that the error tells. -/
theorem applyRule_kind (path path' : String) (rule : Rule) :
    (applyRule p kind path rule).mapError Error.kind =
      (applyRule p kind path' rule).mapError Error.kind := by
  unfold applyRule
  cases rule.method with
  | first => exact firstOf_kind path path' _
  | last => exact firstOf_kind path path' _
  | concatenate =>
      dsimp only
      rw [mapError_bind, mapError_bind, parts_kind path path']

end Recast.Transform
