import Recast.Proofs.Input.Below
import Recast.Proofs.NodePath.Overflow
import Recast.Proofs.Path.Trail

/-!
# Lookups that break off

A lookup in a value comes to an end. In markup it breaks off where the path counts to the last index
of all, so that the steps to properties always find something or nothing.
-/

namespace Recast.Input.Context

variable {path : Path} {source : String} {seed : Finding} {document : Document}
  {fault : LookupFault}

theorem readPath_eq_ok_iff : readPath source = .ok path ↔ Path.parse source = .ok path :=
  mapError_eq_ok

theorem inMarkup_eq_error {select : NodePath → List Markup.Node}
    {mapped : Except NodePath.Unmapped NodePath} (h : inMarkup select mapped = .error fault) :
    fault = .overflow ∧ mapped = .error .overflow := by
  unfold inMarkup at h
  split at h <;> cases h
  exact ⟨rfl, rfl⟩

/-- A lookup in an element breaks off only in nodes, and only along a path that counts too far. -/
theorem inSeed_eq_error (h : inSeed path seed = .error fault) :
    fault = .overflow ∧ (∃ ns, seed = .nodes ns) ∧ ∃ i ∈ path.indices, Nat.pow 2 64 ≤ i + 1 := by
  cases seed with
  | json v => cases h
  | nodes ns =>
      obtain ⟨rfl, hmapped⟩ := inMarkup_eq_error h
      exact ⟨rfl, ⟨ns, rfl⟩, NodePath.exists_index_of_overflow hmapped⟩

theorem inDocument_eq_error (h : inDocument path document = .error fault) :
    fault = .overflow ∧ (∃ root, document = .markup root) ∧
      ∃ i ∈ path.indices, Nat.pow 2 64 ≤ i + 1 := by
  cases document with
  | json v => cases h
  | markup root =>
      obtain ⟨rfl, hmapped⟩ := inMarkup_eq_error h
      exact ⟨rfl, ⟨root, rfl⟩, NodePath.exists_index_of_overflow hmapped⟩

/-! ## Steps to properties -/

theorem indices_members (names : List String) :
    Path.indices ⟨.document, Path.members names⟩ = [] := by
  simp [Path.indices, Path.members, List.filterMap_map, Path.Selector.index?]

/-- Where only an index breaks a lookup off, steps to properties find something or nothing. -/
theorem members_ok {names : List String} {x : Except LookupFault (Option Finding)}
    (h : ∀ fault, x = .error fault →
      ∃ i ∈ Path.indices ⟨.document, Path.members names⟩, Nat.pow 2 64 ≤ i + 1) :
    ∃ found, x = .ok found := by
  cases x with
  | ok found => exact ⟨found, rfl⟩
  | error fault =>
      obtain ⟨i, hi, _⟩ := h fault rfl
      rw [indices_members] at hi
      cases hi

theorem inSeed_members_ok (names : List String) (seed : Finding) :
    ∃ found, inSeed ⟨.document, Path.members names⟩ seed = .ok found :=
  members_ok fun _ h => (inSeed_eq_error h).2.2

theorem inDocument_members_ok (names : List String) (document : Document) :
    ∃ found, inDocument ⟨.document, Path.members names⟩ document = .ok found :=
  members_ok fun _ h => (inDocument_eq_error h).2.2

end Recast.Input.Context
