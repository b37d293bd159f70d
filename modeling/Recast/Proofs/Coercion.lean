import Recast.Coercion

/-!
# Values of scalar kinds

What a coercion gives is a value of its kind, and a value of a kind other than moments is coerced to
itself.
-/

namespace Recast

open Json (Value)

/-- The value is one of the kind: an integer is a number that fits into 64 bits with a sign, and a
moment is written as a text. -/
def Scalar.Holds : Scalar → Value → Prop
  | .boolean, .bool _ => True
  | .number, .number _ => True
  | .integer, .number n => n.signed?.isSome = true
  | .string, .string _ | .moment, .string _ => True
  | _, _ => False

namespace Coercion

variable {k : Scalar} {v w : Value}

theorem signed?_integer {i : Int} (hl : -Nat.pow 2 63 ≤ i) (hu : i < Nat.pow 2 63) :
    (Json.Number.integer i).signed? = some i :=
  if_pos ((Bool.and_eq_true _ _).mpr ⟨decide_eq_true hl, decide_eq_true hu⟩)

theorem signed?_eq_some {n : Json.Number} {i : Int} (h : n.signed? = some i) :
    n = .integer i ∧ -Nat.pow 2 63 ≤ i ∧ i < Nat.pow 2 63 := by
  cases n with
  | double d => cases h
  | integer j =>
      simp only [Json.Number.signed?, Option.ite_none_right_eq_some, Bool.and_eq_true,
        Option.some.injEq] at h
      obtain ⟨⟨hl, hu⟩, rfl⟩ := h
      exact ⟨rfl, of_decide_eq_true hl, of_decide_eq_true hu⟩

theorem wholeDouble?_bounds {d : Double} {i : Int} (h : wholeDouble? d = some i) :
    -Nat.pow 2 63 ≤ i ∧ i < Nat.pow 2 63 := by
  simp only [wholeDouble?, Option.ite_none_right_eq_some, Bool.and_eq_true, Option.some.injEq] at h
  obtain ⟨⟨⟨_, hl⟩, hu⟩, rfl⟩ := h
  exact ⟨of_decide_eq_true hl, of_decide_eq_true hu⟩

theorem integer?_bounds {i : Int} (h : integer? v = some i) :
    -Nat.pow 2 63 ≤ i ∧ i < Nat.pow 2 63 := by
  simp only [integer?, Option.bind_eq_bind, Option.bind_eq_some_iff] at h
  obtain ⟨n, _, h⟩ := h
  cases hn : n.signed? with
  | some j =>
      rw [hn] at h
      cases h
      exact (signed?_eq_some hn).2
  | none =>
      rw [hn] at h
      exact wholeDouble?_bounds h

/-- What is coerced to a kind is a value of the kind. -/
theorem holds_of_coerce? (h : k.coerce? v = some w) : k.Holds w := by
  cases k <;> simp only [Scalar.coerce?, Option.map_eq_some_iff] at h <;> obtain ⟨a, ha, rfl⟩ := h
  case integer =>
    obtain ⟨hl, hu⟩ := integer?_bounds ha
    simp [Scalar.Holds, Value.ofInt, signed?_integer hl hu]
  all_goals trivial

theorem holds_of_finding {f : Input.Finding} (h : f.coerce? k = some w) : k.Holds w := by
  cases f with
  | json v => exact holds_of_coerce? h
  | nodes ns =>
      obtain ⟨s, _, h⟩ := Option.bind_eq_some_iff.mp h
      exact holds_of_coerce? h

/-- A value of a kind is coerced to itself, except for moments, which may be written anew. -/
theorem coerce?_of_holds (hk : k ≠ .moment) (h : k.Holds v) : k.coerce? v = some v := by
  cases k <;> cases v <;> first | rfl | contradiction | skip
  case integer.number n =>
    obtain ⟨i, hi⟩ := Option.isSome_iff_exists.mp h
    obtain ⟨rfl, _⟩ := signed?_eq_some hi
    simp [Scalar.coerce?, integer?, number?, hi, Value.ofInt]

theorem ne_null_of_holds (h : k.Holds v) : v ≠ .null := by
  rintro rfl
  cases k <;> cases h

end Coercion

end Recast
