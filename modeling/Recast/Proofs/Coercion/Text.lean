import Recast.Coercion
import Recast.Proofs.Number.Reader
import Recast.Proofs.Number.Rounding

/-!
# Scalars by way of texts

A boolean comes back from its text, and so does an integer of 64 bits with a sign. A greater integer
is read as a fraction, so that the nearest double comes back.
-/

namespace Recast.Coercion

open Json (Number Value)

variable {i : Int}

theorem boolean?_text (b : Bool) : boolean? (.string (if b then "true" else "false")) = some b := by
  cases b <;> rfl

theorem number?_toString_of_lt (hl : -Nat.pow 2 63 ≤ i) (hu : i < Nat.pow 2 63) :
    number? (.string (toString i)) = some (.integer i) := by
  rw [number?, (Numeral.tight_toString i).trim_eq, Numeral.signed?_toString hl hu]

theorem number?_toString_of_le (hl : Nat.pow 2 63 ≤ i) (hu : i < Nat.pow 2 64) :
    number? (.string (toString i)) = some (.double (Double.ofInt i)) := by
  obtain ⟨n, rfl⟩ := Int.eq_ofNat_of_zero_le (Int.le_trans (by decide) hl)
  have hn : Nat.pow 2 63 ≤ n := Int.ofNat_le.mp hl
  have hpos : 0 < n := Nat.lt_of_lt_of_le (by decide) hn
  have hdouble := (Double.ofInt?_eq_some (i := n) (Int.ofNat_lt.mp hu)).1
  rw [number?, (Numeral.tight_toString n).trim_eq, Numeral.toList_toString_natCast,
    Numeral.signed?_natCast, if_neg (Nat.not_lt.mpr hn)]
  dsimp only
  rw [Numeral.double?_toString hpos, hdouble]
  rfl

theorem boolean_by_way_of_text (b : Bool) :
    (Scalar.string.coerce? (.bool b)).bind Scalar.boolean.coerce? =
      (boolean? (.string (if b then "true" else "false"))).map .bool := by
  simp only [Scalar.coerce?, text?, Option.map_some, Option.bind_some]

theorem number_by_way_of_text (i : Int) :
    (Scalar.string.coerce? (.number (.integer i))).bind Scalar.number.coerce? =
      (number? (.string (toString i))).map .number := by
  simp only [Scalar.coerce?, text?, Number.text, Option.map_some, Option.bind_some]

/-- By way of a text, every boolean is coerced to itself, and an integer of 64 bits exactly if it
fits with a sign. Every other one becomes the nearest double. -/
theorem coerce?_by_way_of_text (b : Bool) (hl : Number.minInteger ≤ i)
    (hu : i ≤ Number.maxInteger) :
    (Scalar.string.coerce? (.bool b)).bind Scalar.boolean.coerce? = some (.bool b) ∧
      (Scalar.string.coerce? (.number (.integer i))).isSome = true ∧
      ((Scalar.string.coerce? (.number (.integer i))).bind Scalar.number.coerce? =
        some (.number (.integer i)) ↔ i < Nat.pow 2 63) ∧
      (Nat.pow 2 63 ≤ i →
        (Scalar.string.coerce? (.number (.integer i))).bind Scalar.number.coerce? =
          some (.number (.double (Double.ofInt i)))) := by
  refine ⟨?_, rfl, ?_⟩
  · rw [boolean_by_way_of_text, boolean?_text]
    rfl
  · rw [number_by_way_of_text]
    rcases Int.lt_or_le i (Nat.pow 2 63) with hi | hi
    · rw [number?_toString_of_lt hl hi]
      exact ⟨iff_of_true rfl hi, fun hge => absurd hi (Int.not_lt.mpr hge)⟩
    · rw [number?_toString_of_le hi (Int.lt_of_le_sub_one hu)]
      refine ⟨iff_of_false ?_ (Int.not_lt.mpr hi), fun _ => rfl⟩
      intro h
      cases h

theorem coerce?_by_way_of_text_last :
    Number.minInteger ≤ 9223372036854775807 ∧ 9223372036854775807 ≤ Number.maxInteger ∧
      (Scalar.string.coerce? (.bool true)).bind Scalar.boolean.coerce? = some (.bool true) ∧
      (Scalar.string.coerce? (.number (.integer 9223372036854775807))).bind Scalar.number.coerce? =
        some (.number (.integer 9223372036854775807)) := by
  have hl : Number.minInteger ≤ 9223372036854775807 := by decide
  have hu : 9223372036854775807 ≤ Number.maxInteger := by decide
  obtain ⟨hbool, _, hnumber, _⟩ := coerce?_by_way_of_text true hl hu
  exact ⟨hl, hu, hbool, hnumber.mpr (by decide)⟩

/-- The greatest integer becomes a double. -/
theorem coerce?_by_way_of_text_greatest :
    ¬ (Scalar.string.coerce? (.number (.integer 18446744073709551615))).bind
        Scalar.number.coerce? = some (.number (.integer 18446744073709551615)) := by
  rw [number_by_way_of_text, number?_toString_of_le (by decide) (by decide)]
  intro h
  cases h

end Recast.Coercion
