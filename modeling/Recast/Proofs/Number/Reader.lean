import Recast.Number.Reader
import Recast.Proofs.Text.Digits

/-!
# Integers read from their own texts

An integer that fits into 64 bits with a sign is read from its text as itself. As a fraction, the
text of a natural number is read as the nearest double.
-/

namespace Recast.Numeral

open Text (isDigit natural? Tight)

variable {s : List Char} {i : Int} {n : Nat}

/-! ## The text of an integer -/

theorem toList_toString_natCast (n : Nat) :
    (toString (n : Int)).toList = (toString n).toList := rfl

theorem toList_toString_neg (hn : 0 < n) :
    (toString (-(n : Int))).toList = '-' :: (toString n).toList := by
  have hneg : ¬ (0 : Int) ≤ -n := by omega
  rw [Int.toString_eq_repr, Int.repr_eq_if, if_neg hneg, Int.neg_neg, Int.toNat_natCast,
    String.toList_append]
  rfl

theorem tight_toString (i : Int) : Tight (toString i).toList := by
  have hnatural (n : Nat) : Tight (toString n).toList :=
    Text.tight_of_digits fun c hc => Text.isDigit_of_mem_toString hc
  rcases Int.lt_or_le i 0 with hi | hi
  · obtain ⟨n, rfl⟩ : ∃ n : Nat, i = -(n : Int) := ⟨i.natAbs, by omega⟩
    rw [toList_toString_neg (by omega)]
    exact Tight.append_ends (a := ['-']) (by constructor <;> simp <;> decide)
      (List.cons_ne_nil _ _) (hnatural n).last
  · obtain ⟨n, rfl⟩ := Int.eq_ofNat_of_zero_le hi
    rw [toList_toString_natCast]
    exact hnatural n

/-! ## Reading it -/

/-- Digits have no sign in front. -/
theorem sign_of_digits (h : ∀ c ∈ s, isDigit c = true) : sign s = (false, s) := by
  unfold sign
  split
  · exact absurd (h '-' (by simp)) (by decide)
  · exact absurd (h '+' (by simp)) (by decide)
  · rfl

theorem sign_toString (n : Nat) : sign (toString n).toList = (false, (toString n).toList) :=
  sign_of_digits fun _ hc => Text.isDigit_of_mem_toString hc

/-- What is read from digits behind a sign: the number, if it is in bounds. -/
theorem signed?_of_sign {t : List Char} {negative : Bool} (hs : sign s = (negative, t))
    (ht : natural? t = some n) (hi : i = if negative then -(n : Int) else n) :
    signed? s = if -Nat.pow 2 63 ≤ i ∧ i < Nat.pow 2 63 then some i else none := by
  rw [signed?, hs]
  dsimp only
  rw [ht]
  subst hi
  simp only [Bool.and_eq_true, decide_eq_true_eq]

theorem signed?_natCast (n : Nat) :
    signed? (toString n).toList = if n < Nat.pow 2 63 then some (n : Int) else none := by
  rw [signed?_of_sign (sign_toString n) (Text.natural?_toString n) rfl]
  have hbounds : -Nat.pow 2 63 ≤ (n : Int) ∧ (n : Int) < Nat.pow 2 63 ↔ n < Nat.pow 2 63 := by omega
  simp only [Bool.false_eq_true, if_false, hbounds]

/-- Every integer of 64 bits with a sign is read from its text. -/
theorem signed?_toString (hl : -Nat.pow 2 63 ≤ i) (hu : i < Nat.pow 2 63) :
    signed? (toString i).toList = some i := by
  rcases Int.lt_or_le i 0 with hi | hi
  · obtain ⟨n, rfl⟩ : ∃ n : Nat, i = -(n : Int) := ⟨i.natAbs, by omega⟩
    have hsign : sign ('-' :: (toString n).toList) = (true, (toString n).toList) := rfl
    rw [toList_toString_neg (by omega), signed?_of_sign hsign (Text.natural?_toString n) rfl]
    exact if_pos ⟨hl, hu⟩
  · obtain ⟨n, rfl⟩ := Int.eq_ofNat_of_zero_le hi
    rw [toList_toString_natCast, signed?_natCast, if_pos (by omega)]

theorem ofDecimal?_zero (hn : 0 < n) : Double.ofDecimal? false n 0 = Double.ofInt? n := by
  have hne : ¬ (n == 0) = true := by simpa using Nat.ne_of_gt hn
  have hsign : decide ((n : Int) < 0) = false := by simp
  have hdigits : n * Nat.pow 10 (0 : Int).toNat = n := Nat.mul_one n
  rw [Double.ofDecimal?, Double.ofInt?, hsign, Int.natAbs_natCast, if_neg hne, if_neg (by decide),
    if_neg (by omega), if_pos (by decide), hdigits]

/-- Digits alone are a fraction without a point and an exponent. -/
theorem double?_toString (hn : 0 < n) : double? (toString n).toList = Double.ofInt? n := by
  have hdigits : ∀ c ∈ (toString n).toList, isDigit c = true := fun _ hc =>
    Text.isDigit_of_mem_toString hc
  obtain ⟨htake, hdrop⟩ := (Text.span_eq_iff (s := (toString n).toList) (b := [])).mpr
    ⟨(List.append_nil _).symm, hdigits, .nil⟩
  rw [← ofDecimal?_zero hn]
  simp only [double?, sign_toString, htake, hdrop, List.append_nil, List.isEmpty_iff,
    Text.toString_ne_nil, Text.digitsValue_toString, List.length_nil, if_false,
    Int.natCast_zero, Int.sub_zero]

end Recast.Numeral
