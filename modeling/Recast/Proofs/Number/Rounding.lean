import Mathlib.Algebra.Order.Ring.Nat
import Mathlib.Data.Nat.Log
import Recast.Number.Double

/-!
# Rounding to doubles

A quotient of units is rounded to a multiple of the scale of its own leading bit. Greater quotients
never round to smaller doubles, and what is a multiple of its scale is kept as it is. So integers of
64 bits have a nearest double each, in their order, and those up to 2^53 have one of their own.
-/

namespace Recast.Double

variable {a b num den : Nat} {negative : Bool} {d e : Double} {i j : Int}

/-! ## Quotients -/

theorem le_roundHalfEven (num den : Nat) : num / den ≤ roundHalfEven num den := by
  unfold roundHalfEven
  dsimp only
  split
  · exact Nat.le_refl _
  · split
    · exact Nat.le_add_right _ _
    · exact Nat.le_succ _

theorem roundHalfEven_le (num den : Nat) : roundHalfEven num den ≤ num / den + 1 := by
  unfold roundHalfEven
  dsimp only
  split
  · exact Nat.le_succ _
  · split <;> omega

theorem roundHalfEven_mul (q : Nat) (hden : 0 < den) : roundHalfEven (q * den) den = q := by
  simp [roundHalfEven, Nat.mul_div_cancel q hden, hden]

/-- Within one quotient the remainders decide, between two of them the quotients. -/
theorem roundHalfEven_mono (h : a ≤ b) (den : Nat) : roundHalfEven a den ≤ roundHalfEven b den := by
  have hq : a / den ≤ b / den := Nat.div_le_div_right h
  rcases Nat.eq_or_lt_of_le hq with hq | hq
  · have hr : a % den ≤ b % den := by
      have ha := Nat.div_add_mod a den
      have hb := Nat.div_add_mod b den
      rw [hq] at ha
      omega
    unfold roundHalfEven
    simp only [hq, beq_iff_eq]
    split <;> split <;> (try split) <;> (try split) <;> omega
  · calc roundHalfEven a den ≤ a / den + 1 := roundHalfEven_le a den
      _ ≤ b / den := hq
      _ ≤ roundHalfEven b den := le_roundHalfEven b den

/-! ## Scales -/

/-- The scale that leaves a mantissa of 53 bits. -/
def scale (num den : Nat) : Nat := (num / den).log2 - 52

/-- The units of the double nearest to a quotient. -/
def roundedUnits (num den : Nat) : Nat :=
  roundHalfEven num (den <<< scale num den) <<< scale num den

theorem scale_mono (h : a ≤ b) (den : Nat) : scale a den ≤ scale b den := by
  have hlog : (a / den).log2 ≤ (b / den).log2 := by
    rw [Nat.log2_eq_log_two, Nat.log2_eq_log_two]
    exact Nat.log_mono_right (Nat.div_le_div_right h)
  exact Nat.sub_le_sub_right hlog 52

theorem div_shiftLeft (num den s : Nat) : num / (den <<< s) = num / den / 2 ^ s := by
  rw [Nat.shiftLeft_eq, Nat.div_div_eq_div_mul]

/-- The mantissa before rounding has 53 bits at most. -/
theorem div_scale_lt (num den : Nat) : num / (den <<< scale num den) < 2 ^ 53 := by
  rw [div_shiftLeft, Nat.div_lt_iff_lt_mul (Nat.two_pow_pos _), ← Nat.pow_add]
  calc num / den < 2 ^ ((num / den).log2 + 1) := Nat.lt_log2_self
    _ ≤ 2 ^ (53 + scale num den) := Nat.pow_le_pow_right (by decide) (by unfold scale; omega)

/-- Above the smallest scale it has 53 bits exactly. -/
theorem le_div_scale (h : 0 < scale num den) : 2 ^ 52 ≤ num / (den <<< scale num den) := by
  have hq : num / den ≠ 0 := by
    intro hq
    simp [scale, hq] at h
  rw [div_shiftLeft, Nat.le_div_iff_mul_le (Nat.two_pow_pos _), ← Nat.pow_add]
  calc 2 ^ (52 + scale num den) = 2 ^ (num / den).log2 := by congr 1; unfold scale at h ⊢; omega
    _ ≤ num / den := Nat.log2_self_le hq

theorem roundHalfEven_scale_le (num den : Nat) :
    roundHalfEven num (den <<< scale num den) ≤ 2 ^ 53 :=
  (roundHalfEven_le _ _).trans (div_scale_lt num den)

theorem roundedUnits_eq (num den : Nat) :
    roundedUnits num den =
      roundHalfEven num (den <<< scale num den) * 2 ^ scale num den :=
  Nat.shiftLeft_eq ..

/-- Where the scales differ, a power of two stands between the two doubles. -/
theorem roundedUnits_mono (h : a ≤ b) (den : Nat) : roundedUnits a den ≤ roundedUnits b den := by
  rw [roundedUnits_eq, roundedUnits_eq]
  rcases Nat.eq_or_lt_of_le (scale_mono h den) with hs | hs
  · rw [hs]
    exact Nat.mul_le_mul_right _ (roundHalfEven_mono h _)
  · calc roundHalfEven a (den <<< scale a den) * 2 ^ scale a den
        ≤ 2 ^ 53 * 2 ^ scale a den := Nat.mul_le_mul_right _ (roundHalfEven_scale_le a den)
      _ = 2 ^ 52 * 2 ^ (scale a den + 1) := by rw [Nat.pow_succ]; omega
      _ ≤ 2 ^ 52 * 2 ^ scale b den := Nat.mul_le_mul_left _ (Nat.pow_le_pow_right (by decide) hs)
      _ ≤ roundHalfEven b (den <<< scale b den) * 2 ^ scale b den :=
          Nat.mul_le_mul_right _ ((le_div_scale (by omega)).trans (le_roundHalfEven _ _))

theorem roundedUnits_of_dvd (h : 2 ^ scale num 1 ∣ num) : roundedUnits num 1 = num := by
  have hnum : num / 2 ^ scale num 1 * 2 ^ scale num 1 = num := Nat.div_mul_cancel h
  have hround := roundHalfEven_mul (num / 2 ^ scale num 1) (Nat.two_pow_pos (scale num 1))
  rw [hnum] at hround
  rw [roundedUnits_eq, Nat.shiftLeft_eq, Nat.one_mul, hround, hnum]

theorem scale_shiftLeft_le {n k : Nat} (h : n < 2 ^ (k + 1)) (s : Nat) :
    scale (n <<< s) 1 ≤ k + s - 52 := by
  have hlog : (n <<< s).log2 ≤ k + s := by
    rcases Nat.eq_zero_or_pos n with rfl | hn
    · simp
    · have hpos : 0 < 2 ^ s := Nat.two_pow_pos s
      have hne : n * 2 ^ s ≠ 0 := (Nat.mul_pos hn hpos).ne'
      have hlt : n * 2 ^ s < 2 ^ (k + s + 1) := by
        rw [show k + s + 1 = k + 1 + s by omega, Nat.pow_add]
        exact Nat.mul_lt_mul_of_pos_right h hpos
      rw [Nat.shiftLeft_eq]
      exact Nat.lt_succ_iff.mp ((Nat.log2_lt hne).mpr hlt)
  rw [scale, Nat.div_one]
  exact Nat.sub_le_sub_right hlog 52

/-- A number of 53 bits, or the next one, is kept at every scale not smaller than its own. -/
theorem roundedUnits_shiftLeft {n : Nat} (h : n ≤ 2 ^ 53) (s : Nat) :
    roundedUnits (n <<< s) 1 = n <<< s := by
  apply roundedUnits_of_dvd
  rcases Nat.eq_or_lt_of_le h with rfl | h
  · have hs := scale_shiftLeft_le (n := 2 ^ 53) (k := 53) (by decide) s
    rw [Nat.shiftLeft_eq, ← Nat.pow_add] at hs ⊢
    exact Nat.pow_dvd_pow 2 (by omega)
  · have hs := scale_shiftLeft_le (k := 52) h s
    rw [Nat.shiftLeft_eq] at hs ⊢
    exact Nat.dvd_mul_left_of_dvd (Nat.pow_dvd_pow 2 (by omega)) n

/-! ## Doubles -/

/-- A quotient that is not too large has a nearest double. -/
theorem ofUnits?_eq_some (negative : Bool) (h : scale num den < 2045) :
    ∃ d, ofUnits? negative num den = some d ∧ d.negative = negative ∧
      d.units = roundedUnits num den := by
  have hle := roundHalfEven_scale_le num den
  have h53 : Nat.pow 2 53 = 2 ^ 53 := by decide
  have hunfold : ofUnits? negative num den =
      if roundHalfEven num (den <<< scale num den) == Nat.pow 2 53 then
        ofParts? negative (Nat.pow 2 52) (scale num den + 1)
      else ofParts? negative (roundHalfEven num (den <<< scale num den)) (scale num den) := rfl
  rw [hunfold]
  by_cases hm : roundHalfEven num (den <<< scale num den) = 2 ^ 53
  · have hc : Canonical (Nat.pow 2 52) (scale num den + 1) := ⟨by decide, h, Or.inr (Nat.le_refl _)⟩
    refine ⟨⟨negative, Nat.pow 2 52, scale num den + 1, hc⟩, ?_, rfl, ?_⟩
    · rw [if_pos (by rw [hm, h53]; exact beq_self_eq_true _), ofParts?, dif_pos hc]
    · show Nat.pow 2 52 <<< (scale num den + 1) = _
      rw [roundedUnits, hm, Nat.shiftLeft_eq, Nat.shiftLeft_eq, Nat.pow_succ,
        Nat.mul_comm (2 ^ _) 2, ← Nat.mul_assoc]
      rfl
  · have hscale : scale num den = 0 ∨
        Nat.pow 2 52 ≤ roundHalfEven num (den <<< scale num den) := by
      rcases Nat.eq_zero_or_pos (scale num den) with h0 | hpos
      · exact Or.inl h0
      · exact Or.inr ((le_div_scale hpos).trans (le_roundHalfEven _ _))
    have hc : Canonical (roundHalfEven num (den <<< scale num den)) (scale num den) :=
      ⟨Nat.lt_of_le_of_ne hle hm, Nat.le_of_lt h, hscale⟩
    refine ⟨⟨negative, _, _, hc⟩, ?_, rfl, rfl⟩
    rw [if_neg (by rw [h53]; simpa using hm), ofParts?, dif_pos hc]

/-- The scale of a double is that of its units, so the units say everything but the sign. -/
theorem shift_le_of_units_le (h : d.units ≤ e.units) : d.shift ≤ e.shift := by
  by_contra hlt
  rw [Nat.not_le] at hlt
  obtain ⟨_, _, hd⟩ := d.canonical
  have hd : 2 ^ 52 ≤ d.mantissa := hd.resolve_left (by omega)
  have he : e.mantissa < 2 ^ 53 := e.canonical.1
  apply Nat.not_lt.mpr h
  rw [units, units, Nat.shiftLeft_eq, Nat.shiftLeft_eq]
  calc e.mantissa * 2 ^ e.shift < 2 ^ 53 * 2 ^ e.shift :=
        Nat.mul_lt_mul_of_pos_right he (Nat.two_pow_pos _)
    _ = 2 ^ 52 * 2 ^ (e.shift + 1) := by rw [Nat.pow_succ]; omega
    _ ≤ 2 ^ 52 * 2 ^ d.shift := Nat.mul_le_mul_left _ (Nat.pow_le_pow_right (by decide) hlt)
    _ ≤ d.mantissa * 2 ^ d.shift := Nat.mul_le_mul_right _ hd

theorem eq_of_units_eq (hneg : d.negative = e.negative) (h : d.units = e.units) : d = e := by
  have hshift : d.shift = e.shift :=
    Nat.le_antisymm (shift_le_of_units_le h.le) (shift_le_of_units_le h.ge)
  have hmantissa : d.mantissa = e.mantissa := by
    rw [units, units, hshift, Nat.shiftLeft_eq, Nat.shiftLeft_eq] at h
    exact Nat.eq_of_mul_eq_mul_right (Nat.two_pow_pos _) h
  cases d
  cases e
  simp_all

/-! ## Integers -/

theorem one_shiftLeft : 1 <<< 1074 = one := by decide +kernel

theorem shiftLeft_eq_mul (n s : Nat) : n <<< s = n * 1 <<< s := by
  rw [Nat.shiftLeft_eq, Nat.shiftLeft_eq, Nat.one_mul]

theorem one_pos : 0 < one := by decide +kernel

/-- The units of the double nearest to a natural number. -/
def naturalUnits (n : Nat) : Nat := roundedUnits (n <<< 1074) 1

theorem naturalUnits_mono (h : a ≤ b) : naturalUnits a ≤ naturalUnits b :=
  roundedUnits_mono (by
    rw [Nat.shiftLeft_eq, Nat.shiftLeft_eq]
    exact Nat.mul_le_mul_right _ h) 1

/-- Up to 2^53 nothing is lost. -/
theorem naturalUnits_of_le {n : Nat} (h : n ≤ 2 ^ 53) : naturalUnits n = n * one := by
  rw [naturalUnits, roundedUnits_shiftLeft h, shiftLeft_eq_mul, one_shiftLeft]

theorem naturalUnits_pos {n : Nat} (h : 0 < n) : 0 < naturalUnits n := by
  calc 0 < one := one_pos
    _ = naturalUnits 1 := by rw [naturalUnits_of_le (by decide), Nat.one_mul]
    _ ≤ naturalUnits n := naturalUnits_mono h

/-- An integer of 64 bits has a nearest double. -/
theorem ofInt?_eq_some (h : i.natAbs < 2 ^ 64) :
    ofInt? i = some (ofInt i) ∧ (ofInt i).negative = decide (i < 0) ∧
      (ofInt i).units = naturalUnits i.natAbs := by
  have hs := scale_shiftLeft_le (k := 63) h 1074
  obtain ⟨d, hd, hneg, hunits⟩ := ofUnits?_eq_some (decide (i < 0)) (by omega :
    scale (i.natAbs <<< 1074) 1 < 2045)
  have hof : ofInt? i = some d := hd
  rw [ofInt, hof]
  exact ⟨rfl, hneg, hunits⟩

theorem signedUnits_ofInt (h : i.natAbs < 2 ^ 64) :
    (ofInt i).signedUnits =
      if i < 0 then -(naturalUnits i.natAbs : Int) else naturalUnits i.natAbs := by
  obtain ⟨-, hneg, hunits⟩ := ofInt?_eq_some h
  simp only [signedUnits, hneg, hunits, decide_eq_true_eq]

/-- The nearest doubles of two integers are in the order of the integers. -/
theorem signedUnits_ofInt_mono (hi : i.natAbs < 2 ^ 64) (hj : j.natAbs < 2 ^ 64) (h : i ≤ j) :
    (ofInt i).signedUnits ≤ (ofInt j).signedUnits := by
  rw [signedUnits_ofInt hi, signedUnits_ofInt hj]
  rcases Int.lt_or_le j 0 with hj0 | hj0
  · have hunits : naturalUnits j.natAbs ≤ naturalUnits i.natAbs := naturalUnits_mono (by omega)
    rw [if_pos (by omega), if_pos hj0]
    omega
  · rw [if_neg (Int.not_lt.mpr hj0)]
    split
    · omega
    · have hunits : naturalUnits i.natAbs ≤ naturalUnits j.natAbs := naturalUnits_mono (by omega)
      omega

/-- Integers with doubles of the same value have the same nearest double. -/
theorem ofInt_eq_ofInt_iff (hi : i.natAbs < 2 ^ 64) (hj : j.natAbs < 2 ^ 64) :
    ofInt i = ofInt j ↔ (ofInt i).signedUnits = (ofInt j).signedUnits := by
  refine ⟨congrArg signedUnits, fun h => ?_⟩
  obtain ⟨-, hnegi, hunitsi⟩ := ofInt?_eq_some hi
  obtain ⟨-, hnegj, hunitsj⟩ := ofInt?_eq_some hj
  rw [signedUnits_ofInt hi, signedUnits_ofInt hj] at h
  have hposi (h0 : i < 0) : 0 < naturalUnits i.natAbs := naturalUnits_pos (by omega)
  have hposj (h0 : j < 0) : 0 < naturalUnits j.natAbs := naturalUnits_pos (by omega)
  apply eq_of_units_eq
  · rw [hnegi, hnegj, decide_eq_decide]
    generalize naturalUnits i.natAbs = m at h hposi
    generalize naturalUnits j.natAbs = n at h hposj
    split at h <;> split at h <;> omega
  · rw [hunitsi, hunitsj]
    generalize naturalUnits i.natAbs = m at h hposi ⊢
    generalize naturalUnits j.natAbs = n at h hposj ⊢
    split at h <;> split at h <;> omega

theorem signedUnits_ofInt_of_le (h : i.natAbs ≤ 2 ^ 53) : (ofInt i).signedUnits = i * one := by
  have hlt : i.natAbs < 2 ^ 64 := Nat.lt_of_le_of_lt h (by decide)
  rw [signedUnits_ofInt hlt, naturalUnits_of_le h, Int.natCast_mul, ← Int.neg_mul]
  split
  · rw [Int.ofNat_natAbs_of_nonpos (by omega), Int.neg_neg]
  · rw [Int.natAbs_of_nonneg (by omega)]

/-- Up to 2^53 every integer has a double of its own. -/
theorem eq_of_ofInt_eq (hi : i.natAbs ≤ 2 ^ 53) (hj : j.natAbs ≤ 2 ^ 53) (h : ofInt i = ofInt j) :
    i = j := by
  have hunits := congrArg signedUnits h
  rw [signedUnits_ofInt_of_le hi, signedUnits_ofInt_of_le hj] at hunits
  exact Int.eq_of_mul_eq_mul_right (Int.natCast_ne_zero.mpr one_pos.ne') hunits

end Recast.Double
