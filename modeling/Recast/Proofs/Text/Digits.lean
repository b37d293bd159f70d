import Recast.Proofs.Text.Affix

/-!
# Decimal digits

A run of digits is the number that it writes, zeros in front of it change nothing, and a number is
the one that its own digits write.
-/

namespace Recast.Text

variable {s t : List Char} {c : Char} {n width : Nat}

theorem natural?_eq_some_iff :
    natural? s = some n ↔ s ≠ [] ∧ (∀ c ∈ s, isDigit c = true) ∧ digitsValue s = n := by
  simp [natural?, and_assoc]

theorem toNat_of_isDigit (h : isDigit c = true) : 48 ≤ c.toNat ∧ c.toNat ≤ 57 := by
  simp only [isDigit, Bool.and_eq_true, decide_eq_true_eq] at h
  exact ⟨UInt32.le_iff_toNat_le.mp h.1, UInt32.le_iff_toNat_le.mp h.2⟩

theorem isBlank_of_isDigit (h : isDigit c = true) : isBlank c = false := by
  have hc := toNat_of_isDigit h
  simp only [isBlank, Bool.or_eq_false_iff, Bool.and_eq_false_iff, decide_eq_false_iff_not,
    beq_eq_false_iff_ne]
  omega

theorem tight_of_digits (h : ∀ c ∈ s, isDigit c = true) : Tight s :=
  ⟨fun c hc => isBlank_of_isDigit (h c (List.mem_of_mem_head? hc)),
    fun c hc => isBlank_of_isDigit (h c (List.mem_of_getLast? hc))⟩

/-- Digits write a number of no more digits. -/
theorem digitsValue_lt (h : ∀ c ∈ s, isDigit c = true) : digitsValue s < Nat.pow 10 s.length := by
  -- the digits read so far are `start`, and each further digit is worth at most nine
  have hfold : ∀ start, s.foldl (fun n c => n * 10 + (c.toNat - 48)) start <
      (start + 1) * Nat.pow 10 s.length := by
    induction s with
    | nil => simp
    | cons c s ih =>
        intro start
        obtain ⟨hc, hs⟩ := List.forall_mem_cons.mp h
        have hdigit := toNat_of_isDigit hc
        have hrest := ih hs (start * 10 + (c.toNat - 48))
        have hscale : (start * 10 + (c.toNat - 48) + 1) * Nat.pow 10 s.length ≤
            (start + 1) * 10 * Nat.pow 10 s.length := Nat.mul_le_mul_right _ (by omega)
        have hten : Nat.pow 10 (c :: s).length = Nat.pow 10 s.length * 10 := rfl
        rw [List.foldl_cons, hten, Nat.mul_comm (Nat.pow 10 s.length), ← Nat.mul_assoc]
        omega
  simpa [digitsValue] using hfold 0

/-! ## Zeros in front -/

theorem digitsValue_cons_zero (s : List Char) : digitsValue ('0' :: s) = digitsValue s := rfl

theorem digitsValue_zeros (count : Nat) (s : List Char) :
    digitsValue (List.replicate count '0' ++ s) = digitsValue s := by
  induction count with
  | zero => rfl
  | succ count ih => rw [List.replicate_succ, List.cons_append, digitsValue_cons_zero, ih]

/-! ## The digits of a number -/

theorem toList_toString (n : Nat) : (toString n).toList = Nat.toDigits 10 n := by simp

theorem isDigit_of_mem_toString (h : c ∈ (toString n).toList) : isDigit c = true := by
  rw [toList_toString] at h
  exact Nat.isDigit_of_mem_toDigits (by decide) (by decide) h

theorem toString_ne_nil (n : Nat) : (toString n).toList ≠ [] := by
  rw [toList_toString]
  exact Nat.toDigits_ne_nil

theorem digitsValue_toString (n : Nat) : digitsValue (toString n).toList = n := by
  have h := Nat.ofDigitChars_ten_toDigits (n := n)
  rw [toList_toString]
  simpa [Nat.ofDigitChars, digitsValue, Nat.mul_comm] using h

theorem natural?_toString (n : Nat) : natural? (toString n).toList = some n :=
  natural?_eq_some_iff.mpr
    ⟨toString_ne_nil n, fun _ hc => isDigit_of_mem_toString hc, digitsValue_toString n⟩

theorem length_toString_le (hn : n < Nat.pow 10 width) (hw : 0 < width) :
    (toString n).toList.length ≤ width := by
  rw [toList_toString]
  exact (Nat.length_toDigits_le_iff (by decide) hw).mpr hn

/-! ## Digits filled up with zeros -/

theorem toList_padLeft (fill : Char) (width : Nat) (s : String) :
    (padLeft fill width s).toList = List.replicate (width - s.toList.length) fill ++ s.toList := by
  simp [padLeft, String.length_toList]

theorem length_padLeft_zero (hn : n < Nat.pow 10 width) (hw : 0 < width) :
    (padLeft '0' width (toString n)).toList.length = width := by
  have hle := length_toString_le hn hw
  rw [toList_padLeft, List.length_append, List.length_replicate]
  omega

theorem isDigit_of_mem_padLeft_zero (h : c ∈ (padLeft '0' width (toString n)).toList) :
    isDigit c = true := by
  rw [toList_padLeft, List.mem_append] at h
  rcases h with h | h
  · rw [List.eq_of_mem_replicate h]
    decide
  · exact isDigit_of_mem_toString h

theorem digitsValue_padLeft_zero : digitsValue (padLeft '0' width (toString n)).toList = n := by
  rw [toList_padLeft, digitsValue_zeros, digitsValue_toString]

end Recast.Text
