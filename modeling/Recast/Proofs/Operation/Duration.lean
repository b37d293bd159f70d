import Mathlib.Data.Nat.Digits.Defs
import Recast.Operation.Run
import Recast.Proofs.Text.Digits

/-!
# Durations

A duration is counted in words of 64 bits, group by group. Because the seconds so far only grow, a
text is a duration exactly if its value in base 60 fits into a word, and then no step on the way to
it overflows.
-/

namespace Recast.Operation

open Json (Value)
open Text (digitsValue isDigit splitAt)

variable {a b total next : UInt64} {n : Nat} {g s : List Char} {groups : List (List Char)}

/-! ## What a duration is worth -/

/-- A group of digits. -/
structure IsGroup (g : List Char) : Prop where
  ne_nil : g ≠ []
  digits : ∀ c ∈ g, isDigit c = true

/-- The number of a group in base 10; its last digit counts ones. -/
def groupValue (g : List Char) : Nat := Nat.ofDigits 10 (g.reverse.map fun c => c.toNat - '0'.toNat)

/-- The number of seconds in base 60; the last group counts ones. -/
def secondsValue (groups : List (List Char)) : Nat :=
  Nat.ofDigits 60 (groups.reverse.map groupValue)

/-- The text consists of one to three groups of digits with colons between them. -/
structure IsClock (s : List Char) (groups : List (List Char)) : Prop where
  ne_nil : groups ≠ []
  atMost : groups.length ≤ 3
  group : ∀ g ∈ groups, IsGroup g
  text_eq : s = [':'].intercalate groups

/-- The digits of a number, the first one counting most, are added up from the left. -/
theorem ofDigits_map_reverse {α : Type} (base : Nat) (f : α → Nat) (l : List α) :
    Nat.ofDigits base (l.reverse.map f) = l.foldl (fun n x => n * base + f x) 0 := by
  rw [Nat.ofDigits_eq_foldr, List.foldr_map, List.foldr_reverse]
  simp only [Nat.cast_id, Nat.add_comm, Nat.mul_comm]

theorem digitsValue_eq_groupValue (g : List Char) : digitsValue g = groupValue g :=
  (ofDigits_map_reverse 10 _ g).symm

/-! ## Steps in words -/

theorem toNat_mul_of_lt (h : a.toNat * b.toNat < maxSeconds) :
    (a * b).toNat = a.toNat * b.toNat := by
  rw [UInt64.toNat_mul]
  exact Nat.mod_eq_of_lt h

theorem toNat_add_of_lt (h : a.toNat + b.toNat < maxSeconds) :
    (a + b).toNat = a.toNat + b.toNat := by
  rw [UInt64.toNat_add]
  exact Nat.mod_eq_of_lt h

theorem word?_eq_some : word? n = some a ↔ n < maxSeconds ∧ a.toNat = n := by
  rw [word?, Option.ite_none_right_eq_some, Option.some.injEq]
  refine and_congr_right fun h => ?_
  rw [← UInt64.toNat_inj, UInt64.toNat_ofNat_of_lt' h, eq_comm]

theorem times?_eq_some :
    times? a b = some total ↔ a.toNat * b.toNat < maxSeconds ∧ total.toNat = a.toNat * b.toNat := by
  rw [times?, Option.ite_none_right_eq_some, Option.some.injEq]
  refine and_congr_right fun h => ?_
  rw [← UInt64.toNat_inj, toNat_mul_of_lt h, eq_comm]

theorem plus?_eq_some :
    plus? a b = some total ↔ a.toNat + b.toNat < maxSeconds ∧ total.toNat = a.toNat + b.toNat := by
  rw [plus?, Option.ite_none_right_eq_some, Option.some.injEq]
  refine and_congr_right fun h => ?_
  rw [← UInt64.toNat_inj, toNat_add_of_lt h, eq_comm]

/-- The part and the product are no greater than the sum, so only the sum decides. -/
theorem addGroup_eq_some :
    addGroup total g = some next ↔
      IsGroup g ∧ total.toNat * 60 + groupValue g < maxSeconds ∧
        next.toNat = total.toNat * 60 + groupValue g := by
  simp only [addGroup, Option.bind_eq_bind, Option.bind_eq_some_iff, Text.natural?_eq_some_iff,
    word?_eq_some, times?_eq_some, plus?_eq_some, digitsValue_eq_groupValue]
  constructor
  · rintro ⟨_, ⟨hne, hdigits, rfl⟩, part, ⟨-, hpart⟩, product, ⟨-, hproduct⟩, hlt, hnext⟩
    rw [hproduct, hpart] at hlt hnext
    exact ⟨⟨hne, hdigits⟩, hlt, hnext⟩
  · rintro ⟨hg, hlt, hnext⟩
    have hpart : groupValue g < maxSeconds := Nat.lt_of_le_of_lt (Nat.le_add_left _ _) hlt
    have hproduct : total.toNat * 60 < maxSeconds := Nat.lt_of_le_of_lt (Nat.le_add_right _ _) hlt
    refine ⟨_, ⟨hg.ne_nil, hg.digits, rfl⟩, _, ⟨hpart, UInt64.toNat_ofNat_of_lt' hpart⟩,
      .ofNat (total.toNat * 60), ⟨hproduct, UInt64.toNat_ofNat_of_lt' hproduct⟩, ?_⟩
    rw [UInt64.toNat_ofNat_of_lt' hpart, UInt64.toNat_ofNat_of_lt' hproduct]
    exact ⟨hlt, hnext⟩

/-- In a step that succeeds, neither the product nor the sum wraps around. -/
theorem addGroup_exact (h : addGroup total g = some next) :
    (total * 60).toNat = total.toNat * 60 ∧
      (total * 60 + .ofNat (groupValue g)).toNat = total.toNat * 60 + groupValue g ∧
      next = total * 60 + .ofNat (groupValue g) := by
  obtain ⟨-, hlt, hnext⟩ := addGroup_eq_some.mp h
  have hproduct : (total * 60).toNat = total.toNat * 60 :=
    toNat_mul_of_lt (Nat.lt_of_le_of_lt (Nat.le_add_right _ _) hlt)
  have hpart : (UInt64.ofNat (groupValue g)).toNat = groupValue g :=
    UInt64.toNat_ofNat_of_lt' (Nat.lt_of_le_of_lt (Nat.le_add_left _ _) hlt)
  have hsum : (total * 60 + .ofNat (groupValue g)).toNat = total.toNat * 60 + groupValue g := by
    rw [toNat_add_of_lt (by rwa [hproduct, hpart]), hproduct, hpart]
  exact ⟨hproduct, hsum, UInt64.toNat_inj.mp (hnext.trans hsum.symm)⟩

/-! ## All groups -/

/-- The seconds after more groups. -/
def secondsAfter (total : Nat) (groups : List (List Char)) : Nat :=
  groups.foldl (fun n g => n * 60 + groupValue g) total

theorem secondsAfter_zero (groups : List (List Char)) :
    secondsAfter 0 groups = secondsValue groups :=
  (ofDigits_map_reverse 60 groupValue groups).symm

theorem le_secondsAfter (n : Nat) (groups : List (List Char)) : n ≤ secondsAfter n groups := by
  induction groups generalizing n with
  | nil => exact Nat.le_refl n
  | cons g groups ih =>
      calc n ≤ n * 60 + groupValue g := by omega
        _ ≤ secondsAfter n (g :: groups) := ih _

theorem foldlM_addGroup_eq_some :
    groups.foldlM addGroup total = some next ↔
      (∀ g ∈ groups, IsGroup g) ∧ secondsAfter total.toNat groups < maxSeconds ∧
        next.toNat = secondsAfter total.toNat groups := by
  induction groups generalizing total with
  | nil =>
      have hlt : total.toNat < maxSeconds := total.toNat_lt
      simp [secondsAfter, hlt, ← UInt64.toNat_inj, eq_comm]
  | cons g groups ih =>
      have hcons : secondsAfter total.toNat (g :: groups) =
        secondsAfter (total.toNat * 60 + groupValue g) groups := rfl
      simp only [List.foldlM_cons, Option.bind_eq_bind, Option.bind_eq_some_iff, addGroup_eq_some,
        ih, List.forall_mem_cons, hcons]
      constructor
      · rintro ⟨first, ⟨hg, _, hfirst⟩, hgroups, hlt, hnext⟩
        rw [hfirst] at hlt hnext
        exact ⟨⟨hg, hgroups⟩, hlt, hnext⟩
      · rintro ⟨⟨hg, hgroups⟩, hlt, hnext⟩
        have hstep := Nat.lt_of_le_of_lt (le_secondsAfter _ groups) hlt
        have hfirst : (UInt64.ofNat (total.toNat * 60 + groupValue g)).toNat =
            total.toNat * 60 + groupValue g := UInt64.toNat_ofNat_of_lt' hstep
        refine ⟨_, ⟨hg, hstep, hfirst⟩, hgroups, ?_⟩
        rw [hfirst]
        exact ⟨hlt, hnext⟩

theorem IsGroup.no_colon (h : IsGroup g) : ':' ∉ g := by
  intro hmem
  have := h.digits _ hmem
  exact absurd this (by decide)

theorem seconds?_eq_some :
    seconds? s = some total ↔
      ∃ groups, IsClock s groups ∧ secondsValue groups < maxSeconds ∧
        total.toNat = secondsValue groups := by
  simp only [seconds?, Option.ite_none_left_eq_some, Nat.not_lt, foldlM_addGroup_eq_some]
  constructor
  · rintro ⟨hlen, hgroups, hlt, htotal⟩
    obtain ⟨hne, hs⟩ := (Text.splitAt_eq_iff fun g hg => (hgroups g hg).no_colon).mp rfl
    rw [UInt64.toNat_zero, secondsAfter_zero] at hlt htotal
    exact ⟨_, ⟨hne, hlen, hgroups, hs⟩, hlt, htotal⟩
  · rintro ⟨groups, h, hlt, htotal⟩
    have hsplit : splitAt (· == ':') s = groups :=
      (Text.splitAt_eq_iff fun g hg => (h.group g hg).no_colon).mpr ⟨h.ne_nil, h.text_eq⟩
    rw [hsplit, UInt64.toNat_zero, secondsAfter_zero]
    exact ⟨h.atMost, h.group, hlt, htotal⟩

theorem run_duration_of_some {s : String} (h : seconds? (Text.trim s.toList) = some total) :
    run .duration (.string s) = .ok (.ofNat total.toNat) := by
  simp only [run, runDuration, expectString, bind, Except.bind, h]

theorem run_duration_of_none {s : String} (h : seconds? (Text.trim s.toList) = none) :
    run .duration (.string s) = .error (.failed (.malformedDuration s)) := by
  simp only [run, runDuration, expectString, bind, Except.bind, h]

/-- A text is a duration exactly if, without the blanks around it, it consists of one to three
groups of digits whose value in base 60 fits into 64 bits, and that value is the result. Every other
text is refused, and no step that leads to a result wraps around. -/
theorem run_duration_string (s : String) :
    (∀ v, run .duration (.string s) = .ok v ↔
      ∃ groups, IsClock (Text.trim s.toList) groups ∧ secondsValue groups ≤ 2 ^ 64 - 1 ∧
        v = .ofNat (secondsValue groups)) ∧
    ((∃ v, run .duration (.string s) = .ok v) ∨
      run .duration (.string s) = .error (.failed (.malformedDuration s))) ∧
    ∀ total g next, addGroup total g = some next →
      (total * 60).toNat = total.toNat * 60 ∧
        (total * 60 + .ofNat (groupValue g)).toNat = total.toNat * 60 + groupValue g ∧
        next = total * 60 + .ofNat (groupValue g) := by
  have hbound (n : Nat) : n ≤ 2 ^ 64 - 1 ↔ n < maxSeconds := by
    have hmax : maxSeconds = 2 ^ 64 := rfl
    omega
  refine ⟨fun v => ?_, ?_, fun _ _ _ => addGroup_exact⟩
  · simp only [hbound]
    constructor
    · intro h
      cases hsec : seconds? (Text.trim s.toList) with
      | none =>
          rw [run_duration_of_none hsec] at h
          cases h
      | some n =>
          rw [run_duration_of_some hsec] at h
          obtain ⟨groups, hclock, hlt, hn⟩ := seconds?_eq_some.mp hsec
          cases h
          exact ⟨groups, hclock, hlt, congrArg Value.ofNat hn⟩
    · rintro ⟨groups, hclock, hlt, rfl⟩
      have hn := UInt64.toNat_ofNat_of_lt' hlt
      rw [run_duration_of_some (seconds?_eq_some.mpr ⟨groups, hclock, hlt, hn⟩), hn]
  · cases hsec : seconds? (Text.trim s.toList) with
    | none => exact Or.inr (run_duration_of_none hsec)
    | some n => exact Or.inl ⟨_, run_duration_of_some hsec⟩

example : run .duration (.string " 1:00:000073 ") = .ok (.ofNat 3673) := rfl

end Recast.Operation
