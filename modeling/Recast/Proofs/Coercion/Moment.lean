import Recast.Proofs.Calendar.Text
import Recast.Proofs.Coercion

/-!
# Coercion of what has been coerced

What a coercion gives is coerced to itself. Only the text of a moment far from now, whose year has a
sign, is no moment again.
-/

namespace Recast

open Calendar
open Json (Value Number)

variable {k : Scalar} {v w : Value} {n : Number} {z : Zoned}

/-! ## Moments of numbers -/

/-- The whole seconds of a number of seconds. -/
def Json.Number.wholeSeconds (n : Number) : Int :=
  match n.signed? with
  | some i => i
  | none => n.toDouble.floor

namespace Coercion

theorem nanos_of_splitSeconds? {d : Double} {seconds : Int} {nanos : Nat}
    (h : splitSeconds? d = some (seconds, nanos)) :
    seconds = d.floor ∧ nanos < Time.billion := by
  obtain ⟨rest, -, h⟩ := Option.bind_eq_some_iff.mp h
  obtain ⟨scaled, -, h⟩ := Option.bind_eq_some_iff.mp h
  cases h
  refine ⟨rfl, Nat.lt_of_le_of_lt (Nat.min_le_right _ _) (by decide)⟩

theorem moment?_number (h : moment? (.number n) = some z) :
    ∃ nanos m, nanos < Time.billion ∧ Moment.ofTimestamp? n.wholeSeconds nanos = some m ∧
      z = ⟨m, 0⟩ := by
  unfold moment? at h
  dsimp only at h
  split at h
  · rename_i seconds hs
    obtain ⟨m, hm, rfl⟩ := Option.map_eq_some_iff.mp h
    refine ⟨0, m, by decide, ?_, rfl⟩
    rw [Number.wholeSeconds, hs]
    exact hm
  · rename_i hs
    obtain ⟨⟨seconds, nanos⟩, hsplit, h⟩ := Option.bind_eq_some_iff.mp h
    obtain ⟨rfl, hnanos⟩ := nanos_of_splitSeconds? hsplit
    obtain ⟨m, hm, rfl⟩ := Option.map_eq_some_iff.mp h
    refine ⟨nanos, m, hnanos, ?_, rfl⟩
    rw [Number.wholeSeconds, hs]
    exact hm

/-- A moment on the clock of Greenwich can be written if its year has four digits. -/
theorem writable_of_ofTimestamp? {seconds : Int} {nanos : Nat} {m : Moment}
    (h : Moment.ofTimestamp? seconds nanos = some m) (hn : nanos < Time.billion)
    (hl : -62167219200 ≤ seconds) (hu : seconds < 253402300800) :
    Zoned.Writable ⟨m, 0⟩ := by
  obtain ⟨hvalid, -, htime, htimestamp⟩ := Moment.of_ofTimestamp? h
  obtain ⟨hneg, hlt⟩ := Moment.year_of_ofTimestamp? h
  have hgreenwich : (Moment.ofTimestamp? (m.timestamp - 0) 0).isSome = true := by
    rw [Int.sub_zero, htimestamp, Moment.ofTimestamp?, Option.isSome_map]
    rw [Moment.ofTimestamp?] at h
    obtain ⟨d, hd, -⟩ := Option.map_eq_some_iff.mp h
    rw [hd]
    rfl
  refine ⟨hvalid, ?_, hlt.mpr hu, ?_, Int.dvd_zero 60, Nat.zero_le _, hgreenwich⟩
  · exact Int.not_lt.mp fun hnegative => Int.not_lt.mpr hl (hneg.mp hnegative)
  · show m.time.Valid
    rw [htime]
    refine ⟨?_, Or.inl hn⟩
    show (seconds % 86400).toNat < 86400
    omega

/-! ## Coercing again -/

/-- A number of seconds whose year is not one of 0 to 9999. -/
def SignedYear : Value → Prop
  | .number n => n.wholeSeconds < -62167219200 ∨ 253402300800 ≤ n.wholeSeconds
  | _ => False

theorem writable_of_moment? (h : moment? v = some z) (hv : ¬ SignedYear v) : z.Writable := by
  cases v with
  | string s => exact Zoned.writable_of_ofText? h
  | number n =>
      obtain ⟨nanos, m, hn, hm, rfl⟩ := moment?_number h
      rw [SignedYear] at hv
      exact writable_of_ofTimestamp? hm hn (by omega) (by omega)
  | _ => cases h

/-- A moment that can be written is the one that its text writes. -/
theorem moment?_text (h : z.Writable) : moment? (.string z.text) = some z := by
  show Zoned.ofText? (Text.trim z.text.toList) = some z
  rw [h.tight_text.trim_eq, h.ofText?_text]

/-- Text whose year has a sign is no moment. -/
theorem moment?_text_of_signedYear (h : moment? v = some z) (hv : SignedYear v) :
    moment? (.string z.text) = none := by
  cases v with
  | number n =>
      obtain ⟨nanos, m, -, hm, rfl⟩ := moment?_number h
      obtain ⟨hneg, hlt⟩ := Moment.year_of_ofTimestamp? hm
      have hyear : m.date.year < 0 ∨ 10000 ≤ m.date.year := by
        rw [SignedYear] at hv
        omega
      obtain ⟨c, rest, htext, hc⟩ := Zoned.text_of_signed (z := ⟨m, 0⟩) hyear
      have hblank : Text.isBlank c = false := by rcases hc with rfl | rfl <;> rfl
      have hdigit : Text.isDigit c = false := by rcases hc with rfl | rfl <;> rfl
      show Zoned.ofText? (Text.trim (Zoned.text ⟨m, 0⟩).toList) = none
      rw [htext, Text.trim_cons hblank, Zoned.ofText?_cons hdigit]
  | _ => cases hv

/-- What a value has been coerced to is coerced to itself, and only a moment that a number counts in
a year with a sign is no moment any more. -/
theorem coerce?_coerced (h : k.coerce? v = some w) :
    (¬ (k = .moment ∧ SignedYear v) → k.coerce? w = some w) ∧
      (k = .moment → SignedYear v → k.coerce? w = none) := by
  by_cases hk : k = .moment
  · subst hk
    obtain ⟨z, hz, rfl⟩ := Option.map_eq_some_iff.mp h
    constructor
    · intro hv
      have hwritable := writable_of_moment? hz fun hsigned => hv ⟨rfl, hsigned⟩
      rw [Scalar.coerce?, moment?_text hwritable]
      rfl
    · intro _ hv
      rw [Scalar.coerce?, moment?_text_of_signedYear hz hv]
      rfl
  · exact ⟨fun _ => coerce?_of_holds hk (holds_of_coerce? h), fun hmoment => absurd hmoment hk⟩

/-- The last second that a number counts to and whose text is read again. -/
theorem coerce?_coerced_last :
    Scalar.coerce? .moment (.number (.integer 253402300799)) =
        some (.string "9999-12-31T23:59:59Z") ∧
      Scalar.coerce? .moment (.string "9999-12-31T23:59:59Z") =
        some (.string "9999-12-31T23:59:59Z") := by
  have h : Scalar.coerce? .moment (.number (.integer 253402300799)) =
      some (.string "9999-12-31T23:59:59Z") := by decide +kernel
  have hyear : ¬ SignedYear (.number (.integer 253402300799)) := by
    rintro (hlow | hhigh)
    · exact absurd hlow (by decide)
    · exact absurd hhigh (by decide)
  exact ⟨h, (coerce?_coerced h).1 fun hsigned => hyear hsigned.2⟩

/-- One second later the year has a sign. -/
theorem coerce?_coerced_signedYear :
    Scalar.coerce? .moment (.number (.integer 253402300800)) =
        some (.string "+10000-01-01T00:00:00Z") ∧
      Scalar.coerce? .moment (.string "+10000-01-01T00:00:00Z") = none := by
  decide +kernel

end Coercion

end Recast
