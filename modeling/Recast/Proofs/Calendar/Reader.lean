import Recast.Calendar.Reader
import Recast.Proofs.Outcome
import Recast.Proofs.Text.Digits

/-!
# What the strict form says

The strict form of a moment gives the fields of a stamp, each part within its bounds, and nothing
else.
-/

namespace Recast.Calendar

/-! ## Stamps -/

/-- The parts of a moment as the strict form writes them, the fraction of the second in billionths
and the offset in seconds. -/
structure Stamp where
  year : Nat
  month : Nat
  day : Nat
  hour : Nat
  minute : Nat
  second : Nat
  nano? : Option Nat
  offset : Int

namespace Stamp

/-- The parts that can be written: four digits of a year, the second 60 for a leap second, an offset
of whole minutes. -/
structure InBounds (st : Stamp) : Prop where
  year_lt : st.year < 10000
  one_le_month : 1 ≤ st.month
  month_le : st.month ≤ 12
  one_le_day : 1 ≤ st.day
  day_le : st.day ≤ 31
  hour_lt : st.hour < 24
  minute_lt : st.minute < 60
  second_le : st.second ≤ 60
  nano_lt : ∀ n ∈ st.nano?, n < Time.billion
  minutes : (60 : Int) ∣ st.offset
  offset_le : st.offset.natAbs ≤ (23 * 60 + 59) * 60

def dateFields (st : Stamp) : Fields :=
  { year := some st.year, month := some st.month, day := some st.day }

def timeFields (st : Stamp) : Fields :=
  { st.dateFields with
    half := some (st.hour / 12)
    hourOfHalf := some (st.hour % 12)
    minute := some st.minute
    second := some st.second
    nanosecond := st.nano? }

def fields (st : Stamp) : Fields := { st.timeFields with offset := some st.offset }

end Stamp

namespace Reader

variable {s rest ds : List Char} {f g : Fields} {n width least most : Nat} {lo hi i : Int}

/-! ## Digits -/

theorem lt_of_digits (h : digits least most s = .ok (n, rest)) : n < Nat.pow 10 most := by
  have hds : ∀ c ∈ (s.take most).takeWhile Text.isDigit, Text.isDigit c = true :=
    List.all_eq_true.mp List.all_takeWhile
  have hlength : ((s.take most).takeWhile Text.isDigit).length ≤ most :=
    Nat.le_trans (List.takeWhile_prefix _).length_le (List.length_take_le _ _)
  unfold digits at h
  dsimp only at h
  split at h
  · cases h
  · split at h
    · cases h
    · cases h
      exact Nat.lt_of_lt_of_le (Text.digitsValue_lt hds) (Nat.pow_le_pow_right (by decide) hlength)

/-- Digits are read up to the greatest number of them or to what is none. -/
theorem digits_append (hds : ∀ c ∈ ds, Text.isDigit c = true) (hleast : least ≤ ds.length)
    (hmost : ds.length ≤ most) (hstop : ds.length = most ∨ Text.StopsAt Text.isDigit rest)
    (hvalue : Text.digitsValue ds < Nat.pow 2 63) :
    digits least most (ds ++ rest) = .ok (Text.digitsValue ds, rest) := by
  have htail : (rest.take (most - ds.length)).takeWhile Text.isDigit = [] := by
    rcases hstop with hfull | hstop
    · rw [hfull, Nat.sub_self]
      rfl
    · have htake : Text.StopsAt Text.isDigit (rest.take (most - ds.length)) := by
        intro c hc
        rw [List.head?_take] at hc
        split at hc
        · cases hc
        · exact hstop c hc
      exact (Text.span_eq_iff.mpr ⟨rfl, List.forall_mem_nil _, htake⟩).1
  have hrun : ((ds ++ rest).take most).takeWhile Text.isDigit = ds := by
    rw [List.take_append, List.take_of_length_le hmost, List.takeWhile_append_of_pos hds, htail,
      List.append_nil]
  unfold digits
  rw [hrun, if_neg (by omega), if_neg (by omega), List.drop_left]

/-! ## Parts within bounds -/

theorem within_bind_eq_ok {α : Type} {x : Except Fault α} {a : α}
    (h : (Fields.within lo hi i >>= fun _ => x) = .ok a) : (lo ≤ i ∧ i ≤ hi) ∧ x = .ok a := by
  unfold Fields.within at h
  split at h
  · rename_i hi
    exact ⟨by simpa using hi, h⟩
  · cases h

theorem of_fixed {field : Numeric} (h : fixed width field f s = .ok (g, rest)) :
    ∃ n : Nat, n < Nat.pow 10 width ∧ store field f n = .ok g := by
  obtain ⟨⟨n, t⟩, hn, h⟩ := bind_eq_ok h
  obtain ⟨g', hg, h⟩ := bind_eq_ok h
  cases h
  exact ⟨n, lt_of_digits hn, hg⟩

theorem of_strictDate (h : strictDate s = .ok (f, rest)) :
    ∃ year month day : Nat, year < 10000 ∧ (1 ≤ month ∧ month ≤ 12) ∧ (1 ≤ day ∧ day ≤ 31) ∧
      f = { year := some (year : Int), month := some month, day := some day } := by
  obtain ⟨⟨fy, s₁⟩, hy, h⟩ := bind_eq_ok h
  obtain ⟨s₂, -, h⟩ := bind_eq_ok h
  obtain ⟨⟨fm, s₃⟩, hm, h⟩ := bind_eq_ok h
  obtain ⟨s₄, -, hd⟩ := bind_eq_ok h
  obtain ⟨year, hyear, hy⟩ := of_fixed hy
  obtain ⟨month, -, hm⟩ := of_fixed hm
  obtain ⟨day, -, hd⟩ := of_fixed hd
  -- the year has no bounds of its own here, its four digits bound it
  obtain ⟨-, hy⟩ := within_bind_eq_ok hy
  cases hy
  obtain ⟨hmonth, hm⟩ := within_bind_eq_ok hm
  cases hm
  obtain ⟨hday, hd⟩ := within_bind_eq_ok hd
  cases hd
  exact ⟨year, month, day, hyear, by omega, by omega, by simp⟩

theorem of_storeFraction (hf : f.nanosecond = none) (h : storeFraction f s = .ok (g, rest)) :
    ∃ nano? : Option Nat, (∀ n ∈ nano?, n < Time.billion) ∧ g = { f with nanosecond := nano? } := by
  unfold storeFraction at h
  split at h
  · obtain ⟨⟨n, t⟩, -, h⟩ := bind_eq_ok h
    obtain ⟨g', hg, h⟩ := bind_eq_ok h
    cases h
    obtain ⟨hn, hg⟩ := within_bind_eq_ok hg
    rw [hf] at hg
    cases hg
    refine ⟨some n, ?_, by simp⟩
    intro m hm
    cases hm
    simp only [Time.billion]
    omega
  · cases h
    exact ⟨none, by simp, by rw [← hf]⟩

theorem of_strictTime {year : Int} {month day : Nat}
    (h : strictTime { year := some year, month := some month, day := some day } s = .ok (g, rest)) :
    ∃ (hour minute second : Nat) (nano? : Option Nat), hour < 24 ∧ minute < 60 ∧ second ≤ 60 ∧
      (∀ n ∈ nano?, n < Time.billion) ∧
      g = {
        year := some year, month := some month, day := some day, half := some (hour / 12)
        hourOfHalf := some (hour % 12), minute := some minute, second := some second
        nanosecond := nano? } := by
  obtain ⟨⟨fh, s₁⟩, hh, h⟩ := bind_eq_ok h
  obtain ⟨s₂, -, h⟩ := bind_eq_ok h
  obtain ⟨⟨fm, s₃⟩, hm, h⟩ := bind_eq_ok h
  obtain ⟨s₄, -, h⟩ := bind_eq_ok h
  obtain ⟨⟨fs, s₅⟩, hs, hn⟩ := bind_eq_ok h
  obtain ⟨hour, -, hh⟩ := of_fixed hh
  obtain ⟨minute, -, hm⟩ := of_fixed hm
  obtain ⟨second, -, hs⟩ := of_fixed hs
  obtain ⟨hh₂₄, hh⟩ := within_bind_eq_ok hh
  cases hh
  obtain ⟨hm₆₀, hm⟩ := within_bind_eq_ok hm
  cases hm
  obtain ⟨hs₆₀, hs⟩ := within_bind_eq_ok hs
  cases hs
  obtain ⟨nano?, hnano?, rfl⟩ := of_storeFraction rfl hn
  exact ⟨hour, minute, second, nano?, by omega, by omega, by omega, hnano?, by simp⟩

theorem of_offset (h : offset strictOffset s = .ok (i, rest)) : (60 : Int) ∣ i := by
  have hminutes : ∀ hours minutes : Nat, (60 : Int) ∣ (hours : Int) * 3600 + minutes * 60 := by
    intro hours minutes
    omega
  unfold offset at h
  split at h
  · cases h
    exact Int.dvd_zero 60
  · cases h
    exact Int.dvd_zero 60
  · split at h
    · cases h
    · split at h
      · cases h
      · obtain ⟨t, -, h⟩ := bind_eq_ok h
        obtain ⟨⟨minutes, u⟩, -, h⟩ := bind_eq_ok h
        cases h
        split
        · exact hminutes _ _
        · exact Int.dvd_neg.mpr (hminutes _ _)
  · cases h

theorem of_strictZone (hf : f.offset = none) (h : strictZone f s = .ok (g, rest)) :
    ∃ offset : Int, (60 : Int) ∣ offset ∧ offset.natAbs ≤ (23 * 60 + 59) * 60 ∧
      g = { f with offset := some offset } := by
  obtain ⟨⟨offset, t⟩, ho, h⟩ := bind_eq_ok h
  dsimp only at h
  split at h
  · cases h
  · rename_i hle
    obtain ⟨g', hg, h⟩ := bind_eq_ok h
    cases h
    rw [Fields.setOffset, hf] at hg
    cases hg
    exact ⟨offset, of_offset ho, Nat.not_lt.mp hle, rfl⟩

/-- What the strict form gives are the fields of a stamp within bounds. -/
theorem of_strict (h : strict s = .ok f) : ∃ st : Stamp, st.InBounds ∧ f = st.fields := by
  obtain ⟨⟨fd, s₁⟩, hd, h⟩ := bind_eq_ok h
  obtain ⟨s₂, -, h⟩ := bind_eq_ok h
  obtain ⟨⟨ft, s₃⟩, ht, h⟩ := bind_eq_ok h
  obtain ⟨⟨fz, s₄⟩, hz, h⟩ := bind_eq_ok h
  obtain ⟨year, month, day, hyear, hmonth, hday, rfl⟩ := of_strictDate hd
  obtain ⟨hour, minute, second, nano?, hhour, hminute, hsecond, hnano, rfl⟩ :=
    of_strictTime ht
  obtain ⟨offset, hdvd, hle, rfl⟩ := of_strictZone rfl hz
  split at h
  · rename_i hend
    cases hend
    cases h
    exact ⟨⟨year, month, day, hour, minute, second, nano?, offset⟩,
      ⟨hyear, hmonth.1, hmonth.2, hday.1, hday.2, hhour, hminute, hsecond, hnano, hdvd, hle⟩, rfl⟩
  · cases h

end Reader

end Recast.Calendar
