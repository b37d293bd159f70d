import Mathlib.Algebra.Order.Ring.Nat
import Recast.Calendar.Date

/-!
# Dates by month, by day of the year and by day number

A day of a year has a month and a day, and they lead back to it. The date of a day number has that
number, and day numbers grow with the years.
-/

namespace Recast.Calendar

variable {year : Int} {month day ordinal : Nat} {n : Int} {d : Date}

/-! ## Days of a year -/

/-- A day that the year has, in a year that dates can have. -/
structure Date.Valid (d : Date) : Prop where
  minYear_le : minYear ≤ d.year
  le_maxYear : d.year ≤ maxYear
  pos : 1 ≤ d.ordinal
  le_length : d.ordinal ≤ yearLength d.year

theorem Date.ofOrdinal?_eq_some :
    Date.ofOrdinal? year ordinal = some d ↔ d = ⟨year, ordinal⟩ ∧ d.Valid := by
  simp only [Date.ofOrdinal?, Option.ite_none_right_eq_some, Bool.and_eq_true, decide_eq_true_eq,
    Option.some.injEq]
  constructor
  · rintro ⟨⟨⟨⟨hmin, hmax⟩, hpos⟩, hlength⟩, rfl⟩
    exact ⟨rfl, ⟨hmin, hmax, hpos, hlength⟩⟩
  · rintro ⟨rfl, h⟩
    exact ⟨⟨⟨⟨h.minYear_le, h.le_maxYear⟩, h.pos⟩, h.le_length⟩, rfl⟩

/-! ## Months -/

theorem sum_monthLengths (year : Int) : (monthLengths year).sum = yearLength year := by
  unfold monthLengths yearLength
  cases isLeap year <;> rfl

theorem length_monthLengths (year : Int) : (monthLengths year).length = 12 := rfl

theorem monthLengths_le (year : Int) : ∀ length ∈ monthLengths year, length ≤ 31 := by
  unfold monthLengths
  cases isLeap year <;> decide

theorem foldl_add_eq (lengths : List Nat) (day : Nat) :
    lengths.foldl Nat.add day = lengths.sum + day := by
  induction lengths generalizing day with
  | nil => simp
  | cons length lengths ih =>
      rw [List.foldl_cons, ih, List.sum_cons]
      show _ + (day + length) = _
      omega

/-- A day falls into one of the months, on a day that the month has. -/
theorem Date.splitMonth_spec {lengths : List Nat} (hpos : 1 ≤ ordinal) (h : ordinal ≤ lengths.sum)
    (first : Nat) :
    ∃ k length day, lengths[k]? = some length ∧ 1 ≤ day ∧ day ≤ length ∧
      Date.splitMonth first ordinal lengths = (first + k, day) ∧
      (lengths.take k).sum + day = ordinal := by
  -- `ordinal` counts from the first day of the months that are left, `first` is their number
  induction lengths generalizing first ordinal with
  | nil =>
      rw [List.sum_nil] at h
      omega
  | cons length lengths ih =>
      unfold Date.splitMonth
      split
      · rename_i hle
        exact ⟨0, length, ordinal, rfl, hpos, hle, rfl, by simp⟩
      · rename_i hgt
        rw [List.sum_cons] at h
        have hrest : ordinal - length ≤ lengths.sum := by omega
        obtain ⟨k, l, day, hk, hday, hl, hsplit, hsum⟩ := ih (by omega) hrest (first + 1)
        refine ⟨k + 1, l, day, by simpa using hk, hday, hl, ?_, ?_⟩
        · rw [hsplit]
          congr 1
          omega
        · rw [List.take_succ_cons, List.sum_cons]
          omega

/-- What month and day of a day are. -/
theorem Date.Valid.monthDay_spec (h : d.Valid) :
    ∃ length, (monthLengths d.year)[d.month - 1]? = some length ∧ 1 ≤ d.month ∧ 1 ≤ d.day ∧
      d.day ≤ length ∧ ((monthLengths d.year).take (d.month - 1)).sum + d.day = d.ordinal := by
  have hsum : d.ordinal ≤ (monthLengths d.year).sum := by
    rw [sum_monthLengths]
    exact h.le_length
  obtain ⟨k, length, day, hk, hday, hlength, hsplit, hordinal⟩ :=
    Date.splitMonth_spec h.pos hsum 1
  have hmonth : d.month = 1 + k := congrArg Prod.fst hsplit
  have hd : d.day = day := congrArg Prod.snd hsplit
  rw [hmonth, hd, Nat.add_sub_cancel_left]
  exact ⟨length, hk, Nat.le_add_right _ _, hday, hlength, hordinal⟩

theorem Date.Valid.month_le (h : d.Valid) : d.month ≤ 12 := by
  obtain ⟨length, hget, -⟩ := h.monthDay_spec
  have hlt := (List.getElem?_eq_some_iff.mp hget).1
  rw [length_monthLengths] at hlt
  omega

theorem Date.Valid.day_le (h : d.Valid) : d.day ≤ 31 := by
  obtain ⟨length, hget, -, -, hle, -⟩ := h.monthDay_spec
  exact Nat.le_trans hle (monthLengths_le _ _ (List.mem_of_getElem? hget))

theorem Date.Valid.one_le_month (h : d.Valid) : 1 ≤ d.month := by
  obtain ⟨_, _, hmonth, _⟩ := h.monthDay_spec
  exact hmonth

theorem Date.Valid.one_le_day (h : d.Valid) : 1 ≤ d.day := by
  obtain ⟨_, _, _, hday, _⟩ := h.monthDay_spec
  exact hday

/-- Month and day of a day lead back to it. -/
theorem Date.Valid.ofMonthDay? (h : d.Valid) : Date.ofMonthDay? d.year d.month d.day = some d := by
  obtain ⟨length, hget, hmonth, hday, hle, hordinal⟩ := h.monthDay_spec
  have hok : ¬ (d.month == 0 || d.day == 0 || decide (d.day > length)) = true := by
    simp only [Bool.or_eq_true, beq_iff_eq, decide_eq_true_eq]
    omega
  rw [Date.ofMonthDay?, hget]
  dsimp only
  rw [if_neg hok, foldl_add_eq, hordinal]
  exact Date.ofOrdinal?_eq_some.mpr ⟨rfl, h⟩

theorem Date.valid_of_ofMonthDay? (h : Date.ofMonthDay? year month day = some d) :
    d.Valid ∧ d.year = year := by
  unfold Date.ofMonthDay? at h
  split at h
  · split at h
    · cases h
    · obtain ⟨rfl, hvalid⟩ := Date.ofOrdinal?_eq_some.mp h
      exact ⟨hvalid, rfl⟩
  · cases h

/-! ## Day numbers -/

theorem Date.of_ofDayNumber? (h : Date.ofDayNumber? n = some d) : d.Valid ∧ d.dayNumber = n := by
  obtain ⟨hd, hvalid⟩ := Date.ofOrdinal?_eq_some.mp h
  have hpos := hvalid.pos
  refine ⟨hvalid, ?_⟩
  rw [hd] at hpos ⊢
  simp only [Date.dayNumber] at hpos ⊢
  omega

theorem daysBeforeYear_eq (year : Int) :
    daysBeforeYear year =
      year * 365 + (year - 1) / 4 - (year - 1) / 100 + (year - 1) / 400 + 1 := by
  simp only [daysBeforeYear, Int.fdiv_eq_ediv_of_nonneg _ (by decide : (0 : Int) ≤ 4),
    Int.fdiv_eq_ediv_of_nonneg _ (by decide : (0 : Int) ≤ 100),
    Int.fdiv_eq_ediv_of_nonneg _ (by decide : (0 : Int) ≤ 400)]

theorem daysBeforeYear_mono {year later : Int} (h : year ≤ later) :
    daysBeforeYear year ≤ daysBeforeYear later := by
  rw [daysBeforeYear_eq, daysBeforeYear_eq]
  omega

/-- A leap year has one day more than three in four others, and these are all. -/
theorem daysBeforeYear_succ (year : Int) :
    daysBeforeYear (year + 1) = daysBeforeYear year + yearLength year := by
  rw [daysBeforeYear_eq, daysBeforeYear_eq, yearLength, isLeap]
  simp only [Bool.and_eq_true, Bool.or_eq_true, beq_iff_eq, bne_iff_ne]
  split <;> omega

/-- The days of a year come before those of all later years. -/
theorem Date.Valid.year_lt_iff (h : d.Valid) (year : Int) :
    d.year < year ↔ d.dayNumber < daysBeforeYear year := by
  have hpos := h.pos
  have hlength := h.le_length
  have hnext := daysBeforeYear_succ d.year
  unfold Date.dayNumber
  constructor
  · intro hlt
    have hmono := daysBeforeYear_mono (show d.year + 1 ≤ year by omega)
    omega
  · intro hlt
    refine Int.not_le.mp fun hge => ?_
    have hmono := daysBeforeYear_mono (show year ≤ d.year by omega)
    omega

/-! ## Moments of a timestamp -/

/-- The moment of a timestamp has that timestamp. -/
theorem Moment.of_ofTimestamp? {seconds : Int} {nanos : Nat} {m : Moment}
    (h : Moment.ofTimestamp? seconds nanos = some m) :
    m.date.Valid ∧ m.date.dayNumber = seconds / 86400 + Date.epochDay ∧
      m.time = ⟨(seconds % 86400).toNat, nanos⟩ ∧ m.timestamp = seconds := by
  obtain ⟨d, hd, rfl⟩ := Option.map_eq_some_iff.mp h
  obtain ⟨hvalid, hday⟩ := Date.of_ofDayNumber? hd
  rw [Int.fdiv_eq_ediv_of_nonneg _ (by decide : (0 : Int) ≤ 86400)] at hday
  refine ⟨hvalid, hday, rfl, ?_⟩
  rw [Moment.timestamp]
  dsimp only
  rw [hday]
  omega

/-- The clock of Greenwich shows a year from 0 to 9999 for these seconds. -/
theorem Moment.year_of_ofTimestamp? {seconds : Int} {nanos : Nat} {m : Moment}
    (h : Moment.ofTimestamp? seconds nanos = some m) :
    (m.date.year < 0 ↔ seconds < -62167219200) ∧
      (m.date.year < 10000 ↔ seconds < 253402300800) := by
  obtain ⟨hvalid, hday, -, -⟩ := Moment.of_ofTimestamp? h
  have hfirst : daysBeforeYear 0 = 0 := by decide
  have hlast : daysBeforeYear 10000 = 3652425 := by decide
  rw [hvalid.year_lt_iff, hvalid.year_lt_iff, hday, hfirst, hlast, Date.epochDay]
  omega

end Recast.Calendar
