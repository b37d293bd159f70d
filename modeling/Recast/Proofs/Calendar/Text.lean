import Recast.Calendar.Printer
import Recast.Proofs.Calendar.Date
import Recast.Proofs.Calendar.Reader

/-!
# Moments written and read

A moment of a year from 0 to 9999 is read from its own text, and only such moments are read. Other
years are written with a sign, which the strict form does not have.
-/

namespace Recast.Calendar

open Reader

variable {s rest : List Char} {f : Fields} {d : Date} {t : Time} {z : Zoned} {n width : Nat}
  {offset : Int} {u v : String}

/-! ## Moments that have a text -/

/-- A time of a day; a leap second ends a minute. -/
structure Time.Valid (t : Time) : Prop where
  seconds_lt : t.seconds < 86400
  nanos_lt : t.nanos < Time.billion ∨ t.seconds % 60 = 59 ∧ t.nanos < 2 * Time.billion

/-- A moment that the strict form can write. -/
structure Zoned.Writable (z : Zoned) : Prop where
  date : z.moment.date.Valid
  year_nonneg : 0 ≤ z.moment.date.year
  year_lt : z.moment.date.year < 10000
  time : z.moment.time.Valid
  minutes : (60 : Int) ∣ z.offset
  offset_le : z.offset.natAbs ≤ (23 * 60 + 59) * 60
  greenwich : (Moment.ofTimestamp? (z.moment.timestamp - z.offset) 0).isSome = true

/-! ## The moment of a stamp -/

namespace Stamp

variable {st : Stamp}

/-- The time of day; a leap second is within the second before it. -/
def time (st : Stamp) : Time :=
  ⟨st.hour * 3600 + st.minute * 60 + (if st.second = 60 then 59 else st.second),
    (if st.second = 60 then Time.billion else 0) + st.nano?.getD 0⟩

theorem time_fields (st : Stamp) : st.fields.time = .ok st.time := by
  have hhour : st.hour / 12 * 12 + st.hour % 12 = st.hour := by omega
  by_cases hs : st.second = 60 <;> cases hn : st.nano? <;>
    simp [Fields.time, Fields.needed, fields, timeFields, time, hhour, hs, hn, bind, Except.bind]

/-- No other field of a date is given. -/
theorem checked_fields (st : Stamp) (d : Date) :
    st.fields.checked (st.fields.fitsWeekDate d && st.fields.fitsOrdinal d) d = .ok d := by
  have hweek : st.fields.fitsWeekDate d = true := by
    simp [Fields.fitsWeekDate, Fields.fits, Fields.fitsCentury, fields, timeFields, dateFields]
  rw [hweek]
  rfl

theorem date_fields (st : Stamp) :
    st.fields.date = Fields.inRange (Date.ofMonthDay? st.year st.month st.day) := by
  show (Fields.inRange (Date.ofMonthDay? st.year st.month st.day) >>= fun d =>
    st.fields.checked (st.fields.fitsWeekDate d && st.fields.fitsOrdinal d) d) = _
  cases Fields.inRange (Date.ofMonthDay? st.year st.month st.day) with
  | error e => rfl
  | ok d => exact st.checked_fields d

theorem moment_fields {m : Moment} (st : Stamp) (offset : Int) :
    st.fields.moment offset = .ok m ↔
      ∃ d, Date.ofMonthDay? st.year st.month st.day = some d ∧ m = ⟨d, st.time⟩ := by
  rw [Fields.moment, date_fields, time_fields]
  cases Date.ofMonthDay? st.year st.month st.day with
  | none => simp [Fields.inRange, fields, timeFields, dateFields]
  | some d => simp [Fields.inRange, fields, timeFields, dateFields, eq_comm]

/-- The day of the stamp at its time of day is a moment if it is one in Greenwich too. -/
theorem zoned_fields (st : Stamp) :
    st.fields.zoned = .ok z ↔
      ∃ d, Date.ofMonthDay? st.year st.month st.day = some d ∧ z = ⟨⟨d, st.time⟩, st.offset⟩ ∧
        z.offset.natAbs < 86400 ∧
        (Moment.ofTimestamp? (z.moment.timestamp - z.offset) 0).isSome = true := by
  constructor
  · intro h
    obtain ⟨m, hm, h⟩ := bind_eq_ok (x := st.fields.moment st.offset) h
    obtain ⟨d, hd, rfl⟩ := (moment_fields st st.offset).mp hm
    split at h
    · cases h
    · rename_i hoffset
      split at h
      · rename_i hsome
        cases h
        exact ⟨d, hd, rfl, Nat.not_le.mp hoffset, by rw [hsome]; rfl⟩
      · cases h
  · rintro ⟨d, hd, rfl, hoffset, hsome⟩
    obtain ⟨m, hm⟩ := Option.isSome_iff_exists.mp hsome
    show (st.fields.moment st.offset >>= _) = _
    rw [(moment_fields st st.offset).mpr ⟨d, hd, rfl⟩]
    show (if st.offset.natAbs ≥ 86400 then _ else _) = _
    dsimp only at hm
    rw [if_neg (Nat.not_le.mpr hoffset), hm]

end Stamp

theorem Time.Valid.hour_lt (h : t.Valid) : t.hour < 24 := by
  have hseconds := h.seconds_lt
  unfold Time.hour
  omega

theorem Time.minute_lt (t : Time) : t.minute < 60 := Nat.mod_lt _ (by decide)

theorem Time.nano_lt (t : Time) : t.nano < Time.billion := Nat.mod_lt _ (by decide)

/-- The second is 60 exactly in a leap second. -/
theorem Time.Valid.second_spec (h : t.Valid) :
    t.second = t.seconds % 60 ∧ t.nano = t.nanos ∧ t.seconds % 60 < 60 ∨
      t.second = 60 ∧ t.seconds % 60 = 59 ∧ t.nanos = Time.billion + t.nano := by
  have hnanos := h.nanos_lt
  unfold Time.second Time.nano
  unfold Time.billion at hnanos ⊢
  omega

theorem Time.Valid.second_le (h : t.Valid) : t.second ≤ 60 := by
  rcases h.second_spec with ⟨hsecond, _, hlt⟩ | ⟨hsecond, _⟩ <;> omega

namespace Zoned

/-- The parts that the text of a moment writes. -/
def stamp (z : Zoned) : Stamp :=
  ⟨z.moment.date.year.toNat, z.moment.date.month, z.moment.date.day, z.moment.time.hour,
    z.moment.time.minute, z.moment.time.second,
    if z.moment.time.nano = 0 then none else some z.moment.time.nano, z.offset⟩

theorem nano_stamp (z : Zoned) : z.stamp.nano?.getD 0 = z.moment.time.nano := by
  unfold stamp
  dsimp only
  split <;> simp [*]

theorem Writable.time_stamp (h : z.Writable) : z.stamp.time = z.moment.time := by
  -- hour, minute and second of the clock lose nothing but whether the second is a leap second
  have hminute : z.stamp.hour * 3600 + z.stamp.minute * 60 + z.moment.time.seconds % 60 =
      z.moment.time.seconds := by
    show z.moment.time.seconds / 3600 * 3600 + z.moment.time.seconds / 60 % 60 * 60 + _ = _
    omega
  have hsecond : z.stamp.second = z.moment.time.second := rfl
  rw [Stamp.time, nano_stamp, hsecond]
  rcases h.time.second_spec with ⟨hs, hn, hlt⟩ | ⟨hs, hlast, hn⟩
  · rw [hs, hn, if_neg (by omega), if_neg (by omega), hminute, Nat.zero_add]
  · rw [hs, if_pos rfl, if_pos rfl, ← hn, ← hlast, hminute]

/-- The parts that are written of a moment give it back. -/
theorem Writable.zoned_stamp (h : z.Writable) : z.stamp.fields.zoned = .ok z := by
  have hyear : (z.stamp.year : Int) = z.moment.date.year := Int.toNat_of_nonneg h.year_nonneg
  have hoffset := h.offset_le
  refine z.stamp.zoned_fields.mpr
    ⟨z.moment.date, ?_, by rw [h.time_stamp]; rfl, by omega, h.greenwich⟩
  rw [hyear]
  exact h.date.ofMonthDay?

/-- What parts within bounds give can be written. -/
theorem writable_of_fields {st : Stamp} (hst : st.InBounds) (h : st.fields.zoned = .ok z) :
    z.Writable := by
  obtain ⟨d, hd, rfl, -, hgreenwich⟩ := st.zoned_fields.mp h
  obtain ⟨hvalid, hyear⟩ := Date.valid_of_ofMonthDay? hd
  have hyear_lt := hst.year_lt
  refine ⟨hvalid, ?_, ?_, ⟨?_, ?_⟩, hst.minutes, hst.offset_le, hgreenwich⟩
  · show 0 ≤ d.year
    omega
  · show d.year < 10000
    omega
  · have hhour := hst.hour_lt
    have hminute := hst.minute_lt
    have hsecond := hst.second_le
    show st.hour * 3600 + st.minute * 60 + (if st.second = 60 then 59 else st.second) < 86400
    split <;> omega
  · have hnano : st.nano?.getD 0 < Time.billion := by
      cases hn : st.nano? with
      | none => decide
      | some n => exact hst.nano_lt n hn
    show (if st.second = 60 then Time.billion else 0) + st.nano?.getD 0 < Time.billion ∨
      (st.hour * 3600 + st.minute * 60 + (if st.second = 60 then 59 else st.second)) % 60 = 59 ∧
        (if st.second = 60 then Time.billion else 0) + st.nano?.getD 0 < 2 * Time.billion
    split <;> omega

end Zoned

/-! ## Numbers read from what is written -/

theorem digits_zeroPad {least most : Nat} (hn : n < Nat.pow 10 width) (hw : 0 < width)
    (hleast : least ≤ width) (hmost : width ≤ most)
    (hstop : width = most ∨ Text.StopsAt Text.isDigit rest)
    (hsmall : Nat.pow 10 width ≤ Nat.pow 2 63) :
    digits least most ((Printer.zeroPad width n).toList ++ rest) = .ok (n, rest) := by
  have hlength := Text.length_padLeft_zero hn hw
  have hvalue : Text.digitsValue (Text.padLeft '0' width (toString n)).toList = n :=
    Text.digitsValue_padLeft_zero
  rw [Printer.zeroPad, digits_append (fun _ hc => Text.isDigit_of_mem_padLeft_zero hc)
    (by rwa [hlength]) (by rwa [hlength]) (by rwa [hlength])
    (by rw [hvalue]; exact Nat.lt_of_lt_of_le hn hsmall), hvalue]

theorem fixed_zeroPad (hn : n < Nat.pow 10 width) (hw : 0 < width)
    (hsmall : Nat.pow 10 width ≤ Nat.pow 2 63)
    (field : Numeric) (f : Fields) (rest : List Char) :
    fixed width field f ((Printer.zeroPad width n).toList ++ rest) =
      (store field f n >>= fun g => .ok (g, rest)) := by
  rw [fixed, digits_zeroPad hn hw (Nat.le_refl _) (Nat.le_refl _) (Or.inl rfl) hsmall]
  rfl

/-- A field of two digits. -/
theorem fixed_two (hn : n < 100) (field : Numeric) (f : Fields) (rest : List Char) :
    fixed 2 field f ((Printer.zeroPad 2 n).toList ++ rest) =
      (store field f n >>= fun g => .ok (g, rest)) :=
  fixed_zeroPad hn (by decide) (by decide) field f rest

theorem twoDigits?_zeroPad (hn : n < 100) (rest : List Char) :
    twoDigits? ((Printer.zeroPad 2 n).toList ++ rest) = some (n, rest) := by
  have hdigits : ∀ c ∈ (Printer.zeroPad 2 n).toList, Text.isDigit c = true :=
    fun _ hc => Text.isDigit_of_mem_padLeft_zero hc
  have hvalue : Text.digitsValue (Printer.zeroPad 2 n).toList = n := Text.digitsValue_padLeft_zero
  have hlength := Text.length_padLeft_zero (show n < Nat.pow 10 2 from hn) (by decide)
  obtain ⟨a, b, hab⟩ := List.length_eq_two.mp hlength
  rw [Printer.zeroPad, hab] at hdigits hvalue ⊢
  obtain ⟨ha, hb⟩ : Text.isDigit a = true ∧ Text.isDigit b = true := by simpa using hdigits
  simp [twoDigits?, ha, hb, hvalue]

theorem within_eq_ok {lo hi i : Int} (hl : lo ≤ i) (hu : i ≤ hi) :
    Fields.within lo hi i = .ok () := by
  rw [Fields.within, if_pos (by simp [hl, hu])]

/-! ## Dates -/

theorem year_eq_zeroPad {year : Int} (h₀ : 0 ≤ year) (hy : year < 10000) :
    Printer.year .zero year = Printer.zeroPad 4 year.toNat := by
  obtain ⟨n, rfl⟩ := Int.eq_ofNat_of_zero_le h₀
  have hfour : (!(decide ((0 : Int) ≤ n) && decide ((n : Int) < 10000))) = false := by simp [hy]
  have hneg : ¬ (n : Int) < 0 := by omega
  rw [Printer.year, hfour, Printer.wide, if_neg hneg]
  simp [Printer.zeroPad]

/-- A date of a year with four digits is read from its text. -/
theorem strictDate_date (hd : d.Valid) (h₀ : 0 ≤ d.year) (hy : d.year < 10000) (rest : List Char) :
    strictDate ((Printer.date d).toList ++ rest) =
      .ok ({ year := some d.year, month := some d.month, day := some d.day }, rest) := by
  have hmonth₁ := hd.one_le_month
  have hmonth₁₂ := hd.month_le
  have hday₁ := hd.one_le_day
  have hday₃₁ := hd.day_le
  have htext : (Printer.date d).toList ++ rest =
      (Printer.zeroPad 4 d.year.toNat).toList ++ '-' :: ((Printer.zeroPad 2 d.month).toList ++
        '-' :: ((Printer.zeroPad 2 d.day).toList ++ rest)) := by
    simp [Printer.date, year_eq_zeroPad h₀ hy]
  have hmax : Fields.maxYearField = 2147483647 := rfl
  have hmin : (Nat.pow 2 31 : Int) = 2147483648 := rfl
  have hyear := fixed_zeroPad (show d.year.toNat < Nat.pow 10 4 by show _ < 10000; omega) (by decide)
    (by decide)
  have hmonth := fixed_two (show d.month < 100 by omega)
  have hday := fixed_two (show d.day < 100 by omega)
  have hyears : Fields.within (-Nat.pow 2 31) Fields.maxYearField d.year = .ok () :=
    within_eq_ok (by omega) (by omega)
  have hmonths : Fields.within 1 12 d.month = .ok () := within_eq_ok (by omega) (by omega)
  have hdays : Fields.within 1 31 d.day = .ok () := within_eq_ok (by omega) (by omega)
  rw [htext, strictDate]
  simp only [bind, Except.bind, char, beq_self_eq_true, if_true, hyear, hmonth, hday, store,
    Fields.setYear, Fields.setMonth, Fields.setDay, Fields.agree, hyears, hmonths, hdays,
    Int.toNat_of_nonneg h₀, Int.toNat_natCast]

/-! ## Times -/

/-- A text that does not go on with a fraction or a digit of one. -/
def AfterFraction (s : List Char) : Prop := Text.StopsAt (fun c => c == '.' || Text.isDigit c) s

/-- Digits of a fraction in front of what is none are billionths. -/
theorem fraction_zeroPad {k nano : Nat} (hk : 0 < k ∧ k ≤ 9) (hn : nano < Nat.pow 10 k)
    (hstop : Text.StopsAt Text.isDigit rest) :
    fraction ((Printer.zeroPad k nano).toList ++ rest) = .ok (nano * Nat.pow 10 (9 - k), rest) := by
  have hsmall : Nat.pow 10 k ≤ Nat.pow 2 63 :=
    Nat.le_trans (Nat.pow_le_pow_right (by decide) hk.2) (by decide : Nat.pow 10 9 ≤ Nat.pow 2 63)
  have hlength : (Printer.zeroPad k nano).toList.length = k := Text.length_padLeft_zero hn hk.1
  have hrest : rest.dropWhile Text.isDigit = rest :=
    (Text.span_eq_iff.mpr ⟨rfl, List.forall_mem_nil _, hstop⟩).2
  rw [fraction, digits_zeroPad hn hk.1 hk.1 hk.2 (Or.inr hstop) hsmall]
  simp only [bind, Except.bind, List.length_append, hlength, Nat.add_sub_cancel, hrest]

theorem storeFraction_zeroPad {k m nano : Nat} (hf : f.nanosecond = none)
    (hn : nano < Time.billion) (hk : 0 < k ∧ k ≤ 9) (hm : m < Nat.pow 10 k)
    (hnano : m * Nat.pow 10 (9 - k) = nano) (hstop : Text.StopsAt Text.isDigit rest) :
    storeFraction f (("." ++ Printer.zeroPad k m).toList ++ rest) =
      .ok ({ f with nanosecond := some nano }, rest) := by
  have hpoint : ("." ++ Printer.zeroPad k m).toList ++ rest =
      '.' :: ((Printer.zeroPad k m).toList ++ rest) := by
    simp
  have hwithin : Fields.within 0 999999999 nano = .ok () :=
    within_eq_ok (by omega) (by unfold Time.billion at hn; omega)
  simp only [hpoint, storeFraction, fraction_zeroPad hk hm hstop, hnano, Fields.setNanosecond,
    hwithin, hf, Fields.agree, bind, Except.bind, Int.toNat_natCast]

/-- The digits that a fraction does not need are zeros. -/
theorem storeFraction_fraction {nano : Nat} (hf : f.nanosecond = none) (hn : nano < Time.billion)
    (hstop : AfterFraction rest) :
    storeFraction f ((Printer.fraction nano).toList ++ rest) =
      .ok ({ f with nanosecond := if nano = 0 then none else some nano }, rest) := by
  have hdigits : Text.StopsAt Text.isDigit rest :=
    fun c hc => (Bool.or_eq_false_iff.mp (hstop c hc)).2
  have hbound : nano < 1000000000 := hn
  by_cases hzero : nano = 0
  · subst hzero
    -- no fraction is written, and what follows must not be taken for one
    have hdot : ∀ tail, rest ≠ '.' :: tail := by
      rintro tail rfl
      exact absurd (hstop '.' rfl) (by decide)
    show storeFraction f rest = _
    unfold storeFraction
    split
    · exact absurd rfl (hdot _)
    · rw [if_pos rfl, ← hf]
  · rw [if_neg hzero, Printer.fraction, if_neg (by simpa using hzero)]
    split
    · rename_i hmod
      have hdvd : 1000000 ∣ nano := Nat.dvd_of_mod_eq_zero (by simpa using hmod)
      have hlt : nano / 1000000 < Nat.pow 10 3 := by
        show _ < 1000
        omega
      exact storeFraction_zeroPad hf hn (by decide) hlt (Nat.div_mul_cancel hdvd) hdigits
    · split
      · rename_i hmod
        have hdvd : 1000 ∣ nano := Nat.dvd_of_mod_eq_zero (by simpa using hmod)
        have hlt : nano / 1000 < Nat.pow 10 6 := by
          show _ < 1000000
          omega
        exact storeFraction_zeroPad hf hn (by decide) hlt (Nat.div_mul_cancel hdvd) hdigits
      · exact storeFraction_zeroPad hf hn (by decide) hn (Nat.mul_one nano) hdigits

/-- A time of day is read from its text behind a date. -/
theorem strictTime_time (ht : t.Valid) (hstop : AfterFraction rest) (year : Int)
    (month day : Nat) :
    strictTime { year := some year, month := some month, day := some day }
        ((Printer.time t).toList ++ rest) =
      .ok ({
        year := some year, month := some month, day := some day, half := some (t.hour / 12)
        hourOfHalf := some (t.hour % 12), minute := some t.minute, second := some t.second
        nanosecond := if t.nano = 0 then none else some t.nano }, rest) := by
  have hhour₂₄ := ht.hour_lt
  have hminute₆₀ := t.minute_lt
  have hsecond₆₀ := ht.second_le
  have htext : (Printer.time t).toList ++ rest =
      (Printer.zeroPad 2 t.hour).toList ++ ':' :: ((Printer.zeroPad 2 t.minute).toList ++
        ':' :: ((Printer.zeroPad 2 t.second).toList ++
          ((Printer.fraction t.nano).toList ++ rest))) := by
    simp [Printer.time]
  have hhour := fixed_two (show t.hour < 100 by omega)
  have hminute := fixed_two (show t.minute < 100 by omega)
  have hsecond := fixed_two (show t.second < 100 by omega)
  have hhours : Fields.within 0 23 t.hour = .ok () := within_eq_ok (by omega) (by omega)
  have hminutes : Fields.within 0 59 t.minute = .ok () := within_eq_ok (by omega) (by omega)
  have hseconds : Fields.within 0 60 t.second = .ok () := within_eq_ok (by omega) (by omega)
  rw [htext, strictTime]
  simp only [bind, Except.bind, char, beq_self_eq_true, if_true, hhour, hminute, hsecond, store,
    Fields.setHour, Fields.setMinute, Fields.setSecond, Fields.agree, hhours, hminutes, hseconds,
    Int.toNat_natCast]
  exact storeFraction_fraction rfl t.nano_lt hstop

/-! ## Offsets -/

/-- An offset is read from its sign, hours and minutes. -/
theorem offset_of_sign {c : Char} (hc : c = '+' ∨ c = '-') {hours minutes : Nat} (hh : hours < 100)
    (hm : minutes < 60) :
    Reader.offset strictOffset
        (c :: ((Printer.zeroPad 2 hours).toList ++ ':' :: (Printer.zeroPad 2 minutes).toList)) =
      .ok (if c == '+' then hours * 3600 + minutes * 60 else -(hours * 3600 + minutes * 60),
        []) := by
  have hhours := twoDigits?_zeroPad hh (':' :: (Printer.zeroPad 2 minutes).toList)
  have hminutes : twoDigits? (Printer.zeroPad 2 minutes).toList = some (minutes, []) := by
    simpa using twoDigits?_zeroPad (show minutes < 100 by omega) []
  rcases hc with rfl | rfl <;>
    simp [Reader.offset, strictOffset, offsetMinutes, char, hhours, hminutes, hm, bind, Except.bind]

/-- An offset other than zero is written as its sign, hours and minutes. -/
theorem toList_zone (h : offset ≠ 0) :
    (Printer.zone offset true).toList =
      (if offset < 0 then '-' else '+') :: ((Printer.zeroPad 2 (offset.natAbs / 3600)).toList ++
        ':' :: (Printer.zeroPad 2 (offset.natAbs / 60 % 60)).toList) := by
  have hcond : ¬ (true && offset == 0) = true := by simpa using h
  have hcolon : Printer.colonOffset offset =
      (if offset < 0 then "-" else "+") ++ Printer.zeroPad 2 (offset.natAbs / 3600) ++ ":" ++
        Printer.zeroPad 2 (offset.natAbs / 60 % 60) := rfl
  rw [Printer.zone, if_neg hcond, hcolon]
  split <;> simp

/-- An offset of whole minutes is read from its text. -/
theorem offset_zone (hdvd : (60 : Int) ∣ offset) (hle : offset.natAbs ≤ (23 * 60 + 59) * 60) :
    Reader.offset strictOffset (Printer.zone offset true).toList = .ok (offset, []) := by
  by_cases hzero : offset = 0
  · subst hzero
    rfl
  · -- whole minutes: the text has no place for what would be left
    obtain ⟨minutes, rfl⟩ := hdvd
    rw [toList_zone hzero, offset_of_sign (by split <;> simp) (by omega) (by omega)]
    split
    · have hneg : -(((60 * minutes).natAbs / 3600 : Nat) * 3600 +
          ((60 * minutes).natAbs / 60 % 60 : Nat) * 60 : Int) = 60 * minutes := by omega
      rw [if_neg (by decide), hneg]
    · have hpos : (((60 * minutes).natAbs / 3600 : Nat) * 3600 +
          ((60 * minutes).natAbs / 60 % 60 : Nat) * 60 : Int) = 60 * minutes := by omega
      rw [if_pos (by decide), hpos]

theorem strictZone_zone (hf : f.offset = none) (hdvd : (60 : Int) ∣ offset)
    (hle : offset.natAbs ≤ (23 * 60 + 59) * 60) :
    strictZone f (Printer.zone offset true).toList =
      .ok ({ f with offset := some offset }, []) := by
  rw [strictZone, offset_zone hdvd hle]
  show (if _ then _ else _) = _
  rw [if_neg (by omega), Fields.setOffset, hf]
  rfl

/-- An offset starts with a letter or a sign. -/
theorem afterFraction_zone (offset : Int) : AfterFraction (Printer.zone offset true).toList := by
  by_cases hzero : offset = 0
  · subst hzero
    exact Text.StopsAt.cons rfl
  · rw [toList_zone hzero]
    split <;> exact Text.StopsAt.cons rfl

/-! ## Texts without blanks -/

def Unbroken (s : String) : Prop := (s.toList.all fun c => !Text.isBlank c) = true

theorem Unbroken.isBlank_eq (h : Unbroken u) {c : Char} (hc : c ∈ u.toList) :
    Text.isBlank c = false := by
  simpa using List.all_eq_true.mp h c hc

theorem Unbroken.append (hu : Unbroken u) (hv : Unbroken v) : Unbroken (u ++ v) := by
  rw [Unbroken, String.toList_append, List.all_append, hu, hv]
  rfl

theorem unbroken_zeroPad (width n : Nat) : Unbroken (Printer.zeroPad width n) := by
  refine List.all_eq_true.mpr fun c hc => ?_
  rw [Text.isBlank_of_isDigit (Text.isDigit_of_mem_padLeft_zero hc)]
  rfl

theorem unbroken_fraction (nano : Nat) : Unbroken (Printer.fraction nano) := by
  have hpoint : ∀ k m, Unbroken ("." ++ Printer.zeroPad k m) := fun k m =>
    Unbroken.append rfl (unbroken_zeroPad k m)
  unfold Printer.fraction
  split
  · rfl
  · split
    · exact hpoint _ _
    · split <;> exact hpoint _ _

theorem unbroken_zone (offset : Int) : Unbroken (Printer.zone offset true) := by
  unfold Printer.zone
  split
  · rfl
  · have hsign : Unbroken (if offset < 0 then "-" else "+") := by split <;> rfl
    have hcolon : Unbroken ":" := rfl
    exact ((hsign.append (unbroken_zeroPad _ _)).append hcolon).append (unbroken_zeroPad _ _)

/-! ## Moments -/

namespace Zoned

theorem toList_text (z : Zoned) :
    z.text.toList = (Printer.date z.moment.date).toList ++
      'T' :: ((Printer.time z.moment.time).toList ++ (Printer.zone z.offset true).toList) := by
  simp [text, Printer.full]

theorem Writable.strict_text (h : z.Writable) : strict z.text.toList = .ok z.stamp.fields := by
  have hyear : (z.moment.date.year.toNat : Int) = z.moment.date.year :=
    Int.toNat_of_nonneg h.year_nonneg
  have hzone := strictZone_zone (f := z.stamp.timeFields) rfl h.minutes h.offset_le
  rw [toList_text, strict, strictDate_date h.date h.year_nonneg h.year_lt]
  simp only [stamp, Stamp.fields, Stamp.timeFields, Stamp.dateFields, hyear] at hzone ⊢
  simp only [bind, Except.bind, between, strictTime_time h.time (afterFraction_zone z.offset),
    hzone]

/-- A moment that can be written is read from its text. -/
theorem Writable.ofText?_text (h : z.Writable) : ofText? z.text.toList = some z := by
  rw [ofText?, h.strict_text]
  show (z.stamp.fields.zoned).toOption = _
  rw [h.zoned_stamp]
  rfl

/-- Only moments that can be written are read. -/
theorem writable_of_ofText? (h : ofText? s = some z) : z.Writable := by
  obtain ⟨f, hf, hz⟩ := bind_eq_ok (toOption_eq_some_iff.mp h)
  obtain ⟨st, hst, rfl⟩ := of_strict hf
  exact writable_of_fields hst hz

/-- There are no blanks to trim around the text. -/
theorem Writable.tight_text (h : z.Writable) : Text.Tight z.text.toList := by
  have hdash : Unbroken "-" := rfl
  have hcolon : Unbroken ":" := rfl
  have hletter : Unbroken "T" := rfl
  have hdate : Unbroken (Printer.date z.moment.date) := by
    rw [Printer.date, year_eq_zeroPad h.year_nonneg h.year_lt]
    exact ((((unbroken_zeroPad _ _).append hdash).append (unbroken_zeroPad _ _)).append
      hdash).append (unbroken_zeroPad _ _)
  have htime : Unbroken (Printer.time z.moment.time) :=
    (((((unbroken_zeroPad _ _).append hcolon).append (unbroken_zeroPad _ _)).append
      hcolon).append (unbroken_zeroPad _ _)).append (unbroken_fraction _)
  have htext : Unbroken z.text :=
    ((hdate.append hletter).append htime).append (unbroken_zone _)
  exact ⟨fun c hc => htext.isBlank_eq (List.mem_of_mem_head? hc),
    fun c hc => htext.isBlank_eq (List.mem_of_getLast? hc)⟩

/-! ### Years with a sign -/

theorem ofText?_cons {c : Char} (hc : Text.isDigit c = false) (s : List Char) :
    ofText? (c :: s) = none := by
  have hdigits : digits 4 4 (c :: s) = .error .malformed := by simp [digits, hc, malformed]
  rw [ofText?, strict, strictDate, fixed, hdigits]
  rfl

/-- Other years than those of four digits start with a sign. -/
theorem text_of_signed (h : z.moment.date.year < 0 ∨ 10000 ≤ z.moment.date.year) :
    ∃ c rest, z.text.toList = c :: rest ∧ (c = '-' ∨ c = '+') := by
  have hsigned :
      (!(decide (0 ≤ z.moment.date.year) && decide (z.moment.date.year < 10000))) = true := by
    simp only [Bool.not_eq_true', Bool.and_eq_false_iff, decide_eq_false_iff_not]
    omega
  obtain ⟨digits, hyear⟩ : ∃ digits, Printer.year .zero z.moment.date.year =
      (if z.moment.date.year < 0 then "-" else "+") ++ digits := by
    rw [Printer.year, hsigned]
    exact ⟨_, rfl⟩
  rw [toList_text, Printer.date, hyear]
  simp only [String.toList_append, List.append_assoc]
  split
  · exact ⟨'-', _, rfl, Or.inl rfl⟩
  · exact ⟨'+', _, rfl, Or.inr rfl⟩

end Zoned

end Recast.Calendar
