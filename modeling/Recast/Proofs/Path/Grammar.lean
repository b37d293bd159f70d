import Recast.Path.Reader
import Recast.Proofs.Outcome
import Recast.Proofs.Text.Digits

/-!
# The grammar of paths

The relations of `Grammar` say which texts are parts of a path, and what they denote. Every reader
reads exactly the texts of its part, as far as they go: of a name or a number, no character is left.
-/

namespace Recast.Path

open Text

/-! ## Texts and what they denote -/

namespace Grammar

/-- A name without quotes. -/
structure Name (s : List Char) : Prop where
  ne_nil : s ≠ []
  chars : ∀ c ∈ s, isNameChar c = true

/-- What follows the opening quote of a name, and the name: it ends with the first quote of the kind,
and a backslash stands for the character behind it. -/
inductive Quoted (quote : Char) : List Char → List Char → Prop where
  | close : Quoted quote [quote] []
  | escaped (c : Char) {s n : List Char} (h : Quoted quote s n) :
      Quoted quote ('\\' :: c :: s) (c :: n)
  | plain {c : Char} {s n : List Char} (hb : c ≠ '\\') (hq : c ≠ quote) (h : Quoted quote s n) :
      Quoted quote (c :: s) (c :: n)

/-- Digits that write a position. -/
structure Numeral (s : List Char) (i : Nat) : Prop where
  ne_nil : s ≠ []
  digits : ∀ c ∈ s, isDigit c = true
  value_eq : digitsValue s = i
  lt_limit : i < indexLimit

/-- What stands in brackets. -/
inductive Content : List Char → Selector → Prop where
  | single {s n : List Char} (h : Quoted '\'' s n) : Content ('\'' :: s) (.child (String.ofList n))
  | double {s n : List Char} (h : Quoted '"' s n) : Content ('"' :: s) (.child (String.ofList n))
  | wildcard : Content ['*'] .wildcard
  | index {s : List Char} {i : Nat} (h : Numeral s i) : Content s (.index i)
  | fromEnd {s : List Char} {i : Nat} (h : Numeral s i) (hpos : 0 < i) :
      Content ('-' :: s) (.fromEnd i)

/-- A selector in brackets, with blanks around it. -/
inductive Bracketed : List Char → Selector → Prop where
  | mk {before s after : List Char} {sel : Selector} (hb : ∀ c ∈ before, isBlank c = true)
      (h : Content s sel) (ha : ∀ c ∈ after, isBlank c = true) :
      Bracketed ('[' :: (before ++ s ++ after ++ [']'])) sel

/-- What stands behind a point. -/
inductive Member : List Char → Selector → Prop where
  | name {s : List Char} (h : Name s) : Member s (.child (String.ofList s))
  | wildcard : Member ['*'] .wildcard

/-- A step: a selector, or a descent with the selector behind it. -/
inductive Step : List Char → List Selector → Prop where
  | member {s : List Char} {sel : Selector} (h : Member s sel) : Step ('.' :: s) [sel]
  | bracket {s : List Char} {sel : Selector} (h : Bracketed s sel) : Step s [sel]
  | descentMember {s : List Char} {sel : Selector} (h : Member s sel) :
      Step ('.' :: '.' :: s) [.descent, sel]
  | descentBracket {s : List Char} {sel : Selector} (h : Bracketed s sel) :
      Step ('.' :: '.' :: s) [.descent, sel]

/-- Steps, one behind the other. -/
inductive Steps : List Char → List Selector → Prop where
  | nil : Steps [] []
  | cons {s rest : List Char} {sels more : List Selector} (h : Step s sels)
      (hrest : Steps rest more) : Steps (s ++ rest) (sels ++ more)

/-- A whole path. -/
inductive Expression : List Char → Path → Prop where
  | document {s : List Char} {sels : List Selector} (h : Steps s sels) :
      Expression ('$' :: s) ⟨.document, sels⟩
  | current {s : List Char} {sels : List Selector} (h : Steps s sels) :
      Expression ('@' :: s) ⟨.current, sels⟩

end Grammar

open Grammar

variable {s t rest : List Char} {n : String} {sel : Selector} {sels : List Selector} {i : Nat}

/-! ## Characters -/

/-- The code points of blanks. -/
def blankPoints : List Nat := [
  0x9, 0xA, 0xB, 0xC, 0xD, 0x20, 0x85, 0xA0, 0x1680, 0x2000, 0x2001, 0x2002, 0x2003, 0x2004,
  0x2005, 0x2006, 0x2007, 0x2008, 0x2009, 0x200A, 0x2028, 0x2029, 0x202F, 0x205F, 0x3000]

theorem mem_blankPoints {c : Char} (h : isBlank c = true) : c.toNat ∈ blankPoints := by
  simp only [isBlank, Bool.or_eq_true, Bool.and_eq_true, decide_eq_true_eq, beq_iff_eq] at h
  simp only [blankPoints, List.mem_cons, List.not_mem_nil, or_false]
  omega

theorem blankPoints_not_nameChar : ∀ n ∈ blankPoints, isNameChar (Char.ofNat n) = false := by
  decide +kernel

theorem isBlank_of_isNameChar {c : Char} (h : isNameChar c = true) : isBlank c = false := by
  cases hb : isBlank c with
  | false => rfl
  | true =>
      have hc := blankPoints_not_nameChar _ (mem_blankPoints hb)
      rw [Char.ofNat_toNat, h] at hc
      cases hc

theorem isNameChar_of_isDigit {c : Char} (h : isDigit c = true) : isNameChar c = true := by
  have hc : c.toNat < 128 := by
    simp only [isDigit, Bool.and_eq_true, decide_eq_true_eq] at h
    exact Nat.lt_of_le_of_lt (UInt32.le_iff_toNat_le.mp h.2) (by decide)
  have hd : c.isDigit = true := h
  simp [isNameChar, isAlphanumeric, isNumeric, hc, hd]

theorem isDigit_of_isBlank {c : Char} (h : isBlank c = true) : isDigit c = false := by
  cases hd : isDigit c with
  | false => rfl
  | true =>
      rw [isBlank_of_isNameChar (isNameChar_of_isDigit hd)] at h
      cases h

/-! ## Names -/

theorem name_append (hn : Name s) (hr : StopsAt isNameChar rest) :
    name (s ++ rest) = .ok (String.ofList s, rest) := by
  obtain ⟨ht, hd⟩ := span_eq_iff.mpr ⟨rfl, hn.chars, hr⟩
  rw [name, ht, hd]
  cases s with
  | nil => exact absurd rfl hn.ne_nil
  | cons c s => rfl

theorem name_eq_ok (h : name s = .ok (n, rest)) :
    ∃ t, s = t ++ rest ∧ Name t ∧ StopsAt isNameChar rest ∧ n = String.ofList t := by
  unfold name at h
  split at h
  · cases h
  · rename_i hne
    cases h
    obtain ⟨hs, hchars, hstop⟩ := span_eq_iff.mp ⟨rfl, rfl⟩
    exact ⟨_, hs, ⟨hne, hchars⟩, hstop, rfl⟩

theorem quotedName_append {quote : Char} {m : List Char} (hq : quote ≠ '\\') (h : Quoted quote t m)
    (done rest : List Char) :
    quotedName quote done (t ++ rest) = .ok (String.ofList (done.reverse ++ m), rest) := by
  induction h generalizing done with
  | close =>
      rw [List.singleton_append, quotedName.eq_4 _ _ _ _ hq]
      simp
  | escaped c h ih =>
      show quotedName quote (c :: done) (_ ++ rest) = _
      rw [ih]
      simp
  | @plain c s n hb hc h ih =>
      rw [List.cons_append, quotedName.eq_4 _ _ _ _ hb, if_neg (by simpa using hc), ih]
      simp

theorem quotedName_eq_ok {quote : Char} {done : List Char}
    (h : quotedName quote done s = .ok (n, rest)) :
    ∃ t m, s = t ++ rest ∧ Quoted quote t m ∧ n = String.ofList (done.reverse ++ m) := by
  fun_induction quotedName quote done s with
  | case1 => cases h
  | case2 => cases h
  | case3 done c s ih =>
      obtain ⟨t, m, rfl, hm, rfl⟩ := ih h
      exact ⟨'\\' :: c :: t, c :: m, rfl, .escaped c hm, by simp⟩
  | case4 done c s hb hc =>
      cases h
      obtain rfl : c = quote := by simpa using hc
      exact ⟨[c], [], rfl, .close, by simp⟩
  | case5 done c s hb hc ih =>
      obtain ⟨t, m, rfl, hm, rfl⟩ := ih h
      exact ⟨c :: t, c :: m, rfl, .plain hb (by simpa using hc) hm, by simp⟩

/-! ## Positions -/

theorem Grammar.Numeral.natural?_eq (h : Numeral s i) : natural? s = some i :=
  natural?_eq_some_iff.mpr ⟨h.ne_nil, h.digits, h.value_eq⟩

theorem digits_append (h : Numeral s i) (hr : StopsAt isDigit rest) :
    digits (s ++ rest) = .ok (i, rest) := by
  obtain ⟨ht, hd⟩ := span_eq_iff.mpr ⟨rfl, h.digits, hr⟩
  rw [digits, ht, hd, h.natural?_eq]
  dsimp only
  rw [if_pos h.lt_limit]

theorem digits_eq_ok (h : digits s = .ok (i, rest)) :
    ∃ t, s = t ++ rest ∧ Numeral t i ∧ StopsAt isDigit rest := by
  unfold digits at h
  split at h
  · rename_i j hj
    split at h
    · rename_i hlt
      cases h
      obtain ⟨hne, hdigits, hvalue⟩ := natural?_eq_some_iff.mp hj
      obtain ⟨hs, _, hstop⟩ := span_eq_iff.mp ⟨rfl, rfl⟩
      exact ⟨_, hs, ⟨hne, hdigits, hvalue, hlt⟩, hstop⟩
    · cases h
  · cases h

theorem Grammar.Numeral.eq_cons (h : Numeral s i) : ∃ c t, s = c :: t ∧ isDigit c = true := by
  cases s with
  | nil => exact absurd rfl h.ne_nil
  | cons c t => exact ⟨c, t, rfl, h.digits c (by simp)⟩

theorem position_index (h : Numeral s i) (hr : StopsAt isDigit rest) :
    position (s ++ rest) = .ok (.index i, rest) := by
  have hread := digits_append h hr
  obtain ⟨c, t, rfl, hc⟩ := h.eq_cons
  rw [List.cons_append] at hread ⊢
  rw [position.eq_2, hread]
  · rfl
  · intro _ he
    rw [(List.cons.inj he).1] at hc
    exact absurd hc (by decide)

theorem position_fromEnd (h : Numeral s i) (hpos : 0 < i) (hr : StopsAt isDigit rest) :
    position ('-' :: (s ++ rest)) = .ok (.fromEnd i, rest) := by
  have hne : (i == 0) = false := by simpa using Nat.ne_of_gt hpos
  rw [position.eq_1, digits_append h hr]
  dsimp only [bind, Except.bind]
  rw [hne]
  rfl

theorem position_eq_ok (h : position s = .ok (sel, rest)) :
    ∃ t, s = t ++ rest ∧ Content t sel ∧ StopsAt isDigit rest := by
  unfold position at h
  split at h
  · obtain ⟨⟨i, u⟩, hi, h⟩ := bind_eq_ok h
    obtain ⟨t, rfl, ht, hstop⟩ := digits_eq_ok hi
    dsimp only at h
    split at h
    · cases h
    · rename_i hne
      cases h
      exact ⟨'-' :: t, rfl, .fromEnd ht (Nat.pos_of_ne_zero (by simpa using hne)), hstop⟩
  · obtain ⟨⟨i, u⟩, hi, h⟩ := bind_eq_ok h
    cases h
    obtain ⟨t, rfl, ht, hstop⟩ := digits_eq_ok hi
    exact ⟨t, rfl, .index ht, hstop⟩

/-! ## Brackets -/

theorem skipBlanks_append {blanks : List Char} (hb : ∀ c ∈ blanks, isBlank c = true)
    (hr : StopsAt isBlank rest) : skipBlanks (blanks ++ rest) = rest :=
  (span_eq_iff.mpr ⟨rfl, hb, hr⟩).2

theorem exists_blanks (s : List Char) :
    ∃ blanks, s = blanks ++ skipBlanks s ∧ ∀ c ∈ blanks, isBlank c = true :=
  ⟨_, List.takeWhile_append_dropWhile.symm, List.all_eq_true.mp List.all_takeWhile⟩

theorem close_append {after : List Char} (ha : ∀ c ∈ after, isBlank c = true) (sel : Selector)
    (rest : List Char) : close sel (after ++ ']' :: rest) = .ok (sel, rest) := by
  have hr : StopsAt isBlank (']' :: rest) := .cons (by decide)
  rw [close, skipBlanks_append ha hr]
  rfl

theorem close_eq_ok {sel' : Selector} (h : close sel' s = .ok (sel, rest)) :
    sel = sel' ∧ ∃ after, s = after ++ ']' :: rest ∧ ∀ c ∈ after, isBlank c = true := by
  obtain ⟨after, hs, ha⟩ := exists_blanks s
  unfold close at h
  split at h
  · rename_i hclose
    cases h
    exact ⟨rfl, after, hclose ▸ hs, ha⟩
  · cases h

/-- A sign or a digit begins a position. -/
theorem bracket_position {c : Char} (hc : c = '-' ∨ isDigit c = true) (s : List Char) :
    bracket (c :: s) = position (c :: s) >>= fun (sel, s) => close sel s := by
  have hn : isNameChar c = true := by
    rcases hc with rfl | hc
    · decide
    · exact isNameChar_of_isDigit hc
  have hs : skipBlanks (c :: s) = c :: s := by simp [skipBlanks, isBlank_of_isNameChar hn]
  have hne : ∀ d, isNameChar d = false → c ≠ d := by
    rintro d hd rfl
    rw [hn] at hd
    cases hd
  unfold bracket
  rw [hs]
  split
  · rename_i h
    exact absurd (List.cons.inj h).1 (hne _ (by decide))
  · rename_i h
    exact absurd (List.cons.inj h).1 (hne _ (by decide))
  · rename_i h
    exact absurd (List.cons.inj h).1 (hne _ (by decide))
  · rename_i h
    obtain ⟨rfl, rfl⟩ := List.cons.inj h
    have hif : (c == '-' || isDigit c) = true := by simpa using hc
    rw [if_pos hif]
  · rename_i h
    cases h

/-- What stands in brackets does not begin with a blank. -/
theorem Grammar.Content.stopsAt (h : Content s sel) (rest : List Char) :
    StopsAt isBlank (s ++ rest) := by
  cases h with
  | single h => exact .cons (by decide)
  | double h => exact .cons (by decide)
  | wildcard => exact .cons (by decide)
  | fromEnd h hpos => exact .cons (by decide)
  | index h =>
      obtain ⟨c, t, rfl, hc⟩ := h.eq_cons
      exact .cons (isBlank_of_isNameChar (isNameChar_of_isDigit hc))

theorem bracket_skipBlanks (s : List Char) : bracket (skipBlanks s) = bracket s := by
  have hs : skipBlanks (skipBlanks s) = skipBlanks s :=
    @skipBlanks_append (skipBlanks s) [] (by simp) (span_eq_iff.mp ⟨rfl, rfl⟩).2.2
  unfold bracket
  rw [hs]

/-- Whether a selector is written with digits. -/
def Selector.isNumbered : Selector → Bool
  | index _ | fromEnd _ => true
  | _ => false

/-- What stands in brackets is read up to where it ends, and then the bracket is to be closed. -/
theorem bracket_eq_close (h : Content s sel)
    (hr : sel.isNumbered = true → StopsAt isDigit rest) :
    bracket (s ++ rest) = close sel rest := by
  cases h with
  | single h =>
      show (quotedName '\'' [] (_ ++ _) >>= fun r => close (.child r.1) r.2) = _
      rw [quotedName_append (by decide) h]
      rfl
  | double h =>
      show (quotedName '"' [] (_ ++ _) >>= fun r => close (.child r.1) r.2) = _
      rw [quotedName_append (by decide) h]
      rfl
  | wildcard => rfl
  | index h =>
      have hread := position_index h (hr rfl)
      obtain ⟨c, t, rfl, hc⟩ := h.eq_cons
      rw [List.cons_append] at hread ⊢
      rw [bracket_position (Or.inr hc), hread]
      rfl
  | fromEnd h hpos =>
      rw [List.cons_append, bracket_position (Or.inl rfl), position_fromEnd h hpos (hr rfl)]
      rfl

theorem bracket_content (h : Content s sel) {after : List Char}
    (ha : ∀ c ∈ after, isBlank c = true) (rest : List Char) :
    bracket (s ++ (after ++ ']' :: rest)) = .ok (sel, rest) := by
  -- Digits are followed by a blank or the closing bracket.
  have hstop : StopsAt isDigit (after ++ ']' :: rest) := by
    cases after with
    | nil => exact .cons (by decide)
    | cons c after => exact .cons (isDigit_of_isBlank (ha c (by simp)))
  rw [bracket_eq_close h fun _ => hstop, close_append ha]

theorem bracket_append (h : Bracketed s sel) (rest : List Char) :
    ∃ t, s ++ rest = '[' :: t ∧ bracket t = .ok (sel, rest) := by
  cases h with
  | @mk before s after sel hb h ha =>
      refine ⟨before ++ (s ++ (after ++ ']' :: rest)), by simp, ?_⟩
      rw [← bracket_skipBlanks, skipBlanks_append hb (h.stopsAt _)]
      exact bracket_content h ha rest

theorem bracket_eq_ok (h : bracket s = .ok (sel, rest)) :
    ∃ t, s = t ++ rest ∧ Bracketed ('[' :: t) sel := by
  obtain ⟨before, hs, hb⟩ := exists_blanks s
  -- Whatever is read behind the blanks, the bracket is closed after it.
  have hmk : ∀ {u v sel'}, skipBlanks s = u ++ v → Content u sel' → close sel' v = .ok (sel, rest) →
      ∃ t, s = t ++ rest ∧ Bracketed ('[' :: t) sel := by
    intro u v sel' hu hcontent hclose
    obtain ⟨rfl, after, rfl, ha⟩ := close_eq_ok hclose
    refine ⟨before ++ u ++ after ++ [']'], ?_, .mk hb hcontent ha⟩
    rw [hs, hu]
    simp
  unfold bracket at h
  split at h
  · rename_i hquote
    obtain ⟨⟨n, u⟩, hn, h⟩ := bind_eq_ok h
    obtain ⟨t, m, rfl, hm, rfl⟩ := quotedName_eq_ok hn
    exact hmk (u := '\'' :: t) hquote (.single hm) h
  · rename_i hquote
    obtain ⟨⟨n, u⟩, hn, h⟩ := bind_eq_ok h
    obtain ⟨t, m, rfl, hm, rfl⟩ := quotedName_eq_ok hn
    exact hmk (u := '"' :: t) hquote (.double hm) h
  · rename_i hstar
    exact hmk (u := ['*']) hstar .wildcard h
  · rename_i hcons
    split at h
    · obtain ⟨⟨sel', u⟩, hread, h⟩ := bind_eq_ok h
      obtain ⟨t, ht, hcontent, _⟩ := position_eq_ok hread
      exact hmk (hcons.trans ht) hcontent h
    · cases h
  · cases h

/-! ## Steps -/

theorem afterPoint_append (h : Member s sel) (hr : StopsAt isNameChar rest) :
    afterPoint (s ++ rest) = .ok (sel, rest) := by
  cases h with
  | wildcard => rfl
  | name h =>
      have hread := name_append h hr
      cases s with
      | nil => exact absurd rfl h.ne_nil
      | cons c s =>
          have hc := h.chars c (by simp)
          rw [List.cons_append] at hread ⊢
          rw [afterPoint.eq_2, hread]
          · rfl
          · intro _ he
            rw [(List.cons.inj he).1] at hc
            exact absurd hc (by decide)

/-- What stands behind a point is read alike before every text with the same first character. -/
theorem afterPoint_eq_ok (h : afterPoint s = .ok (sel, rest)) :
    ∃ t, s = t ++ rest ∧ Member t sel ∧
      ∀ x, x.head? = rest.head? → afterPoint (t ++ x) = .ok (sel, x) := by
  unfold afterPoint at h
  split at h
  · cases h
    exact ⟨['*'], rfl, .wildcard, fun _ _ => rfl⟩
  · obtain ⟨⟨n, u⟩, hn, h⟩ := bind_eq_ok h
    obtain ⟨t, rfl, ht, hstop, rfl⟩ := name_eq_ok hn
    cases h
    exact ⟨t, rfl, .name ht, fun x hx => afterPoint_append (.name ht) (hstop.of_head? hx)⟩

/-- What stands behind a point begins with neither a point nor a bracket. -/
theorem Grammar.Member.eq_cons (h : Member s sel) : ∃ c t, s = c :: t ∧ c ≠ '.' ∧ c ≠ '[' := by
  cases h with
  | wildcard => exact ⟨'*', [], rfl, by decide, by decide⟩
  | name h =>
      cases s with
      | nil => exact absurd rfl h.ne_nil
      | cons c s =>
          have hc := h.chars c (by simp)
          refine ⟨c, s, rfl, ?_, ?_⟩
          · rintro rfl
            exact absurd hc (by decide)
          · rintro rfl
            exact absurd hc (by decide)

theorem step_of_afterPoint (h : Member s sel) (hread : afterPoint (s ++ rest) = .ok (sel, rest)) :
    step ('.' :: (s ++ rest)) = .ok ([sel], rest) ∧
      step ('.' :: '.' :: (s ++ rest)) = .ok ([.descent, sel], rest) := by
  obtain ⟨c, t, rfl, hpoint, hbracket⟩ := h.eq_cons
  rw [List.cons_append] at hread ⊢
  constructor
  · rw [step.eq_3, hread]
    · rfl
    · intro _ he
      exact hpoint (List.cons.inj he).1
    · intro _ he
      exact hpoint (List.cons.inj he).1
  · rw [step.eq_2, hread]
    · rfl
    · intro _ he
      exact hbracket (List.cons.inj he).1

theorem step_member (h : Member s sel) (hr : StopsAt isNameChar rest) :
    step ('.' :: (s ++ rest)) = .ok ([sel], rest) :=
  (step_of_afterPoint h (afterPoint_append h hr)).1

theorem step_descentMember (h : Member s sel) (hr : StopsAt isNameChar rest) :
    step ('.' :: '.' :: (s ++ rest)) = .ok ([.descent, sel], rest) :=
  (step_of_afterPoint h (afterPoint_append h hr)).2

theorem step_bracket (h : Bracketed s sel) (rest : List Char) :
    step (s ++ rest) = .ok ([sel], rest) := by
  obtain ⟨t, ht, hread⟩ := bracket_append h rest
  rw [ht, step.eq_4, hread]
  rfl

/-- A step is read from a text of the grammar, and alike before every text with the same first
character, apart from a descent before a bracket, which is left to the next step. -/
theorem step_eq_ok (h : step s = .ok (sels, rest)) :
    (∃ t, s = t ++ rest ∧ Step t sels ∧
        ∀ x, x.head? = rest.head? → step (t ++ x) = .ok (sels, x)) ∨
      sels = [.descent] ∧ s = '.' :: '.' :: rest ∧ rest.head? = some '[' := by
  unfold step at h
  split at h
  · cases h
    exact Or.inr ⟨rfl, rfl, rfl⟩
  · obtain ⟨⟨sel, u⟩, hread, h⟩ := bind_eq_ok h
    cases h
    obtain ⟨t, rfl, ht, hnext⟩ := afterPoint_eq_ok hread
    exact Or.inl ⟨'.' :: '.' :: t, rfl, .descentMember ht, fun x hx =>
      (step_of_afterPoint ht (hnext x hx)).2⟩
  · obtain ⟨⟨sel, u⟩, hread, h⟩ := bind_eq_ok h
    cases h
    obtain ⟨t, rfl, ht, hnext⟩ := afterPoint_eq_ok hread
    exact Or.inl ⟨'.' :: t, rfl, .member ht, fun x hx => (step_of_afterPoint ht (hnext x hx)).1⟩
  · obtain ⟨⟨sel, u⟩, hread, h⟩ := bind_eq_ok h
    cases h
    obtain ⟨t, rfl, ht⟩ := bracket_eq_ok hread
    exact Or.inl ⟨'[' :: t, rfl, .bracket ht, fun x _ => step_bracket ht x⟩
  · cases h

end Recast.Path
