import Recast.Proofs.Path.Writing

/-!
# Canonical paths

A canonical path reads back as its selectors, also with further steps behind it. A path that
continues a canonical one is read in two parts, and either part may be exchanged.
-/

namespace Recast.Path

open Text Grammar

variable {s rest : List Char} {sel : Selector} {outer sels : List Selector}

/-- A text before which a step may end: it begins with another step, or there is nothing left. -/
def AtBreak (s : List Char) : Prop := ∀ c ∈ s.head?, c = '.' ∨ c = '['

theorem AtBreak.nil : AtBreak [] := by intro c hc; cases hc

theorem AtBreak.stopsAt (h : AtBreak s) : StopsAt isNameChar s := by
  intro c hc
  rcases h c hc with rfl | rfl <;> decide

theorem Grammar.Step.atBreak (h : Step s sels) (rest : List Char) : AtBreak (s ++ rest) := by
  intro c hc
  cases h with
  | bracket h =>
      obtain ⟨t, rfl⟩ := h.eq_cons
      cases hc
      exact Or.inr rfl
  | member h =>
      cases hc
      exact Or.inl rfl
  | descentMember h =>
      cases hc
      exact Or.inl rfl
  | descentBracket h =>
      cases hc
      exact Or.inl rfl

/-- The text of a step is one before which another step may end. -/
theorem atBreak_text (h : sel.IsStep) (rest : List Char) :
    AtBreak ((sel.text false).toList ++ rest) :=
  (step_text h).atBreak rest

theorem getLast?_text (h : sel.IsStep) :
    ∃ c, (sel.text false).toList.getLast? = some c ∧ isBlank c = false := by
  have hstep := step_text h
  cases hlast : (sel.text false).toList.getLast? with
  | none => exact absurd (List.getLast?_eq_none_iff.mp hlast) hstep.ne_nil
  | some c => exact ⟨c, rfl, hstep.last c hlast⟩

/-! ## Many steps -/

/-- The path from the document along some selectors, as it is written. -/
def written (sels : List Selector) : String := text ⟨.document, sels⟩

theorem selectorsText_append (h : ∀ s ∈ sels, s.IsStep) (more : List Selector) :
    selectorsText false (sels ++ more) = selectorsText false sels ++ selectorsText false more := by
  induction sels with
  | nil => simp [selectorsText]
  | cons sel sels ih =>
      have hsel := h sel (by simp)
      rw [List.cons_append, selectorsText_cons hsel, selectorsText_cons hsel,
        ih fun s hs => h s (by simp [hs]), String.append_assoc]

theorem atBreak_selectorsText (h : ∀ s ∈ sels, s.IsStep) (hr : AtBreak rest) :
    AtBreak ((selectorsText false sels).toList ++ rest) := by
  cases sels with
  | nil => simpa [selectorsText] using hr
  | cons sel sels =>
      have hsel := h sel (by simp)
      rw [selectorsText_cons hsel, String.toList_append, List.append_assoc]
      exact atBreak_text hsel _

/-- Canonical steps are read first, whatever steps follow them. -/
theorem readSteps_append (h : ∀ s ∈ sels, s.IsStep) (hr : AtBreak rest) :
    readSteps ((selectorsText false sels).toList ++ rest) = (readSteps rest).map (sels ++ ·) :=
  (Writable.of_forall h).steps.readSteps_append hr.stopsAt

/-- Where steps are read, a step may end before them. -/
theorem atBreak_of_readSteps (h : readSteps s = .ok sels) : AtBreak s := by
  cases steps_of_readSteps h with
  | nil => exact .nil
  | cons hstep _ => exact hstep.atBreak _

theorem Writable.atBreak (h : Writable sels) : AtBreak (selectorsText false sels).toList :=
  atBreak_of_readSteps (readSteps_eq_ok_iff.mpr h.steps)

theorem AtBreak.of_prefix {t : List Char} (h : AtBreak s) (ht : t <+: s) : AtBreak t := by
  obtain ⟨rest, rfl⟩ := ht
  cases t with
  | nil => exact .nil
  | cons c t => exact h

/-! ## Names that go on -/

theorem AtBreak.not_nameChar {c : Char} (h : AtBreak (c :: s)) : isNameChar c = false :=
  h.stopsAt c rfl

/-- Before a character of a name only a name can end, and the name goes on with it. -/
theorem Grammar.Step.goes_on {t : List Char} {c : Char} (h : Step t [sel])
    (hc : isNameChar c = true) (hread : readSteps (t ++ c :: rest) = .ok sels) :
    ∃ name more tail later, sel = .child name ∧ Name more ∧ c :: rest = more ++ tail ∧
      readSteps tail = .ok later ∧ sels = .child (name ++ String.ofList more) :: later := by
  -- What follows a step that ends here would have to begin with another step.
  have hends : ¬ ∃ first, step (t ++ c :: rest) = .ok (first, c :: rest) := by
    rintro ⟨first, hstep⟩
    rw [readSteps_of_step hstep] at hread
    obtain ⟨later, hlater, _⟩ := map_eq_ok hread
    rw [(atBreak_of_readSteps hlater).not_nameChar] at hc
    cases hc
  cases h with
  | bracket h => exact absurd ⟨_, step_bracket h _⟩ hends
  | @member s sel h =>
      cases h with
      | wildcard => exact absurd ⟨_, rfl⟩ hends
      | name h =>
          obtain ⟨hmore, hchars, hstop⟩ := span_eq_iff.mp
            ⟨(rfl : (c :: rest).takeWhile isNameChar = _), rfl⟩
          generalize (c :: rest).takeWhile isNameChar = more at *
          generalize (c :: rest).dropWhile isNameChar = tail at *
          have hne : more ≠ [] := by
            rintro rfl
            rw [List.nil_append] at hmore
            subst hmore
            rw [hstop c rfl] at hc
            cases hc
          have hname : Name (s ++ more) := by
            refine ⟨by simp [hne], fun d hd => ?_⟩
            rcases List.mem_append.mp hd with hd | hd
            · exact h.chars d hd
            · exact hchars d hd
          have hstep := step_member (.name hname) hstop
          rw [List.append_assoc, ← hmore] at hstep
          rw [List.cons_append, readSteps_of_step hstep] at hread
          obtain ⟨later, hlater, rfl⟩ := map_eq_ok hread
          refine ⟨_, more, tail, later, rfl, ⟨hne, hchars⟩, hmore, hlater, ?_⟩
          rw [String.ofList_append]
          rfl

/-- Behind a canonical path, either other steps are read, or the name that it ends with goes on. -/
theorem readSteps_behind (h : ∀ s ∈ outer, s.IsStep)
    (hread : readSteps ((selectorsText false outer).toList ++ rest) = .ok sels) :
    (∃ later, readSteps rest = .ok later ∧ sels = outer ++ later) ∨
      ∃ front name more tail later, outer = front ++ [.child name] ∧ Name more ∧
        rest = more ++ tail ∧ readSteps tail = .ok later ∧
        sels = front ++ .child (name ++ String.ofList more) :: later := by
  by_cases hr : StopsAt isNameChar rest
  · left
    rw [(Writable.of_forall h).steps.readSteps_append hr] at hread
    exact map_eq_ok hread
  · right
    obtain ⟨c, rest, rfl, hc⟩ : ∃ c t, rest = c :: t ∧ isNameChar c = true := by
      cases rest with
      | nil => exact absurd .nil hr
      | cons c t =>
          cases hc : isNameChar c with
          | false => exact absurd (.cons hc) hr
          | true => exact ⟨c, t, rfl, hc⟩
    rcases List.eq_nil_or_concat' outer with rfl | ⟨front, last, rfl⟩
    · rw [(atBreak_of_readSteps hread).not_nameChar] at hc
      cases hc
    · have hfront : ∀ s ∈ front, s.IsStep := fun s hs => h s (by simp [hs])
      have hlast : last.IsStep := h last (by simp)
      have hnil : selectorsText false [last] = last.text false := by
        rw [selectorsText_cons hlast, selectorsText, String.append_empty]
      rw [selectorsText_append hfront, hnil, String.toList_append, List.append_assoc,
        readSteps_append hfront (atBreak_text hlast _)] at hread
      obtain ⟨behind, hbehind, rfl⟩ := map_eq_ok hread
      obtain ⟨name, more, tail, later, rfl, hmore, htail, hlater, rfl⟩ :=
        (step_text hlast).goes_on hc hbehind
      exact ⟨front, name, more, tail, later, rfl, hmore, htail, hlater, rfl⟩

/-! ## Paths from the document -/

/-- A text that begins at the document is read as the steps behind its first character. -/
theorem parse_document_iff {path : String} {p : Path} (hs : path.toList = '$' :: s) :
    Path.parse path = .ok p ↔ ∃ sels, p = ⟨.document, sels⟩ ∧ readSteps (trimEnd s) = .ok sels := by
  rw [parse_eq_ok_iff, hs, trim_cons (by decide)]
  constructor
  · intro h
    cases h with
    | document h => exact ⟨_, rfl, readSteps_eq_ok_iff.mpr h⟩
  · rintro ⟨sels, rfl, h⟩
    exact .document (readSteps_eq_ok_iff.mp h)

/-! ## Texts that denote paths -/

/-- A text without surrounding blanks that reads as the path from the document along `sels`. -/
structure Denotes (path : String) (sels : List Selector) : Prop where
  parse_eq : Path.parse path = .ok ⟨.document, sels⟩
  tight : Tight path.toList

/-- Such a text begins at the document, and its steps are read to its end. -/
theorem denotes_iff {path : String} :
    Denotes path sels ↔
      ∃ s, path.toList = '$' :: s ∧ Tight ('$' :: s) ∧ readSteps s = .ok sels := by
  constructor
  · intro ⟨hp, ht⟩
    have he := parse_eq_ok_iff.mp hp
    rw [ht.trim_eq] at he
    generalize hs : path.toList = t at he ht
    cases he with
    | document h => exact ⟨_, rfl, ht, readSteps_eq_ok_iff.mpr h⟩
  · rintro ⟨s, hs, ht, hr⟩
    refine ⟨parse_eq_ok_iff.mpr ?_, hs ▸ ht⟩
    rw [hs, ht.trim_eq]
    exact .document (readSteps_eq_ok_iff.mp hr)

theorem written_toList (sels : List Selector) :
    (written sels).toList = '$' :: (selectorsText false sels).toList := by
  simp [written, text, Root.text]

/-- What can be written is denoted by its written form. -/
theorem Writable.denotes (h : Writable sels) : Denotes (written sels) sels :=
  ⟨parse_text_of_writable h, (@Writable.expression ⟨.document, sels⟩ h).tight⟩

/-- A canonical path reads back as its selectors. -/
theorem denotes_written (h : ∀ s ∈ sels, s.IsStep) : Denotes (written sels) sels :=
  (Writable.of_forall h).denotes

theorem tight_written (h : ∀ s ∈ sels, s.IsStep) : Tight (written sels).toList :=
  (denotes_written h).tight

theorem written_injective {sels' : List Selector} (h : ∀ s ∈ sels, s.IsStep)
    (h' : ∀ s ∈ sels', s.IsStep) (he : written sels = written sels') : sels = sels' := by
  have hread := (denotes_written h).parse_eq
  rw [he, (denotes_written h').parse_eq] at hread
  cases hread
  rfl

theorem written_append (h : ∀ s ∈ sels, s.IsStep) (more : List Selector) :
    written (sels ++ more) = written sels ++ selectorsText false more := by
  simp only [written, text, selectorsText_append h, String.append_assoc]

/-- A text that goes on behind a canonical path is read as the steps of both parts. -/
theorem parse_append_iff (h : ∀ s ∈ sels, s.IsStep) {tail : String} (hr : AtBreak tail.toList)
    {p : Path} :
    Path.parse (written sels ++ tail) = .ok p ↔
      ∃ later, p = ⟨.document, sels ++ later⟩ ∧
        Path.parse ("$" ++ tail) = .ok ⟨.document, later⟩ := by
  have hfront : (written sels ++ tail).toList =
      '$' :: ((selectorsText false sels).toList ++ tail.toList) := by
    rw [String.toList_append, written_toList, List.cons_append]
  have htail : ("$" ++ tail).toList = '$' :: tail.toList := by simp
  have hlast := (Writable.of_forall h).steps.last
  have hfirst := trimEnd_prefix tail.toList
  have hbreak : AtBreak (trimEnd tail.toList) := hr.of_prefix hfirst
  rw [parse_document_iff hfront, trimEnd_append hlast, readSteps_append h hbreak]
  constructor
  · rintro ⟨more, rfl, hread⟩
    obtain ⟨later, hlater, rfl⟩ := map_eq_ok hread
    exact ⟨later, rfl, (parse_document_iff htail).mpr ⟨later, rfl, hlater⟩⟩
  · rintro ⟨later, rfl, hread⟩
    obtain ⟨sels', hsels, hlater⟩ := (parse_document_iff htail).mp hread
    cases hsels
    exact ⟨sels ++ later, rfl, by rw [hlater]; rfl⟩

/-- What follows a canonical path denotes the steps that are left. -/
theorem denotes_append_iff (h : ∀ s ∈ sels, s.IsStep) {tail : String} (hr : AtBreak tail.toList)
    {more : List Selector} :
    Denotes (written sels ++ tail) more ↔
      ∃ later, more = sels ++ later ∧ Denotes ("$" ++ tail) later := by
  have hfront : (written sels ++ tail).toList =
      '$' :: ((selectorsText false sels).toList ++ tail.toList) := by
    rw [String.toList_append, written_toList, List.cons_append]
  have htail : ("$" ++ tail).toList = '$' :: tail.toList := by simp
  have hd : Tight ['$'] := ⟨by simp; decide, by simp; decide⟩
  have htight := tight_written h
  rw [written_toList] at htight
  -- Blanks are only lost at the far end, which is that of both texts.
  constructor
  · rintro ⟨hp, ht⟩
    obtain ⟨later, hmore, hl⟩ := (parse_append_iff h hr).mp hp
    cases hmore
    rw [hfront, ← List.cons_append] at ht
    exact ⟨later, rfl, hl, htail ▸ Tight.append hd (by simp) ht⟩
  · rintro ⟨later, rfl, hl, ht⟩
    refine ⟨(parse_append_iff h hr).mpr ⟨later, rfl, hl⟩, ?_⟩
    rw [htail] at ht
    rw [hfront, ← List.cons_append]
    exact Tight.append (a := ['$']) htight (by simp) ht

end Recast.Path
