import Recast.Proofs.Path.Reading

/-!
# Where reading stops

A text that is no path is refused at the right place: what stands before the place begins some path,
and a character that is reported there cannot stand there in any path.
-/

namespace Recast.Path

open Text Grammar

variable {α β : Type} {read : List Char → Except Stop α} {read' : List Char → Except Stop β}
variable {IsText IsText' : List Char → Prop} {s t rest : List Char} {e : Stop}
variable {sel : Selector} {sels : List Selector} {p : Path}

/-- A reader stopped at the right place: what it has read begins a text of some kind, and if it
reports the next character, it stops there whatever stands behind that. -/
def Pinpoints (read : List Char → Except Stop α) (IsText : List Char → Prop) (s : List Char)
    (e : Stop) : Prop :=
  ∃ before, s = before ++ e.rest ∧ (∃ more, IsText (before ++ more)) ∧
    (e.problem.isSyntax = true → ∀ c rest, e.rest = c :: rest →
      ∀ other, read (before ++ c :: other) = .error ⟨e.problem, c :: other⟩)

/-- A reader that goes on with another one, behind what it has read, stops where that one does. -/
theorem Pinpoints.lift (h : Pinpoints read IsText s e) (first : List Char)
    (hread : ∀ x e', x.head? = s.head? → read x = .error e' → read' (first ++ x) = .error e')
    (htext : ∀ t, IsText t → ∃ more, IsText' (first ++ t ++ more)) :
    Pinpoints read' IsText' (first ++ s) e := by
  obtain ⟨before, rfl, ⟨more, hmore⟩, hstop⟩ := h
  obtain ⟨last, hlast⟩ := htext _ hmore
  refine ⟨first ++ before, by simp, ⟨more ++ last, by simpa using hlast⟩, ?_⟩
  intro hkind c rest hrest other
  rw [List.append_assoc]
  refine hread _ _ ?_ (hstop hkind c rest hrest other)
  rw [hrest]
  cases before <;> rfl

/-! ## Names -/

theorem name_stop (h : name s = .error e) : Pinpoints name Name s e := by
  unfold name at h
  split at h
  · rename_i hnone
    cases h
    have hmore : Name ['a'] := ⟨by simp, List.forall_mem_singleton.mpr rfl⟩
    refine ⟨[], rfl, ⟨['a'], hmore⟩, fun _ c rest hs other => ?_⟩
    change s = c :: rest at hs
    subst hs
    have hc : isNameChar c = false := by
      by_contra hc
      rw [List.takeWhile_cons_of_pos (by simpa using hc)] at hnone
      cases hnone
    show name (c :: other) = _
    rw [name, List.takeWhile_cons_of_neg (by simp [hc])]
    rfl
  · cases h

theorem afterPoint_stop (h : afterPoint s = .error e) :
    Pinpoints afterPoint (fun t => ∃ sel, Member t sel) s e := by
  unfold afterPoint at h
  split at h
  · cases h
  · rename_i hstar
    have hname : name s = .error e := by
      rcases bind_eq_error h with h | ⟨_, _, h⟩
      · exact h
      · cases h
    refine (name_stop hname).lift [] (fun x e' hx he => ?_) fun t ht =>
      ⟨[], _, .name (by simpa using ht)⟩
    have hx' : ∀ u, x ≠ '*' :: u := by
      rintro u rfl
      cases s with
      | nil => cases hx
      | cons c s => exact hstar s (by cases hx; rfl)
    rw [List.nil_append, afterPoint.eq_2 _ hx', he]
    rfl

/-- A quoted name is read until the text ends. -/
theorem quotedName_stop {quote : Char} {done : List Char} (h : quotedName quote done s = .error e) :
    e.rest = [] ∧ e.problem.isSyntax = false ∧ ∃ more n, Quoted quote (s ++ more) n := by
  fun_induction quotedName quote done s with
  | case1 =>
      cases h
      exact ⟨rfl, rfl, [quote], [], .close⟩
  | case2 =>
      cases h
      exact ⟨rfl, rfl, ['a', quote], ['a'], .escaped 'a' .close⟩
  | case3 done c s ih =>
      obtain ⟨hrest, hkind, more, n, hn⟩ := ih h
      exact ⟨hrest, hkind, more, c :: n, .escaped c hn⟩
  | case4 => cases h
  | case5 done c s hb hc ih =>
      obtain ⟨hrest, hkind, more, n, hn⟩ := ih h
      exact ⟨hrest, hkind, more, c :: n, .plain hb (by simpa using hc) hn⟩

theorem pinpoints_quotedName {quote : Char} {done : List Char}
    (h : quotedName quote done s = .error e) :
    Pinpoints (quotedName quote done) (fun t => ∃ n, Quoted quote t n) s e := by
  obtain ⟨hrest, hkind, hmore⟩ := quotedName_stop h
  exact ⟨s, by simp [hrest], hmore, by simp [hkind]⟩

/-! ## Positions -/

theorem digits_stop (h : digits s = .error e) : e = ⟨.badIndex, s⟩ := by
  unfold digits at h
  split at h
  · split at h
    · cases h
    · cases h
      rfl
  · cases h
    rfl

theorem position_stop (h : position s = .error e) :
    Pinpoints position (fun t => ∃ sel, Content t sel) s e := by
  have hone : Numeral ['1'] 1 := ⟨by simp, List.forall_mem_singleton.mpr rfl, by decide, by decide⟩
  unfold position at h
  split at h
  · rename_i s
    have he : e.rest = s ∧ e.problem.isSyntax = false := by
      rcases bind_eq_error h with h | ⟨⟨i, u⟩, _, h⟩
      · rw [digits_stop h]
        exact ⟨rfl, rfl⟩
      · dsimp only at h
        split at h
        · cases h
          exact ⟨rfl, rfl⟩
        · cases h
    exact ⟨['-'], by simp [he.1], ⟨['1'], _, .fromEnd hone (by decide)⟩, by simp [he.2]⟩
  · have he : e = ⟨.badIndex, s⟩ := by
      rcases bind_eq_error h with h | ⟨_, _, h⟩
      · exact digits_stop h
      · cases h
    subst he
    exact ⟨[], rfl, ⟨['1'], _, .index hone⟩, nofun⟩

/-! ## Brackets -/

theorem close_stop (h : close sel s = .error e) :
    Pinpoints (close sel) (fun t => ∃ after, (∀ c ∈ after, isBlank c = true) ∧ t = after ++ [']'])
      s e := by
  obtain ⟨blanks, hs, hb⟩ := exists_blanks s
  unfold close at h
  split at h
  · cases h
  · rename_i hopen
    cases h
    refine ⟨blanks, hs, ⟨[']'], blanks, hb, rfl⟩, fun _ c rest hrest other => ?_⟩
    change skipBlanks s = c :: rest at hrest
    have hc : StopsAt isBlank (c :: other) := by
      have hstop : StopsAt isBlank (skipBlanks s) := (span_eq_iff.mp ⟨rfl, rfl⟩).2.2
      exact hstop.of_head? (by rw [hrest]; rfl)
    unfold close
    rw [skipBlanks_append hb hc]
    split
    · rename_i heq
      cases heq
      exact absurd hrest (hopen rest)
    · rfl

/-- What stands behind an opening bracket, up to the closing one. -/
def Enclosed (s : List Char) : Prop := ∃ sel, Bracketed ('[' :: s) sel

theorem Grammar.Content.enclosed (h : Content s sel) {after : List Char}
    (ha : ∀ c ∈ after, isBlank c = true) : Enclosed (s ++ after ++ [']']) :=
  ⟨sel, @Bracketed.mk [] s after sel (by simp) h ha⟩

theorem Grammar.Content.enclosed_tight (h : Content s sel) : Enclosed (s ++ [']']) := by
  simpa using @Grammar.Content.enclosed s sel h [] (by simp)

theorem Enclosed.blanks {before : List Char} (hb : ∀ c ∈ before, isBlank c = true)
    (h : Enclosed s) : Enclosed (before ++ s) := by
  obtain ⟨sel, h⟩ := h
  generalize htext : '[' :: s = text at h
  cases h with
  | @mk inner u after _ hinner hu ha =>
      obtain rfl := (List.cons.inj htext).2
      have hall : ∀ c ∈ before ++ inner, isBlank c = true := by
        intro c hc
        exact (List.mem_append.mp hc).elim (hb c) (hinner c)
      exact ⟨sel, by simpa using Bracketed.mk hall hu ha⟩

/-- The bracket is not closed behind what is in it. -/
theorem open_stop (h : Content s sel) (hr : sel.isNumbered = true → StopsAt isDigit rest)
    (hclose : close sel rest = .error e) : Pinpoints bracket Enclosed (s ++ rest) e := by
  refine (close_stop hclose).lift s (fun x e' hx he => ?_) ?_
  · rw [bracket_eq_close h fun hsel => (hr hsel).of_head? hx, he]
  · rintro _ ⟨after, ha, rfl⟩
    exact ⟨[], by simpa using h.enclosed ha⟩

/-- A quoted name is not ended, or the bracket is not closed behind it. -/
theorem quoted_stop {quote : Char}
    (hread : ∀ u, bracket (quote :: u) = quotedName quote [] u >>= fun r => close (.child r.1) r.2)
    (hcontent : ∀ t n, Quoted quote t n → Content (quote :: t) (.child (String.ofList n)))
    (h : bracket (quote :: s) = .error e) : Pinpoints bracket Enclosed (quote :: s) e := by
  rw [hread] at h
  rcases bind_eq_error h with h | ⟨⟨n, v⟩, hname, hclose⟩
  · refine (pinpoints_quotedName h).lift [quote] (fun x e' _ he => ?_) ?_
    · rw [List.singleton_append, hread, he]
      rfl
    · rintro t ⟨n, hn⟩
      exact ⟨[']'], by simpa using (hcontent t n hn).enclosed_tight⟩
  · obtain ⟨t, n, rfl, hn, rfl⟩ := quotedName_eq_ok hname
    exact open_stop (hcontent t _ hn) nofun hclose

theorem numbered_stop {c : Char} (hc : c = '-' ∨ isDigit c = true)
    (h : bracket (c :: s) = .error e) : Pinpoints bracket Enclosed (c :: s) e := by
  rw [bracket_position hc] at h
  rcases bind_eq_error h with h | ⟨⟨sel, v⟩, hread, hclose⟩
  · refine (position_stop h).lift [] (fun x e' hx he => ?_) ?_
    · obtain ⟨u, rfl⟩ : ∃ u, x = c :: u := List.head?_eq_some_iff.mp hx
      rw [List.nil_append, bracket_position hc, he]
      rfl
    · rintro t ⟨sel, ht⟩
      exact ⟨[']'], by simpa using ht.enclosed_tight⟩
  · obtain ⟨t, ht, hcontent, hstop⟩ := position_eq_ok hread
    rw [ht]
    exact open_stop hcontent (fun _ => hstop) hclose

/-- A character that nothing in brackets begins with. -/
theorem bracket_of_bad {c : Char} (hblank : isBlank c = false) (hsingle : c ≠ '\'') (hdouble : c ≠ '"')
    (hstar : c ≠ '*') (hposition : ¬ (c = '-' ∨ isDigit c = true)) (s : List Char) :
    bracket (c :: s) = .error ⟨.badBracket, c :: s⟩ := by
  have hskip : skipBlanks (c :: s) = c :: s := by simp [skipBlanks, hblank]
  unfold bracket
  rw [hskip]
  split
  · rename_i heq
    exact absurd (List.cons.inj heq).1 hsingle
  · rename_i heq
    exact absurd (List.cons.inj heq).1 hdouble
  · rename_i heq
    exact absurd (List.cons.inj heq).1 hstar
  · rename_i heq
    cases heq
    rw [if_neg (by simpa using hposition)]
    rfl
  · rename_i heq
    cases heq

theorem bracket_stop_of_stopsAt (hs : StopsAt isBlank s) (h : bracket s = .error e) :
    Pinpoints bracket Enclosed s e := by
  have hmore : Enclosed ['*', ']'] := Grammar.Content.wildcard.enclosed_tight
  cases s with
  | nil =>
      cases h
      exact ⟨[], rfl, ⟨_, hmore⟩, nofun⟩
  | cons c s =>
      by_cases hsingle : c = '\''
      · subst hsingle
        exact quoted_stop (fun _ => rfl) (fun _ _ => .single) h
      by_cases hdouble : c = '"'
      · subst hdouble
        exact quoted_stop (fun _ => rfl) (fun _ _ => .double) h
      by_cases hstar : c = '*'
      · subst hstar
        exact open_stop .wildcard nofun h
      by_cases hposition : c = '-' ∨ isDigit c = true
      · exact numbered_stop hposition h
      · have hbad := bracket_of_bad (hs c rfl) hsingle hdouble hstar hposition
        rw [hbad] at h
        cases h
        refine ⟨[], rfl, ⟨_, hmore⟩, fun _ d rest heq other => ?_⟩
        cases heq
        exact hbad other

theorem bracket_stop (h : bracket s = .error e) : Pinpoints bracket Enclosed s e := by
  obtain ⟨blanks, hs, hb⟩ := exists_blanks s
  have hstop : StopsAt isBlank (skipBlanks s) := (span_eq_iff.mp ⟨rfl, rfl⟩).2.2
  rw [← bracket_skipBlanks] at h
  rw [hs]
  refine (bracket_stop_of_stopsAt hstop h).lift blanks (fun x e' hx he => ?_) fun t ht =>
    ⟨[], by simpa using ht.blanks hb⟩
  rw [← bracket_skipBlanks, skipBlanks_append hb (hstop.of_head? hx), he]

/-! ## Steps -/

theorem step_of_bad {c : Char} (hpoint : c ≠ '.') (hbracket : c ≠ '[') (s : List Char) :
    step (c :: s) = .error ⟨.badSelector, c :: s⟩ := by
  unfold step
  split
  · rename_i heq
    exact absurd (List.cons.inj heq).1 hpoint
  · rename_i heq
    exact absurd (List.cons.inj heq).1 hpoint
  · rename_i heq
    exact absurd (List.cons.inj heq).1 hpoint
  · rename_i heq
    exact absurd (List.cons.inj heq).1 hbracket
  · rfl

theorem step_of_bracket_error (h : bracket s = .error e) : step ('[' :: s) = .error e := by
  show (bracket s >>= fun r => Except.ok ([r.1], r.2)) = _
  rw [h]
  rfl

theorem step_stop (h : step s = .error e) : Pinpoints step (fun t => ∃ sels, Step t sels) s e := by
  unfold step at h
  split at h
  · cases h
  · rename_i s hbracket
    rcases bind_eq_error h with h | ⟨_, _, h⟩
    · refine (afterPoint_stop h).lift ['.', '.'] (fun x e' hx he => ?_) ?_
      · show step ('.' :: '.' :: x) = _
        rw [step.eq_2, he]
        · rfl
        · rintro u rfl
          obtain ⟨v, rfl⟩ := List.head?_eq_some_iff.mp hx.symm
          exact hbracket v rfl
      · rintro t ⟨sel, ht⟩
        exact ⟨[], _, by simpa using Step.descentMember ht⟩
    · cases h
  · rename_i s _ hpoint
    rcases bind_eq_error h with h | ⟨_, _, h⟩
    · refine (afterPoint_stop h).lift ['.'] (fun x e' hx he => ?_) ?_
      · have hx' : ∀ u, x ≠ '.' :: u := by
          rintro u rfl
          obtain ⟨v, rfl⟩ := List.head?_eq_some_iff.mp hx.symm
          exact hpoint v rfl
        show step ('.' :: x) = _
        rw [step.eq_3, he]
        · rfl
        · exact fun _ => hx' _
        · exact fun _ => hx' _
      · rintro t ⟨sel, ht⟩
        exact ⟨[], _, by simpa using Step.member ht⟩
    · cases h
  · rcases bind_eq_error h with h | ⟨_, _, h⟩
    · refine (bracket_stop h).lift ['['] (fun _ _ _ => step_of_bracket_error) ?_
      rintro t ⟨sel, ht⟩
      exact ⟨[], _, by simpa using Step.bracket ht⟩
    · cases h
  · rename_i _ _ hpoint hbracket
    cases h
    refine ⟨[], rfl, ⟨['.', '*'], _, .member .wildcard⟩, fun _ c rest hs other => ?_⟩
    change s = c :: rest at hs
    subst hs
    have hc : c ≠ '.' ∧ c ≠ '[' :=
      ⟨by rintro rfl; exact hpoint rest rfl, by rintro rfl; exact hbracket rest rfl⟩
    exact step_of_bad hc.1 hc.2 other

/-- A text of steps. -/
def IsSteps (s : List Char) : Prop := ∃ sels, Steps s sels

/-- Reading stops in the steps behind one that was read. -/
theorem later_stop (ht : Step t sels)
    (hnext : ∀ x, x.head? = rest.head? → readSteps (t ++ x) = (readSteps x).map (sels ++ ·))
    (h : Pinpoints readSteps IsSteps rest e) : Pinpoints readSteps IsSteps (t ++ rest) e := by
  refine h.lift t (fun x e' hx he => ?_) fun u ⟨more, hu⟩ => ⟨[], _, by simpa using hu.cons ht⟩
  rw [hnext x hx, he]
  rfl

/-- Reading stops in a bracket that a descent comes before, or in the steps behind it. -/
theorem descentBracket_stop (h : readSteps ('[' :: s) = .error e)
    (later : ∀ rest, rest.length ≤ s.length → readSteps rest = .error e →
      Pinpoints readSteps IsSteps rest e) :
    Pinpoints readSteps IsSteps ('.' :: '.' :: '[' :: s) e := by
  have hbad {x e'} (he : bracket x = .error e') : readSteps ('[' :: x) = .error e' :=
    readSteps_of_step_error (step_of_bracket_error he) (List.cons_ne_nil _ _)
  cases hb : bracket s with
  | error e' =>
      rw [hbad hb] at h
      cases h
      refine (bracket_stop hb).lift ['.', '.', '['] (fun x e' _ he => ?_) fun t ⟨sel, ht⟩ =>
        ⟨[], _, by simpa using Grammar.Steps.cons (.descentBracket ht) .nil⟩
      have hdescent : step ('.' :: '.' :: '[' :: x) = .ok ([.descent], '[' :: x) := rfl
      show readSteps ('.' :: '.' :: '[' :: x) = _
      rw [readSteps_of_step hdescent, hbad he]
      rfl
  | ok r =>
      obtain ⟨sel, rest⟩ := r
      obtain ⟨t, rfl, ht⟩ := bracket_eq_ok hb
      have hstep := readSteps_of_step (step_bracket ht rest)
      have hrest : readSteps rest = .error e := map_eq_error (hstep.symm.trans h)
      refine later_stop (.descentBracket ht) (fun x _ => readSteps_descentBracket ht x) ?_
      exact later rest (by simp) hrest

theorem readSteps_stop (h : readSteps s = .error e) : Pinpoints readSteps IsSteps s e := by
  induction hn : s.length using Nat.strongRecOn generalizing s with
  | _ n ih =>
    subst hn
    have hs : s ≠ [] := by
      rintro rfl
      cases h
    cases hstep : step s with
    | error e' =>
        rw [readSteps_of_step_error hstep hs] at h
        cases h
        refine (step_stop hstep).lift [] (fun x e' hx he => ?_) fun t ⟨sels, ht⟩ =>
          ⟨[], _, by simpa using Grammar.Steps.cons ht .nil⟩
        refine readSteps_of_step_error he ?_
        rintro rfl
        exact hs (List.head?_eq_none_iff.mp hx.symm)
    | ok r =>
        obtain ⟨first, rest⟩ := r
        have hrest : readSteps rest = .error e := map_eq_error ((readSteps_of_step hstep).symm.trans h)
        have hlen := step_length hstep
        rcases step_eq_ok hstep with ⟨t, rfl, ht, hnext⟩ | ⟨rfl, rfl, hhead⟩
        · exact later_stop ht (fun x hx => readSteps_of_step (hnext x hx)) (ih _ hlen hrest rfl)
        · obtain ⟨u, rfl⟩ := List.head?_eq_some_iff.mp hhead
          refine descentBracket_stop hrest fun later hlater hbad => ih _ ?_ hbad rfl
          simp only [List.length_cons]
          omega

/-! ## Whole paths -/

theorem expression_of_bad {c : Char} (hdocument : c ≠ '$') (hcurrent : c ≠ '@') (s : List Char) :
    expression (c :: s) = .error ⟨.badRoot, c :: s⟩ := by
  unfold expression
  split
  · rename_i heq
    exact absurd (List.cons.inj heq).1 hdocument
  · rename_i heq
    exact absurd (List.cons.inj heq).1 hcurrent
  · rfl

/-- Behind the root, steps are read. -/
theorem root_stop {c : Char} {root : Root}
    (hread : ∀ x, expression (c :: x) = readSteps x >>= fun sels => .ok ⟨root, sels⟩)
    (htext : ∀ t sels, Steps t sels → Expression (c :: t) ⟨root, sels⟩)
    (h : expression (c :: s) = .error e) :
    Pinpoints expression (fun t => ∃ p, Expression t p) (c :: s) e := by
  rw [hread] at h
  rcases bind_eq_error h with h | ⟨_, _, h⟩
  · refine (readSteps_stop h).lift [c] (fun x e' _ he => ?_) fun t ⟨sels, ht⟩ =>
      ⟨[], _, by simpa using htext t sels ht⟩
    rw [List.singleton_append, hread, he]
    rfl
  · cases h

theorem expression_stop (h : expression s = .error e) :
    Pinpoints expression (fun t => ∃ p, Expression t p) s e := by
  have hmore : Expression ['$'] ⟨.document, []⟩ := .document .nil
  cases s with
  | nil =>
      cases h
      exact ⟨[], rfl, ⟨_, _, hmore⟩, nofun⟩
  | cons c s =>
      by_cases hdocument : c = '$'
      · subst hdocument
        exact root_stop (fun _ => rfl) (fun _ _ => .document) h
      by_cases hcurrent : c = '@'
      · subst hcurrent
        exact root_stop (fun _ => rfl) (fun _ _ => .current) h
      · have hbad := expression_of_bad hdocument hcurrent
        rw [hbad] at h
        cases h
        refine ⟨[], rfl, ⟨_, _, hmore⟩, fun _ d rest heq other => ?_⟩
        cases heq
        exact hbad other

theorem parse_ofList (h : Expression s p) : parse (String.ofList s) = .ok p :=
  parse_eq_ok_iff.mpr (by rwa [String.toList_ofList, h.tight.trim_eq])

theorem parse_eq_error {source : String} {f : Fault} (h : parse source = .error f) :
    f = ⟨.empty, 0, none, source⟩ ∨ ∃ before e, trim source.toList = before ++ e.rest ∧
      expression (before ++ e.rest) = .error e ∧
      f = ⟨e.problem, before.length, e.rest.head?, source⟩ := by
  unfold parse at h
  dsimp only at h
  split at h
  · cases h
    exact Or.inl rfl
  · split at h
    · cases h
    · rename_i e he
      cases h
      obtain ⟨before, hs, _⟩ := expression_stop he
      exact Or.inr ⟨before, e, hs, hs ▸ he, by simp [hs]⟩

/-- A text that is no path is refused at a place up to which it begins some path. A character that is
reported there stands there in no path, or else the text has ended. -/
theorem parse_error_pinpoints {source : String} {f : Fault} (h : parse source = .error f) :
    let s := trim source.toList
    f.position ≤ s.length ∧
      (∃ more p, parse (String.ofList (s.take f.position ++ more)) = .ok p) ∧
      (f.problem.isSyntax = true →
        (∃ c, s[f.position]? = some c ∧ f.foundText = String.ofList [c] ∧
          ∀ other p, parse other = .ok p → ¬ s.take (f.position + 1) <+: trim other.toList) ∨
        f.position = s.length ∧ f.foundText = "EOF") := by
  intro s
  rcases parse_eq_error h with rfl | ⟨before, e, hs, he, rfl⟩
  · exact ⟨Nat.zero_le _, ⟨['$'], _, parse_ofList (.document .nil)⟩, nofun⟩
  · change s = before ++ e.rest at hs
    dsimp only
    obtain ⟨before', hsplit, ⟨more, p, hmore⟩, hstop⟩ := expression_stop he
    obtain rfl := List.append_cancel_right hsplit
    refine ⟨by simp [hs], ⟨more, p, ?_⟩, fun hkind => ?_⟩
    · rw [hs, List.take_left]
      exact parse_ofList hmore
    · cases hrest : e.rest with
      | nil => exact Or.inr ⟨by simp [hs, hrest], rfl⟩
      | cons c rest =>
          rw [hrest] at hs
          refine Or.inl ⟨c, by simp [hs], rfl, fun other q hq hbegins => ?_⟩
          have htake : s.take (before.length + 1) = before ++ [c] := by
            rw [hs, List.append_cons, List.take_left' (by simp)]
          obtain ⟨tail, htail⟩ := hbegins
          have hbad := hstop hkind c rest hrest tail
          have hgood := expression_eq_ok_iff.mpr (parse_eq_ok_iff.mp hq)
          rw [← htail, htake, List.append_assoc, List.singleton_append, hbad] at hgood
          cases hgood

/-- A digit behind a wildcard, and the sign of a position that is zero. -/
theorem parse_error_pinpoints_digit :
    parse " $.a[*7]" = .error ⟨.missingClose, 5, some '7', " $.a[*7]"⟩ ∧
      (∃ more p, parse (String.ofList ("$.a[*".toList ++ more)) = .ok p) ∧
      (∀ other p, parse other = .ok p → ¬ "$.a[*7".toList <+: trim other.toList) ∧
      parse "$..[-0]" = .error ⟨.minusZero, 5, some '0', "$..[-0]"⟩ ∧
      ∃ more p, parse (String.ofList ("$..[-".toList ++ more)) = .ok p := by
  have hdigit : parse " $.a[*7]" = .error ⟨.missingClose, 5, some '7', " $.a[*7]"⟩ := by
    decide +kernel
  have hsign : parse "$..[-0]" = .error ⟨.minusZero, 5, some '0', "$..[-0]"⟩ := by decide +kernel
  obtain ⟨_, hmore, hkind⟩ := parse_error_pinpoints hdigit
  obtain ⟨_, hsignMore, _⟩ := parse_error_pinpoints hsign
  refine ⟨hdigit, hmore, ?_, hsign, hsignMore⟩
  rcases hkind rfl with ⟨c, _, _, hnever⟩ | ⟨hend, _⟩
  · exact hnever
  · exact absurd hend (by decide)

end Recast.Path
