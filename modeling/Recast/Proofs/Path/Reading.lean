import Recast.Proofs.Path.Steps

/-!
# What is read as a path

The steps that are read are the steps of the grammar: a descent before a bracket, which the reader
takes as a step of its own, is one of its texts only together with the bracket. A text has at most
one derivation, so that what a path denotes is what is read from it.
-/

namespace Recast.Path

open Text Grammar

variable {s t rest : List Char} {sel : Selector} {sels : List Selector} {p q : Path}

/-! ## Steps -/

theorem Grammar.Bracketed.eq_cons (h : Bracketed s sel) : ∃ t, s = '[' :: t := by
  cases h
  exact ⟨_, rfl⟩

/-- Where a step begins, no name goes on. -/
theorem Grammar.Step.stopsAt (h : Step s sels) (rest : List Char) :
    StopsAt isNameChar (s ++ rest) := by
  cases h with
  | member h => exact .cons (by decide)
  | descentMember h => exact .cons (by decide)
  | descentBracket h => exact .cons (by decide)
  | bracket h =>
      obtain ⟨t, rfl⟩ := h.eq_cons
      exact .cons (by decide)

theorem Grammar.Steps.stopsAt (h : Steps s sels) : StopsAt isNameChar s := by
  cases h with
  | nil => exact .nil
  | cons h hrest => exact h.stopsAt _

theorem readSteps_descentBracket (h : Bracketed s sel) (rest : List Char) :
    readSteps ('.' :: '.' :: (s ++ rest)) = (readSteps rest).map ([.descent, sel] ++ ·) := by
  have hdescent : step ('.' :: '.' :: (s ++ rest)) = .ok ([.descent], s ++ rest) := by
    obtain ⟨t, rfl⟩ := h.eq_cons
    rfl
  rw [readSteps_of_step hdescent, readSteps_of_step (step_bracket h rest)]
  cases readSteps rest <;> rfl

theorem readSteps_step (h : Step s sels) (hr : StopsAt isNameChar rest) :
    readSteps (s ++ rest) = (readSteps rest).map (sels ++ ·) := by
  cases h with
  | member h => exact readSteps_of_step (step_member h hr)
  | bracket h => exact readSteps_of_step (step_bracket h rest)
  | descentMember h => exact readSteps_of_step (step_descentMember h hr)
  | descentBracket h => exact readSteps_descentBracket h rest

theorem Grammar.Steps.readSteps_append (h : Steps s sels) (hr : StopsAt isNameChar rest) :
    readSteps (s ++ rest) = (readSteps rest).map (sels ++ ·) := by
  induction h with
  | nil =>
      rw [List.nil_append]
      cases readSteps rest <;> rfl
  | @cons s later sels more h hlater ih =>
      have hstop : StopsAt isNameChar (later ++ rest) := by
        cases hlater with
        | nil => exact hr
        | cons h _ =>
            rw [List.append_assoc]
            exact h.stopsAt _
      rw [List.append_assoc, readSteps_step h hstop, ih]
      cases readSteps rest <;> simp [Except.map]

/-- A step that begins with a bracket is the bracket. -/
theorem Grammar.Step.bracket_of_head? (h : Step s sels) (hs : s.head? = some '[') :
    ∃ sel, sels = [sel] ∧ Bracketed s sel := by
  cases h with
  | bracket h => exact ⟨_, rfl, h⟩
  | member h => cases hs
  | descentMember h => cases hs
  | descentBracket h => cases hs

/-- A descent joins the bracket behind it. -/
theorem Grammar.Steps.descent (h : Steps s sels) (hs : s.head? = some '[') :
    Steps ('.' :: '.' :: s) (.descent :: sels) := by
  cases h with
  | nil => cases hs
  | @cons s rest first more h hrest =>
      have hhead : s.head? = some '[' := by
        cases s with
        | nil => exact absurd rfl h.ne_nil
        | cons c s => exact hs
      obtain ⟨sel, rfl, hb⟩ := h.bracket_of_head? hhead
      exact .cons (.descentBracket hb) hrest

theorem steps_of_readSteps (h : readSteps s = .ok sels) : Steps s sels := by
  -- The reader may take a descent for a step, so the induction is on what is left to be read.
  induction hn : s.length using Nat.strongRecOn generalizing s sels with
  | _ n ih =>
    subst hn
    by_cases hs : s = []
    · subst hs
      cases h
      exact .nil
    · obtain ⟨first, rest, later, hstep, hrest, rfl⟩ := step_of_readSteps h hs
      have hlater := ih _ (step_length hstep) hrest rfl
      rcases step_eq_ok hstep with ⟨t, rfl, ht, _⟩ | ⟨rfl, rfl, hhead⟩
      · exact .cons ht hlater
      · exact hlater.descent hhead

theorem readSteps_eq_ok_iff : readSteps s = .ok sels ↔ Steps s sels := by
  refine ⟨steps_of_readSteps, fun h => ?_⟩
  simpa [Except.map] using h.readSteps_append .nil

/-! ## Whole paths -/

theorem expression_eq_ok_iff : expression s = .ok p ↔ Expression s p := by
  constructor
  · intro h
    unfold expression at h
    split at h
    · obtain ⟨sels, hread, h⟩ := bind_eq_ok h
      cases h
      exact .document (steps_of_readSteps hread)
    · obtain ⟨sels, hread, h⟩ := bind_eq_ok h
      cases h
      exact .current (steps_of_readSteps hread)
    · cases h
  · intro h
    cases h with
    | @document s sels h =>
        have hread : steps s.length s = .ok sels := readSteps_eq_ok_iff.mpr h
        rw [expression, hread]
        rfl
    | @current s sels h =>
        have hread : steps s.length s = .ok sels := readSteps_eq_ok_iff.mpr h
        rw [expression, hread]
        rfl

theorem Grammar.Name.last (h : Name s) : ∀ c ∈ s.getLast?, isBlank c = false :=
  fun c hc => isBlank_of_isNameChar (h.chars c (List.mem_of_getLast? hc))

theorem Grammar.Member.last (h : Member s sel) : ∀ c ∈ s.getLast?, isBlank c = false := by
  cases h with
  | name h => exact h.last
  | wildcard =>
      intro c hc
      cases hc
      decide

theorem Grammar.Bracketed.last (h : Bracketed s sel) : ∀ c ∈ s.getLast?, isBlank c = false := by
  cases h
  intro c hc
  rw [← List.cons_append, List.getLast?_concat] at hc
  cases hc
  decide

theorem Grammar.Step.last (h : Step s sels) : ∀ c ∈ s.getLast?, isBlank c = false := by
  have hpoint : ∀ c ∈ ['.'].getLast?, isBlank c = false := by
    intro c hc
    cases hc
    decide
  cases h with
  | member h => exact last_append hpoint h.last
  | bracket h => exact h.last
  | descentMember h => exact last_append hpoint (last_append hpoint h.last)
  | descentBracket h => exact last_append hpoint (last_append hpoint h.last)

theorem Grammar.Steps.last (h : Steps s sels) : ∀ c ∈ s.getLast?, isBlank c = false := by
  induction h with
  | nil => nofun
  | cons h _ ih => exact last_append h.last ih

theorem Grammar.Expression.tight (h : Expression s p) : Tight s := by
  have hroot : ∀ r : Char, isBlank r = false → ∀ {s sels}, Steps s sels → Tight (r :: s) := by
    intro r hr s sels hs
    refine ⟨?_, last_append (a := [r]) ?_ hs.last⟩ <;>
    · intro c hc
      cases hc
      exact hr
  cases h with
  | document h => exact hroot '$' (by decide) h
  | current h => exact hroot '@' (by decide) h

theorem Grammar.Expression.unique (hp : Expression s p) (hq : Expression s q) : p = q :=
  Except.ok.inj ((expression_eq_ok_iff.mpr hp).symm.trans (expression_eq_ok_iff.mpr hq))

theorem parse_eq_ok_iff {source : String} :
    parse source = .ok p ↔ Expression (trim source.toList) p := by
  rw [← expression_eq_ok_iff]
  unfold parse
  dsimp only
  generalize trim source.toList = s
  constructor
  · intro h
    split at h
    · cases h
    · split at h
      · rename_i hread
        cases h
        exact hread
      · cases h
  · intro h
    have hne : s.isEmpty = false := by
      cases s with
      | nil => cases h
      | cons c s => rfl
    simp only [hne, h]
    rfl

/-- Reading accepts the texts of the grammar, and gives what they denote. -/
theorem parse_iff_expression :
    (∀ (source : String) (p : Path), parse source = .ok p ↔ Expression (trim source.toList) p) ∧
      ∀ (s : List Char) (p q : Path), Expression s p → Expression s q → p = q :=
  ⟨fun _ _ => parse_eq_ok_iff, fun _ _ _ hp hq => hp.unique hq⟩

theorem parse_iff_expression_quoted :
    Expression "$..[ 'a\\'.b' ].*[-007]".toList
        ⟨.document, [.descent, .child "a'.b", .wildcard, .fromEnd 7]⟩ ∧
      parse " $..[ 'a\\'.b' ].*[-007]\n" =
        .ok ⟨.document, [.descent, .child "a'.b", .wildcard, .fromEnd 7]⟩ := by
  have hname : Quoted '\'' ['a', '\\', '\'', '.', 'b', '\''] ['a', '\'', '.', 'b'] :=
    .plain (by decide) (by decide) (.escaped _ (.plain (by decide) (by decide)
      (.plain (by decide) (by decide) .close)))
  have hblank : ∀ c ∈ [' '], isBlank c = true := List.all_eq_true.mp rfl
  have hquoted : Bracketed "[ 'a\\'.b' ]".toList (.child "a'.b") :=
    @Bracketed.mk [' '] _ [' '] _ hblank (.single hname) hblank
  have hnumeral : Numeral ['0', '0', '7'] 7 :=
    ⟨by decide, List.all_eq_true.mp rfl, by decide, by decide⟩
  have hlast : Bracketed "[-007]".toList (.fromEnd 7) :=
    @Bracketed.mk [] _ [] _ (by simp) (.fromEnd hnumeral (by decide)) (by simp)
  have h : Expression "$..[ 'a\\'.b' ].*[-007]".toList
      ⟨.document, [.descent, .child "a'.b", .wildcard, .fromEnd 7]⟩ :=
    .document (.cons (.descentBracket hquoted) (.cons (.member .wildcard)
      (.cons (.bracket hlast) .nil)))
  exact ⟨h, (parse_iff_expression.1 _ _).mpr h⟩

end Recast.Path
