import Recast.Path.Printer
import Recast.Proofs.Path.Reading

/-!
# Reading what is written

The text of a path is one of the grammar when every descent has a selector behind it and every
position can be written. Such paths are read back from their texts, and no others are read at all.
-/

namespace Recast.Path

open Text Grammar

variable {sel : Selector} {sels : List Selector}

/-- A selector that stands alone in its text: no descent, and a position that can be written. -/
def Selector.IsStep : Selector → Prop
  | child _ | wildcard => True
  | index i => i < indexLimit
  | fromEnd i => 0 < i ∧ i < indexLimit
  | descent => False

/-- Selectors that can be written: a descent stands before another selector. -/
inductive Writable : List Selector → Prop where
  | nil : Writable []
  | step {sel : Selector} {sels : List Selector} (h : sel.IsStep) (hrest : Writable sels) :
      Writable (sel :: sels)
  | descent {sel : Selector} {sels : List Selector} (h : sel.IsStep) (hrest : Writable sels) :
      Writable (.descent :: sel :: sels)

theorem Writable.of_forall (h : ∀ s ∈ sels, s.IsStep) : Writable sels := by
  induction sels with
  | nil => exact .nil
  | cons sel sels ih => exact .step (h sel (by simp)) (ih fun s hs => h s (by simp [hs]))

theorem Writable.of_mem (h : Writable sels) (hsel : sel ∈ sels) : sel.IsStep ∨ sel = .descent := by
  induction h with
  | nil => cases hsel
  | step h _ ih =>
      rcases List.mem_cons.mp hsel with rfl | hsel
      · exact Or.inl h
      · exact ih hsel
  | descent h _ ih =>
      rcases List.mem_cons.mp hsel with rfl | hsel
      · exact Or.inr rfl
      · rcases List.mem_cons.mp hsel with rfl | hsel
        · exact Or.inl h
        · exact ih hsel

theorem Writable.append {more : List Selector} (h : Writable more) (hs : ∀ s ∈ sels, s.IsStep) :
    Writable (sels ++ more) := by
  induction sels with
  | nil => exact h
  | cons sel sels ih => exact .step (hs sel (by simp)) (ih fun s hmem => hs s (by simp [hmem]))

theorem Writable.of_cons (h : Writable (sel :: sels)) (hsel : sel.IsStep) : Writable sels := by
  cases h with
  | step _ hrest => exact hrest
  | descent => cases hsel

/-- What can be written behind steps can be written alone. -/
theorem Writable.of_append {more : List Selector} (h : Writable (sels ++ more))
    (hs : ∀ s ∈ sels, s.IsStep) : Writable more := by
  induction sels with
  | nil => exact h
  | cons sel sels ih =>
      exact ih (h.of_cons (hs sel (by simp))) fun s hmem => hs s (by simp [hmem])

/-- A definite path that can be written has no descents. -/
theorem Writable.isStep_of_isDefinite (h : Writable sels)
    (hdefinite : sels.all Selector.isDefinite = true) : ∀ s ∈ sels, s.IsStep := by
  intro s hs
  rcases h.of_mem hs with hstep | rfl
  · exact hstep
  · exact absurd (List.all_eq_true.mp hdefinite .descent hs) (by decide)

/-! ## The text of a selector -/

theorem name_of_isPlain {n : List Char} (h : isPlain n = true) : Name n := by
  unfold isPlain at h
  split at h
  · cases h
  · simp only [Bool.and_eq_true, List.all_eq_true] at h
    exact ⟨List.cons_ne_nil _ _, h.2⟩

theorem quoted_quoteName (n : List Char) : Quoted '\'' (quoteName n ++ ['\'']) n := by
  induction n with
  | nil => exact .close
  | cons c n ih =>
      have hn : quoteName (c :: n) =
          (if c == '\\' || c == '\'' then ['\\', c] else [c]) ++ quoteName n := rfl
      rw [hn]
      split
      · exact .escaped c ih
      · rename_i hc
        simp only [Bool.or_eq_true, beq_iff_eq, not_or] at hc
        exact .plain hc.1 hc.2 ih

theorem numeral_toString {i : Nat} (hi : i < indexLimit) : Numeral (toString i).toList i :=
  ⟨toString_ne_nil i, fun _ hc => isDigit_of_mem_toString hc, digitsValue_toString i, hi⟩

/-- A selector in brackets, without blanks around it. -/
theorem bracket_of_content {s : List Char} (h : Content s sel) :
    Bracketed ('[' :: (s ++ [']'])) sel := by
  simpa using @Bracketed.mk [] s [] sel (by simp) h (by simp)

theorem bracket_quoteName (name : String) :
    Bracketed ("['" ++ String.ofList (quoteName name.toList) ++ "']").toList (.child name) := by
  have h := bracket_of_content (.single (quoted_quoteName name.toList))
  simpa using h

theorem bracket_index {i : Nat} (hi : i < indexLimit) (afterDescent : Bool) :
    Bracketed ((Selector.index i).text afterDescent).toList (.index i) := by
  simpa [Selector.text] using bracket_of_content (.index (numeral_toString hi))

theorem bracket_fromEnd {i : Nat} (hpos : 0 < i) (hi : i < indexLimit) (afterDescent : Bool) :
    Bracketed ((Selector.fromEnd i).text afterDescent).toList (.fromEnd i) := by
  simpa [Selector.text] using bracket_of_content (.fromEnd (numeral_toString hi) hpos)

theorem step_text (h : sel.IsStep) : Step (sel.text false).toList [sel] := by
  cases sel with
  | child name =>
      by_cases hn : isPlain name.toList = true
      · simpa [Selector.text, childStep, hn] using Step.member (.name (name_of_isPlain hn))
      · simpa [Selector.text, childStep, hn] using Step.bracket (bracket_quoteName name)
  | index i => exact .bracket (bracket_index h false)
  | fromEnd i => exact .bracket (bracket_fromEnd h.1 h.2 false)
  | wildcard => exact .bracket (bracket_of_content .wildcard)
  | descent => cases h

/-- Behind a descent a name and a wildcard need no point. -/
theorem step_descentText (h : sel.IsStep) :
    Step ('.' :: '.' :: (sel.text true).toList) [.descent, sel] := by
  cases sel with
  | child name =>
      by_cases hn : isPlain name.toList = true
      · simpa [Selector.text, hn] using Step.descentMember (.name (name_of_isPlain hn))
      · simpa [Selector.text, childStep, hn] using Step.descentBracket (bracket_quoteName name)
  | index i => exact .descentBracket (bracket_index h true)
  | fromEnd i => exact .descentBracket (bracket_fromEnd h.1 h.2 true)
  | wildcard => exact .descentMember .wildcard
  | descent => cases h

/-! ## The text of a path -/

theorem selectorsText_cons (h : sel.IsStep) (afterDescent : Bool) (sels : List Selector) :
    selectorsText afterDescent (sel :: sels) = sel.text afterDescent ++ selectorsText false sels := by
  have hd : (sel == .descent) = false := by
    cases sel <;> first | rfl | cases h
  rw [selectorsText, hd]

theorem Writable.steps (h : Writable sels) : Steps (selectorsText false sels).toList sels := by
  induction h with
  | nil => exact .nil
  | step h _ ih =>
      rw [selectorsText_cons h, String.toList_append]
      exact .cons (step_text h) ih
  | @descent sel sels h _ ih =>
      have htext : (selectorsText false (.descent :: sel :: sels)).toList =
          ('.' :: '.' :: (sel.text true).toList) ++ (selectorsText false sels).toList := by
        rw [selectorsText]
        show (".." ++ selectorsText true (sel :: sels)).toList = _
        rw [selectorsText_cons h]
        simp
      rw [htext]
      exact .cons (step_descentText h) ih

theorem Grammar.Content.isStep {s : List Char} (h : Content s sel) : sel.IsStep := by
  cases h with
  | single h => trivial
  | double h => trivial
  | wildcard => trivial
  | index h => exact h.lt_limit
  | fromEnd h hpos => exact ⟨hpos, h.lt_limit⟩

theorem Grammar.Bracketed.isStep {s : List Char} (h : Bracketed s sel) : sel.IsStep := by
  cases h with
  | mk _ h _ => exact h.isStep

theorem Grammar.Member.isStep {s : List Char} (h : Member s sel) : sel.IsStep := by
  cases h <;> trivial

theorem Grammar.Steps.writable {s : List Char} (h : Steps s sels) : Writable sels := by
  induction h with
  | nil => exact .nil
  | cons h _ ih =>
      cases h with
      | member h => exact .step h.isStep ih
      | bracket h => exact .step h.isStep ih
      | descentMember h => exact .descent h.isStep ih
      | descentBracket h => exact .descent h.isStep ih

theorem Writable.expression {p : Path} (h : Writable p.selectors) : Expression p.text.toList p := by
  obtain ⟨root, sels⟩ := p
  cases root with
  | document => simpa [text, Root.text] using Expression.document h.steps
  | current => simpa [text, Root.text] using Expression.current h.steps

theorem Grammar.Expression.writable {s : List Char} {p : Path} (h : Expression s p) :
    Writable p.selectors := by
  cases h with
  | document h => exact h.writable
  | current h => exact h.writable

theorem parse_text_of_writable {p : Path} (h : Writable p.selectors) : parse p.text = .ok p := by
  have he := h.expression
  rw [parse_eq_ok_iff, he.tight.trim_eq]
  exact he

/-- Exactly the paths that can be written are read back from their texts; every path that is read
is one of them, and reading its text and writing it again gives the same text. -/
theorem parse_text :
    (∀ p : Path, parse p.text = .ok p ↔ Writable p.selectors) ∧
      ∀ (source : String) (p : Path), parse source = .ok p →
        Writable p.selectors ∧ (parse p.text).map text = .ok p.text := by
  have hwritable : ∀ (source : String) (p : Path), parse source = .ok p → Writable p.selectors :=
    fun _ _ h => (parse_eq_ok_iff.mp h).writable
  refine ⟨fun p => ⟨hwritable _ p, parse_text_of_writable⟩, fun source p h => ?_⟩
  have hp := hwritable source p h
  refine ⟨hp, ?_⟩
  rw [parse_text_of_writable hp]
  rfl

theorem parse_text_respelled :
    (⟨.document, [.descent, .child "it's", .fromEnd 2, .descent, .wildcard]⟩ : Path).text =
        "$..['it\\'s'][-2]..*" ∧
      Writable [.descent, .child "it's", .fromEnd 2, .descent, .wildcard] ∧
      (parse "$..['it\\'s'][-2]..*").map text = .ok "$..['it\\'s'][-2]..*" := by
  have hsource : parse " $..[ \"it's\" ][-02]..*" =
      .ok ⟨.document, [.descent, .child "it's", .fromEnd 2, .descent, .wildcard]⟩ := by
    rfl
  have htext : (⟨.document, [.descent, .child "it's", .fromEnd 2, .descent, .wildcard]⟩ : Path).text =
      "$..['it\\'s'][-2]..*" := by
    rfl
  have h := parse_text.2 _ _ hsource
  rw [htext] at h
  exact ⟨htext, h⟩

end Recast.Path
