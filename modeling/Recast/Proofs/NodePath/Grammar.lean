import Recast.NodePath.Reader
import Recast.Proofs.Path.Writing

/-!
# The grammar of node paths

The relations of `Grammar` say how the steps of a node path are written. Steps are cut outside of
quotes, but a predicate ends at its first closing bracket, wherever that stands: a text of the grammar
is read as it is meant unless there is a closing bracket in one of its values, or a step to a parent.
-/

namespace Recast.NodePath

open Text

/-! ## Texts and what they denote -/

namespace Grammar

/-- A value between quotes of a kind that is not in it. -/
inductive Value : List Char → String → Prop where
  | mk {quote : Char} {value : String} (hquote : quote = '\'' ∨ quote = '"')
      (h : quote ∉ value.toList) : Value (quote :: (value.toList ++ [quote])) value

/-- What stands before an equals sign, and what has a value there. -/
inductive Side : List Char → (String → Predicate) → Prop where
  | attr {name : String} (h : isName name.toList = true) : Side ('@' :: name.toList) (.attr name)
  | child {name : String} (h : isName name.toList = true) : Side name.toList (.child name)

/-- What stands between brackets. -/
inductive Condition : List Char → Predicate → Prop where
  | position {n : Nat} (hpos : 0 < n) (hlt : n < Nat.pow 2 64) :
      Condition (toString n).toList (.position n)
  | equals {left right : List Char} {make : String → Predicate} {value : String}
      (hside : Side left make) (h : Value right value) :
      Condition (left ++ '=' :: right) (make value)

/-- Predicates in brackets, one behind the other. -/
inductive Conditions : List Char → List Predicate → Prop where
  | nil : Conditions [] []
  | cons {s rest : List Char} {p : Predicate} {more : List Predicate} (h : Condition s p)
      (hrest : Conditions rest more) : Conditions ('[' :: (s ++ ']' :: rest)) (p :: more)

/-- The test of a step along an axis, and the axis that the step moves along. -/
inductive Head (axis : Axis) : List Char → Axis → Test → Prop where
  | self : Head axis ['.'] .self .anyElement
  | name {name : String} (h : isName name.toList = true) (hself : name ≠ ".") :
      Head axis name.toList axis (.name name)
  | anyElement : Head axis ['*'] axis .anyElement
  | attr {name : String} (h : isName name.toList = true) :
      Head axis ('@' :: name.toList) axis (.attr name)
  | anyAttribute : Head axis ['@', '*'] axis .anyAttribute
  | text : Head axis "text()".toList axis .text

/-- A step along an axis. -/
inductive Location (axis : Axis) : List Char → Step → Prop where
  | mk {s t : List Char} {moved : Axis} {test : Test} {predicates : List Predicate}
      (h : Head axis s moved test) (hp : Conditions t predicates) :
      Location axis (s ++ t) ⟨moved, test, predicates⟩

/-- Steps with slashes between them, the first one along an axis. -/
inductive Locations : Axis → List Char → List Step → Prop where
  | last {axis : Axis} {s : List Char} {st : Step} (h : Location axis s st) : Locations axis s [st]
  | child {axis : Axis} {s rest : List Char} {st : Step} {more : List Step}
      (h : Location axis s st) (hrest : Locations .child rest more) :
      Locations axis (s ++ '/' :: rest) (st :: more)
  | descendant {axis : Axis} {s rest : List Char} {st : Step} {more : List Step}
      (h : Location axis s st) (hrest : Locations .descendant rest more) :
      Locations axis (s ++ '/' :: '/' :: rest) (st :: more)

/-- A whole node path: its text, whether it is absolute, and its steps. -/
inductive Expression : List Char → Bool → List Step → Prop where
  | child {s : List Char} {steps : List Step} (h : Locations .child s steps) :
      Expression ('/' :: s) true steps
  | descendant {s : List Char} {steps : List Step} (h : Locations .descendant s steps) :
      Expression ('/' :: '/' :: s) true steps
  | relative {s : List Char} {steps : List Step} (h : Locations .child s steps) :
      Expression s false steps

end Grammar

open Grammar

variable {s t rest : List Char} {axis moved : Axis} {p : Predicate} {predicates : List Predicate}
  {st : Step} {steps : List Step} {value : String} {depth : Nat} {c : Char}

/-! ## Characters -/

theorem isBlank_of_isNameChar (h : isNameChar c = true) : isBlank c = false := by
  simp only [isNameChar, Bool.or_eq_true, beq_iff_eq] at h
  rcases h with (((h | rfl) | rfl) | rfl) | rfl
  · exact Path.isBlank_of_isNameChar (by simp [Path.isNameChar, h])
  all_goals decide

theorem isNameChar_of_isDigit (h : isDigit c = true) : isNameChar c = true := by
  have hpath := Path.isNameChar_of_isDigit h
  simp only [Path.isNameChar, Bool.or_eq_true] at hpath
  simp only [isNameChar, Bool.or_eq_true]
  tauto

/-- The characters of tests and of names. -/
def isHeadChar (c : Char) : Bool := isNameChar c || ['@', '*', '(', ')'].contains c

theorem isHeadChar_of_isNameChar (h : isNameChar c = true) : isHeadChar c = true := by
  simp [isHeadChar, h]

theorem isBlank_of_isHeadChar (h : isHeadChar c = true) : isBlank c = false := by
  simp only [isHeadChar, Bool.or_eq_true] at h
  rcases h with h | h
  · exact isBlank_of_isNameChar h
  · have hall : ['@', '*', '(', ')'].all (fun d => !isBlank d) = true := by decide
    simpa using List.all_eq_true.mp hall c (List.contains_iff_mem.mp h)

theorem forall_isNameChar (h : isName s = true) : ∀ c ∈ s, isNameChar c = true := by
  simp only [isName, Bool.and_eq_true, List.all_eq_true] at h
  exact h.2

theorem ne_nil_of_isName (h : isName s = true) : s ≠ [] := by
  rintro rfl
  cases h

theorem not_mem_of_forall {q : Char → Bool} (h : ∀ c ∈ s, q c = true) (hc : q c = false) : c ∉ s := by
  intro hmem
  rw [h c hmem] at hc
  cases hc

/-! ## Cutting -/

/-- Cutting goes over the text to what is behind it. -/
def Passes (depth : Nat) (s : List Char) : Prop :=
  ∀ rest, cutStep? depth none (s ++ rest) =
    (cutStep? depth none rest).map fun (a, b) => (s ++ a, b)

theorem Passes.nil : Passes depth [] := by
  intro rest
  simp

theorem Passes.append (hs : Passes depth s) (ht : Passes depth t) : Passes depth (s ++ t) := by
  intro rest
  rw [List.append_assoc, hs, ht, Option.map_map]
  simp [Function.comp_def]

/-- A character that is neither a slash nor a bracket nor a quote. -/
def isPlain (c : Char) : Bool := !(['/', '[', ']', '\'', '"'].contains c)

theorem cutStep?_plain (h : isPlain c = true) (depth : Nat) (rest : List Char) :
    cutStep? depth none (c :: rest) =
      (cutStep? depth none rest).map fun (a, b) => (c :: a, b) := by
  simp only [isPlain, Bool.not_eq_true', List.contains_eq_mem, decide_eq_false_iff_not,
    List.mem_cons, List.not_mem_nil, not_or, or_false] at h
  simp [cutStep?, h]

theorem Passes.of_forall_isPlain (h : ∀ c ∈ s, isPlain c = true) : Passes depth s := by
  induction s with
  | nil => exact .nil
  | cons c s ih =>
      obtain ⟨hc, hs⟩ := List.forall_mem_cons.mp h
      intro rest
      rw [List.cons_append, cutStep?_plain hc, ih hs, Option.map_map]
      rfl

theorem isPlain_of_isHeadChar (h : isHeadChar c = true) : isPlain c = true := by
  cases hplain : isPlain c with
  | true => rfl
  | false =>
      have hall : ['/', '[', ']', '\'', '"'].all (fun d => !isHeadChar d) = true := by decide
      rw [isPlain, Bool.not_eq_false', List.contains_iff_mem] at hplain
      have hhead := List.all_eq_true.mp hall c hplain
      simp [h] at hhead

theorem cutStep?_quoted {quote : Char} (h : quote ∉ s) (depth : Nat) (rest : List Char) :
    cutStep? depth (some quote) (s ++ quote :: rest) =
      (cutStep? depth none rest).map fun (a, b) => (s ++ quote :: a, b) := by
  induction s with
  | nil => simp [cutStep?]
  | cons c s ih =>
      obtain ⟨hc, hs⟩ := List.ne_and_not_mem_of_not_mem_cons h
      have hne : (c == quote) = false := by simpa using Ne.symm hc
      rw [List.cons_append, cutStep?, hne, if_neg Bool.false_ne_true, ih hs, Option.map_map]
      rfl

theorem Grammar.Value.passes (h : Value s value) : Passes depth s := by
  intro rest
  cases h with
  | mk hquote h =>
      have hquoted := cutStep?_quoted h depth rest
      rcases hquote with rfl | rfl <;> simp [cutStep?, hquoted, Function.comp_def]

theorem Passes.bracketed (h : Passes 1 s) : Passes 0 ('[' :: (s ++ [']'])) := by
  intro rest
  have hclose : cutStep? 1 none (']' :: rest) =
      (cutStep? 0 none rest).map fun (a, b) => (']' :: a, b) := by
    simp [cutStep?]
  have hopen : cutStep? 0 none ('[' :: (s ++ ']' :: rest)) =
      (cutStep? 1 none (s ++ ']' :: rest)).map fun (a, b) => ('[' :: a, b) := by
    simp [cutStep?]
  rw [List.cons_append, List.append_assoc, List.singleton_append, hopen, h, hclose]
  simp [Function.comp_def]

theorem Grammar.Side.forall_isHeadChar {make : String → Predicate} (h : Side s make) :
    ∀ c ∈ s, isHeadChar c = true := by
  cases h with
  | attr h => exact List.forall_mem_cons.mpr ⟨by decide, fun c hc =>
      isHeadChar_of_isNameChar (forall_isNameChar h c hc)⟩
  | child h => exact fun c hc => isHeadChar_of_isNameChar (forall_isNameChar h c hc)

theorem Passes.of_forall_isHeadChar (h : ∀ c ∈ s, isHeadChar c = true) : Passes depth s :=
  .of_forall_isPlain fun c hc => isPlain_of_isHeadChar (h c hc)

theorem forall_isHeadChar_numeral {n : Nat} (h : Path.Grammar.Numeral s n) :
    ∀ c ∈ s, isHeadChar c = true :=
  fun c hc => isHeadChar_of_isNameChar (isNameChar_of_isDigit (h.digits c hc))

theorem Grammar.Condition.passes (h : Condition s p) : Passes depth s := by
  cases h with
  | position _ hlt =>
      exact .of_forall_isHeadChar (forall_isHeadChar_numeral (Path.numeral_toString hlt))
  | equals hside h =>
      have hequals : Passes depth ['='] := .of_forall_isPlain (by simp [isPlain])
      exact (Passes.of_forall_isHeadChar hside.forall_isHeadChar).append (hequals.append h.passes)

theorem Grammar.Conditions.passes (h : Conditions s predicates) : Passes 0 s := by
  induction h with
  | nil => exact .nil
  | cons h _ ih =>
      have hboth := (Passes.bracketed h.passes).append ih
      simpa using hboth

theorem Grammar.Head.forall_isHeadChar {test : Test} (h : Head axis s moved test) :
    ∀ c ∈ s, isHeadChar c = true := by
  cases h with
  | name h => exact fun c hc => isHeadChar_of_isNameChar (forall_isNameChar h c hc)
  | attr h =>
      exact List.forall_mem_cons.mpr
        ⟨by decide, fun c hc => isHeadChar_of_isNameChar (forall_isNameChar h c hc)⟩
  | _ => exact List.all_eq_true.mp (by decide)

theorem Grammar.Head.ne_nil {test : Test} (h : Head axis s moved test) : s ≠ [] := by
  cases h with
  | name h => exact ne_nil_of_isName h
  | attr => exact List.cons_ne_nil _ _
  | _ => decide

theorem Grammar.Location.passes (h : Location axis s st) : Passes 0 s := by
  cases h with
  | mk h hp => exact (Passes.of_forall_isHeadChar h.forall_isHeadChar).append hp.passes

/-- A step is cut at its end or at the slash behind it. -/
theorem Grammar.Location.cut (h : Location axis s st) (hrest : rest.head?.all (· == '/') = true) :
    cutStep? 0 none (s ++ rest) = some (s, rest) := by
  have hend : cutStep? 0 none rest = some ([], rest) := by
    cases rest with
    | nil => rfl
    | cons c rest =>
        obtain rfl : c = '/' := by simpa using hrest
        simp [cutStep?]
  rw [h.passes, hend]
  simp

/-! ## Predicates -/

/-- Whether a closing bracket is in the value of a predicate. -/
def Predicate.hasBracket : Predicate → Bool
  | position _ => false
  | attr _ value | child _ value => value.toList.contains ']'

/-- What starts with one of the quotes is a value if it ends with the same one. -/
theorem unquote?_cons {quote : Char} (hquote : quote = '\'' ∨ quote = '"') (t : List Char) :
    (unquote? '\'' (quote :: t)).or (unquote? '"' (quote :: t)) = dropEnd? [quote] t := by
  rcases hquote with rfl | rfl <;> simp [unquote?, dropStart?]

theorem isBlank_quote {quote : Char} (hquote : quote = '\'' ∨ quote = '"') :
    isBlank quote = false := by
  rcases hquote with rfl | rfl <;> decide

theorem tight_of_forall_isHeadChar (h : ∀ c ∈ s, isHeadChar c = true) : Tight s :=
  ⟨fun c hc => isBlank_of_isHeadChar (h c (List.mem_of_mem_head? hc)),
    fun c hc => isBlank_of_isHeadChar (h c (List.mem_of_getLast? hc))⟩

theorem tight_singleton (h : isBlank c = false) : Tight [c] :=
  ⟨by simpa using h, by simpa using h⟩

section Comparison

variable {left right : List Char} {make : String → Predicate}

theorem Grammar.Side.hasBracket_eq (h : Side s make) (value : String) :
    (make value).hasBracket = value.toList.contains ']' := by
  cases h <;> rfl

theorem Grammar.Side.comparison_eq (h : Side left make) (right : List Char) :
    comparison (left ++ '=' :: right) =
      match (unquote? '\'' (trim right)).or (unquote? '"' (trim right)) with
      | none => .error .unquotedValue
      | some value => .ok (make (String.ofList value)) := by
  have hequals : '=' ∉ left := not_mem_of_forall h.forall_isHeadChar (by decide)
  have htrim : trim left = left := (tight_of_forall_isHeadChar h.forall_isHeadChar).trim_eq
  rw [comparison, cutAt?_append hequals]
  dsimp only
  rw [htrim]
  cases (unquote? '\'' (trim right)).or (unquote? '"' (trim right)) with
  | none => rfl
  | some value =>
      cases h with
      | attr h => simp [h]
      | @child name h =>
          have hat : ∀ rest, name.toList ≠ '@' :: rest := by
            intro rest hrest
            exact absurd (forall_isNameChar h '@' (by simp [hrest])) (by decide)
          simp [h]

theorem predicate_of_mem_equals (h : '=' ∈ s) : predicate s = comparison s := by
  have hnatural {t : List Char} (ht : '=' ∈ t) : natural? t = none := by
    have hdigits : t.all isDigit = false := List.all_eq_false.mpr ⟨'=', ht, by decide⟩
    simp [natural?, hdigits]
  have hunsigned : Numeral.unsigned? s = none := by
    unfold Numeral.unsigned?
    split
    · simp [hnatural (List.mem_of_ne_of_mem (by decide) h)]
    · simp [hnatural h]
  rw [predicate, hunsigned]

theorem Grammar.Side.tight_equals (h : Side left make) {quote : Char}
    (hquote : quote = '\'' ∨ quote = '"') : Tight (left ++ ['=', quote]) := by
  have hside := tight_of_forall_isHeadChar h.forall_isHeadChar
  refine ⟨fun c hc => ?_, fun c hc => ?_⟩
  · cases left with
    | nil =>
        obtain rfl : '=' = c := by simpa using hc
        decide
    | cons d left => exact hside.first c (by simpa using hc)
  · obtain rfl : quote = c := by simpa using hc
    exact isBlank_quote hquote

/-- What is read of a comparison whose right side begins with a quote. -/
theorem Grammar.Side.predicate_eq (h : Side left make) {quote : Char}
    (hquote : quote = '\'' ∨ quote = '"') (t : List Char) :
    predicate (trim (left ++ '=' :: quote :: t)) =
      match dropEnd? [quote] (trimEnd t) with
      | none => .error .unquotedValue
      | some value => .ok (make (String.ofList value)) := by
  have htrim : trim (left ++ '=' :: quote :: t) = left ++ '=' :: quote :: trimEnd t := by
    simpa using (h.tight_equals hquote).trim_append (by simp) t
  rw [htrim, predicate_of_mem_equals (by simp), h.comparison_eq, trim_cons (isBlank_quote hquote),
    trimEnd_trimEnd, unquote?_cons hquote]

end Comparison

theorem predicate_numeral {n : Nat} (h : Path.Grammar.Numeral s n) (hpos : 0 < n) :
    predicate s = .ok (.position n) := by
  have hunsigned : Numeral.unsigned? s = some n := by
    have hnatural := h.natural?_eq
    obtain ⟨c, t, rfl, hc⟩ := h.eq_cons
    unfold Numeral.unsigned?
    split
    · rename_i hplus
      rw [(List.cons.inj hplus).1] at hc
      exact absurd hc (by decide)
    · simp only [hnatural]
      exact if_pos h.lt_limit
  rw [predicate, hunsigned]
  cases n with
  | zero => cases hpos
  | succ n => rfl

theorem Grammar.Condition.read (h : Condition s p) (hp : p.hasBracket = false) :
    ']' ∉ s ∧ predicate (trim s) = .ok p := by
  cases h with
  | @position n hpos hlt =>
      have hnumeral := Path.numeral_toString hlt
      have hdigits := forall_isHeadChar_numeral hnumeral
      refine ⟨not_mem_of_forall hdigits (by decide), ?_⟩
      rw [(tight_of_forall_isHeadChar hdigits).trim_eq, predicate_numeral hnumeral hpos]
  | @equals left right make value hside h =>
      rw [hside.hasBracket_eq, List.contains_eq_mem, decide_eq_false_iff_not] at hp
      have hleft : ']' ∉ left := not_mem_of_forall hside.forall_isHeadChar (by decide)
      cases h with
      | @mk quote value hquote h =>
          have hquote' : ']' ≠ quote := by rcases hquote with rfl | rfl <;> decide
          refine ⟨by simp [hleft, hp, hquote'], ?_⟩
          have hend : trimEnd (value.toList ++ [quote]) = value.toList ++ [quote] :=
            trimEnd_eq_self (by simp [isBlank_quote hquote])
          rw [hside.predicate_eq hquote, hend, dropEnd?_append]
          simp

/-- Of a predicate with a closing bracket in its value a part is read, and its quote is not closed. -/
theorem Grammar.Condition.cut (h : Condition s p) (hp : p.hasBracket = true) (rest : List Char) :
    ∃ body after, cutAt? ']' (s ++ rest) = some (body, after) ∧
      predicate (trim body) = .error .unquotedValue := by
  cases h with
  | position => cases hp
  | @equals left right make value hside h =>
      rw [hside.hasBracket_eq, List.contains_iff_mem] at hp
      have hleft : ']' ∉ left := not_mem_of_forall hside.forall_isHeadChar (by decide)
      cases h with
      | @mk quote value hquote h =>
          have hquote' : ']' ≠ quote := by rcases hquote with rfl | rfl <;> decide
          obtain ⟨before, after, hvalue, hbefore⟩ := List.eq_append_cons_of_mem hp
          have hbody : ']' ∉ left ++ '=' :: quote :: before := by simp [hleft, hbefore, hquote']
          refine ⟨left ++ '=' :: quote :: before, after ++ quote :: rest, ?_, ?_⟩
          · simpa [hvalue] using cutAt?_append hbody (after ++ quote :: rest)
          · -- What is left of the value has its opening quote and no other one.
            have hfront := trimEnd_prefix before
            have hopen : quote ∉ trimEnd before := fun hmem =>
              h (by simp [hvalue, hfront.subset hmem])
            rw [hside.predicate_eq hquote, dropEnd?_eq_none hopen]

/-- Predicates are read up to the first one with a closing bracket in its value. -/
theorem Grammar.Conditions.read (h : Conditions s predicates) {fuel : Nat} (hfuel : s.length ≤ fuel) :
    NodePath.predicates fuel s =
      if predicates.any Predicate.hasBracket then .error .unquotedValue else .ok predicates := by
  induction h generalizing fuel with
  | nil =>
      unfold NodePath.predicates
      rfl
  | @cons s rest p more h _ ih =>
      cases fuel with
      | zero => simp at hfuel
      | succ fuel =>
          rw [NodePath.predicates]
          cases hp : p.hasBracket with
          | true =>
              obtain ⟨body, after, hcut, hread⟩ := h.cut hp (']' :: rest)
              simp [hcut, hread, hp, bind, Except.bind]
          | false =>
              obtain ⟨hs, hread⟩ := h.read hp
              have hlength : rest.length ≤ fuel := by
                simp at hfuel
                omega
              have hrest := ih hlength
              simp only [cutAt?_append hs, hread, hrest, hp, List.any_cons, Bool.false_or]
              cases more.any Predicate.hasBracket <;> rfl

/-! ## Steps -/

theorem ne_cons_of_isName (h : isName s = true) (hc : isNameChar c = false) : s ≠ c :: rest := by
  rintro rfl
  exact absurd (forall_isNameChar h c List.mem_cons_self) (by simp [hc])

/-- What is read of a test: steps to parents are refused. -/
theorem Grammar.Head.read {test : Test} (h : Head axis s moved test) :
    NodePath.test axis s = if test = .name ".." then .error .parentStep else .ok (moved, test) := by
  cases h with
  | @name name h hself =>
      have hword {word : String} {c : Char} {t : List Char} (hc : isNameChar c = false)
          (hword : word.toList = c :: t) : name ≠ word := by
        rintro rfl
        exact ne_cons_of_isName h hc hword
      have hany : name ≠ "*" := hword (by decide) rfl
      have hattr : name ≠ "@*" := hword (by decide) rfl
      have htext : name ≠ "text()" := by
        rintro rfl
        exact absurd h (by decide)
      have hat (rest : List Char) : name.toList ≠ '@' :: rest := ne_cons_of_isName h (by decide)
      by_cases hparent : name = ".."
      · subst hparent
        rfl
      · simp [NodePath.test, hself, hparent, hany, hattr, htext, h]
  | @attr name h =>
      have hword {word : String} (hword : '@' :: name.toList ≠ word.toList) : "@" ++ name ≠ word := by
        rintro rfl
        exact hword (by simp)
      have hself : "@" ++ name ≠ "." := hword (by simp)
      have hparent : "@" ++ name ≠ ".." := hword (by simp)
      have hany : "@" ++ name ≠ "*" := hword (by simp)
      have hattr : "@" ++ name ≠ "@*" := hword fun heq =>
        ne_cons_of_isName h (c := '*') (by decide) (List.cons.inj heq).2
      have htext : "@" ++ name ≠ "text()" := hword (by simp)
      simp [NodePath.test, hself, hparent, hany, hattr, htext, h]
  | _ => rfl

/-- Why a step that is written as it should be is refused. -/
def Step.refusal? (s : Step) : Option Problem :=
  if s.predicates.any Predicate.hasBracket then some .unquotedValue
  else if s.test = .name ".." then some .parentStep
  else none

theorem Grammar.Conditions.stopsAt (h : Conditions s predicates) : StopsAt (· != '[') s := by
  cases h with
  | nil => exact .nil
  | cons => exact .cons (by decide)

theorem Grammar.Location.read (h : Location axis s st) :
    NodePath.step axis s = st.refusal?.elim (.ok st) .error := by
  cases h with
  | @mk s t moved test predicates h hp =>
      have hbracket : ∀ c ∈ s, (c != '[') = true := by
        intro c hc
        have hne : '[' ∉ s := not_mem_of_forall h.forall_isHeadChar (by decide)
        simpa using fun hcb : c = '[' => hne (hcb ▸ hc)
      obtain ⟨hhead, hrest⟩ := span_eq_iff.mpr ⟨rfl, hbracket, hp.stopsAt⟩
      simp only [NodePath.step, hhead, hrest, hp.read (Nat.le_refl _), h.read, Step.refusal?]
      cases predicates.any Predicate.hasBracket with
      | true => rfl
      | false => by_cases ht : test = .name ".." <;> simp [ht] <;> rfl

theorem Grammar.Location.ne_nil (h : Location axis s st) : s ≠ [] := by
  cases h with
  | mk h => simp [h.ne_nil]

/-! ## Paths -/

/-- The steps, if none of them is refused, or why the first one is that is. -/
def outcome (steps : List Step) : Except Problem (List Step) :=
  (steps.findSome? Step.refusal?).elim (.ok steps) .error

theorem outcome_cons (st : Step) (steps : List Step) :
    outcome (st :: steps) = (do
      let st ← st.refusal?.elim (.ok st) .error
      .ok (st :: (← outcome steps))) := by
  rw [outcome, List.findSome?_cons, outcome]
  cases st.refusal? with
  | some problem => rfl
  | none => cases steps.findSome? Step.refusal? <;> rfl

theorem readSteps_last {first : List Char} (h : cutStep? 0 none s = some (first, []))
    (hne : first ≠ []) (fuel : Nat) (axis : Axis) :
    readSteps (fuel + 1) axis s = (step axis first).map fun st => [st] := by
  obtain ⟨c, first, rfl⟩ := List.exists_cons_of_ne_nil hne
  rw [readSteps, h]
  rfl

theorem readSteps_child {first : List Char} (h : cutStep? 0 none s = some (first, '/' :: c :: rest))
    (hne : first ≠ []) (hc : c ≠ '/') (fuel : Nat) (axis : Axis) :
    readSteps (fuel + 1) axis s = (do
      let st ← step axis first
      .ok (st :: (← readSteps fuel .child (c :: rest)))) := by
  obtain ⟨d, first, rfl⟩ := List.exists_cons_of_ne_nil hne
  rw [readSteps, h]
  simp [hc]

theorem readSteps_descendant {first : List Char}
    (h : cutStep? 0 none s = some (first, '/' :: '/' :: c :: rest)) (hne : first ≠ [])
    (fuel : Nat) (axis : Axis) :
    readSteps (fuel + 1) axis s = (do
      let st ← step axis first
      .ok (st :: (← readSteps fuel .descendant (c :: rest)))) := by
  obtain ⟨d, first, rfl⟩ := List.exists_cons_of_ne_nil hne
  rw [readSteps, h]
  rfl

theorem Grammar.Locations.eq_cons (h : Locations axis s steps) :
    ∃ c t, s = c :: t ∧ isHeadChar c = true := by
  have hstep {axis : Axis} {s : List Char} {st : Step} (h : Location axis s st) (rest : List Char) :
      ∃ c t, s ++ rest = c :: t ∧ isHeadChar c = true := by
    cases h with
    | @mk s t moved test predicates h hp =>
        obtain ⟨c, u, rfl⟩ := List.exists_cons_of_ne_nil h.ne_nil
        exact ⟨c, _, rfl, h.forall_isHeadChar c List.mem_cons_self⟩
  cases h with
  | last h => simpa using hstep h []
  | child h => exact hstep h _
  | descendant h => exact hstep h _

theorem ne_slash_of_isHeadChar (h : isHeadChar c = true) : c ≠ '/' := by
  rintro rfl
  exact absurd h (by decide)

theorem Grammar.Locations.read (h : Locations axis s steps) {fuel : Nat} (hfuel : s.length < fuel) :
    readSteps fuel axis s = outcome steps := by
  induction h generalizing fuel with
  | @last axis s st h =>
      obtain ⟨fuel, rfl⟩ := Nat.exists_eq_add_one_of_ne_zero (Nat.ne_zero_of_lt hfuel)
      have hcut : cutStep? 0 none s = some (s, []) := by
        have hend := @Location.cut s [] axis st h rfl
        rwa [List.append_nil] at hend
      rw [readSteps_last hcut h.ne_nil, h.read, outcome, List.findSome?_singleton]
      cases st.refusal? <;> rfl
  | @child axis s rest st more h hrest ih =>
      obtain ⟨fuel, rfl⟩ := Nat.exists_eq_add_one_of_ne_zero (Nat.ne_zero_of_lt hfuel)
      have hlength : rest.length < fuel := by
        simp at hfuel
        omega
      have hread := ih hlength
      obtain ⟨c, t, rfl, hc⟩ := hrest.eq_cons
      rw [readSteps_child (h.cut rfl) h.ne_nil (ne_slash_of_isHeadChar hc), h.read, hread,
        outcome_cons]
  | @descendant axis s rest st more h hrest ih =>
      obtain ⟨fuel, rfl⟩ := Nat.exists_eq_add_one_of_ne_zero (Nat.ne_zero_of_lt hfuel)
      have hlength : rest.length < fuel := by
        simp at hfuel
        omega
      have hread := ih hlength
      obtain ⟨c, t, rfl, hc⟩ := hrest.eq_cons
      rw [readSteps_descendant (h.cut rfl) h.ne_nil, h.read, hread, outcome_cons]

theorem Grammar.Conditions.ends (h : Conditions s predicates) :
    ∀ c ∈ s.getLast?, isBlank c = false := by
  induction h with
  | nil => exact fun _ hc => absurd hc (by simp)
  | @cons s rest p more _ _ ih =>
      have hbracket := (tight_singleton (c := ']') (by decide)).last
      have hclosed : ∀ c ∈ ('[' :: s ++ [']']).getLast?, isBlank c = false := by
        rw [List.getLast?_concat]
        exact hbracket
      simpa using last_append hclosed ih

theorem Grammar.Locations.ends (h : Locations axis s steps) :
    ∀ c ∈ s.getLast?, isBlank c = false := by
  have hslash := (tight_singleton (c := '/') (by decide)).last
  have hstep {axis : Axis} {s : List Char} {st : Step} (h : Location axis s st) :
      ∀ c ∈ s.getLast?, isBlank c = false := by
    cases h with
    | mk h hp => exact last_append (tight_of_forall_isHeadChar h.forall_isHeadChar).last hp.ends
  induction h with
  | last h => exact hstep h
  | child h _ ih => exact last_append (hstep h) (last_append hslash ih)
  | descendant h _ ih =>
      exact last_append (hstep h) (last_append hslash (last_append hslash ih))

theorem Grammar.Locations.tight (h : Locations axis s steps) : Tight s := by
  refine ⟨?_, h.ends⟩
  obtain ⟨c, t, rfl, hc⟩ := h.eq_cons
  simpa using isBlank_of_isHeadChar hc

theorem tight_slash (hs : Tight s) : Tight ('/' :: s) :=
  Tight.append (a := []) (tight_singleton (by decide)) (List.cons_ne_nil _ _) hs

theorem Grammar.Expression.tight {isAbsolute : Bool} (h : Expression s isAbsolute steps) : Tight s := by
  cases h with
  | child h => exact tight_slash h.tight
  | descendant h => exact tight_slash (tight_slash h.tight)
  | relative h => exact h.tight

theorem Grammar.Expression.ne_nil {isAbsolute : Bool} (h : Expression s isAbsolute steps) :
    s ≠ [] := by
  cases h with
  | child => exact List.cons_ne_nil _ _
  | descendant => exact List.cons_ne_nil _ _
  | relative h =>
      obtain ⟨c, t, rfl, _⟩ := h.eq_cons
      exact List.cons_ne_nil _ _

theorem Grammar.Expression.lead_eq {isAbsolute : Bool} (h : Expression s isAbsolute steps) :
    ∃ axis t, lead s = (isAbsolute, axis, t) ∧ Locations axis t steps ∧ t.length ≤ s.length := by
  cases h with
  | @child s steps h =>
      refine ⟨.child, s, ?_, h, by simp⟩
      obtain ⟨c, t, rfl, hc⟩ := h.eq_cons
      simp [lead, ne_slash_of_isHeadChar hc]
  | @descendant s steps h => exact ⟨.descendant, s, rfl, h, by simp; omega⟩
  | @relative s steps h =>
      refine ⟨.child, s, ?_, h, Nat.le_refl _⟩
      obtain ⟨c, t, rfl, hc⟩ := h.eq_cons
      simp [lead, ne_slash_of_isHeadChar hc]

/-- A node path of the grammar is read as its steps, unless there is a closing bracket in one of its
values or a step to a parent in it. -/
theorem parse_of_expression {isAbsolute : Bool} (h : Expression s isAbsolute steps) :
    parse (String.ofList s) = (steps.findSome? Step.refusal?).elim
      (.ok ⟨isAbsolute, steps, String.ofList s⟩) fun problem => .error ⟨problem, String.ofList s⟩ := by
  obtain ⟨axis, t, hlead, hsteps, hlength⟩ := h.lead_eq
  rw [parse, String.toList_ofList, h.tight.trim_eq]
  dsimp only
  rw [List.isEmpty_eq_false_iff.mpr h.ne_nil, hlead]
  dsimp only
  rw [hsteps.read (by omega), outcome]
  cases steps.findSome? Step.refusal? <;> rfl

theorem expression_titled :
    Expression ".//item[@title=\"a='/b[\"][2]/@*".toList false
      [⟨.self, .anyElement, []⟩,
        ⟨.descendant, .name "item", [.attr "title" "a='/b[", .position 2]⟩,
        ⟨.child, .anyAttribute, []⟩] := by
  have htitle : Condition "@title=\"a='/b[\"".toList (.attr "title" "a='/b[") :=
    .equals (@Side.attr "title" rfl) (@Value.mk '"' "a='/b[" (Or.inr rfl) (by decide))
  have hsecond : Condition ['2'] (.position 2) := @Condition.position 2 (by decide) (by decide)
  have hitem : Head .descendant "item".toList .descendant (.name "item") :=
    @Head.name _ "item" rfl (by decide)
  exact .relative (.descendant (.mk .self .nil)
    (.child (.mk hitem (.cons htitle (.cons hsecond .nil))) (.last (.mk .anyAttribute .nil))))

theorem parse_of_expression_titled :
    Expression ".//item[@title=\"a='/b[\"][2]/@*".toList false
        [⟨.self, .anyElement, []⟩,
          ⟨.descendant, .name "item", [.attr "title" "a='/b[", .position 2]⟩,
          ⟨.child, .anyAttribute, []⟩] ∧
      parse ".//item[@title=\"a='/b[\"][2]/@*" = .ok ⟨false,
        [⟨.self, .anyElement, []⟩,
          ⟨.descendant, .name "item", [.attr "title" "a='/b[", .position 2]⟩,
          ⟨.child, .anyAttribute, []⟩],
        ".//item[@title=\"a='/b[\"][2]/@*"⟩ :=
  ⟨expression_titled, parse_of_expression expression_titled⟩

/-- A closing bracket in a value ends the predicate, although it stands between quotes. -/
theorem parse_bracket_in_value :
    Expression "/feed/item[@title='a]b']".toList true
        [⟨.child, .name "feed", []⟩, ⟨.child, .name "item", [.attr "title" "a]b"]⟩] ∧
      parse "/feed/item[@title='a]b']" = .error ⟨.unquotedValue, "/feed/item[@title='a]b']"⟩ := by
  have htitle : Condition "@title='a]b'".toList (.attr "title" "a]b") :=
    .equals (@Side.attr "title" rfl) (@Value.mk '\'' "a]b" (Or.inl rfl) (by decide))
  have hfeed : Head .child "feed".toList .child (.name "feed") :=
    @Head.name _ "feed" rfl (by decide)
  have hitem : Head .child "item".toList .child (.name "item") :=
    @Head.name _ "item" rfl (by decide)
  exact ⟨.child (.child (.mk hfeed .nil) (.last (.mk hitem (.cons htitle .nil)))), rfl⟩

end Recast.NodePath
