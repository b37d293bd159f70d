import Recast.NodePath.Printer
import Recast.Proofs.NodePath.Compose
import Recast.Proofs.NodePath.Grammar
import Recast.Proofs.NodePath.Reading

/-!
# Reading what is written

The text of a node path is read as its steps if they are legible and the quotes and brackets of their
values match. Values are written between apostrophes whatever is in them, so they need not. What is
read may start elsewhere: only a slash in front makes a text absolute, and a descent or a step to the
node itself is written alike in absolute and in relative paths.
-/

namespace Recast.NodePath

open Text Grammar
open Markup (Node)
open Recast.Path (Selector)

variable {s t rest : List Char} {depth depth' : Nat} {quote quote' : Option Char} {c : Char}
  {axis : Axis} {p : Predicate} {predicates : List Predicate} {st first : Step} {steps more : List Step}

/-! ## The text of a step -/

/-- What is written between the brackets of a predicate. -/
def Predicate.body : Predicate → List Char
  | position n => (toString n).toList
  | attr name value => '@' :: name.toList ++ '=' :: '\'' :: (value.toList ++ ['\''])
  | child name value => name.toList ++ '=' :: '\'' :: (value.toList ++ ['\''])

theorem Predicate.render_toList (p : Predicate) : p.render.toList = '[' :: (p.body ++ [']']) := by
  cases p <;> simp [Predicate.render, Predicate.body]

/-- The predicates of a step, as they are written. -/
def conditions (predicates : List Predicate) : List Char :=
  predicates.flatMap fun p => '[' :: (p.body ++ [']'])

def Step.head (s : Step) : List Char := if s.axis = .self then ['.'] else s.test.render.toList

def Step.text (s : Step) : List Char := s.head ++ conditions s.predicates

def Axis.slashes : Axis → List Char
  | descendant => ['/', '/']
  | child | self => ['/']

/-- The axis that is read from the slashes in front of a step. -/
def Axis.written : Axis → Axis
  | descendant => .descendant
  | child | self => .child

/-- Steps that stand behind others. -/
def slashed (steps : List Step) : List Char := steps.flatMap fun s => s.axis.slashes ++ s.text

theorem conditions_eq (predicates : List Predicate) :
    (String.join (predicates.map Predicate.render)).toList = conditions predicates := by
  simp [String.toList_join, conditions, List.flatMap_map, Predicate.render_toList]

theorem Step.render_toList (s : Step) (isFirst isAbsolute : Bool) :
    (s.render isFirst isAbsolute).toList = (s.axis.lead isFirst isAbsolute).toList ++ s.text := by
  unfold Step.render Step.text Step.head
  rw [String.toList_append, String.toList_append, conditions_eq]
  cases s.axis <;> simp

theorem slashed_eq (steps : List Step) (isAbsolute : Bool) :
    (String.join (steps.map (Step.render false isAbsolute))).toList = slashed steps := by
  have hstep (s : Step) : (s.render false isAbsolute).toList = s.axis.slashes ++ s.text := by
    rw [Step.render_toList]
    cases s.axis <;> simp [Axis.lead, Axis.slashes]
  simp [String.toList_join, slashed, List.flatMap_map, hstep]

/-! ## Predicates -/

theorem Grammar.Side.read {left : List Char} {make : String → Predicate} {value : String}
    (h : Side left make) (hvalue : ']' ∉ value.toList) :
    ']' ∉ left ++ '=' :: '\'' :: (value.toList ++ ['\'']) ∧
      predicate (trim (left ++ '=' :: '\'' :: (value.toList ++ ['\'']))) = .ok (make value) := by
  have hleft : ']' ∉ left := not_mem_of_forall h.forall_isHeadChar (by decide)
  have hend : trimEnd (value.toList ++ ['\'']) = value.toList ++ ['\''] :=
    trimEnd_eq_self (by simp [isBlank_quote])
  refine ⟨by simp [hleft, hvalue], ?_⟩
  rw [h.predicate_eq (Or.inl rfl), hend, dropEnd?_append]
  simp

theorem Predicate.read (h : p.isLegible = true) :
    ']' ∉ p.body ∧ predicate (trim p.body) = .ok p := by
  cases p with
  | position n =>
      simp only [Predicate.isLegible, Bool.and_eq_true, decide_eq_true_eq] at h
      exact (Condition.position h.1 h.2).read rfl
  | attr name value =>
      have hside : isName name.toList = true ∧ ']' ∉ value.toList := by
        simpa [Predicate.isLegible] using h
      exact (Side.attr hside.1).read hside.2
  | child name value =>
      have hside : isName name.toList = true ∧ ']' ∉ value.toList := by
        simpa [Predicate.isLegible] using h
      exact (Side.child hside.1).read hside.2

theorem predicates_append (h : ∀ p ∈ predicates, p.isLegible = true) (rest : List Char) {fuel : Nat}
    (hfuel : (conditions predicates).length ≤ fuel) :
    ∃ left, NodePath.predicates fuel (conditions predicates ++ rest) =
      (NodePath.predicates left rest).map (predicates ++ ·) := by
  induction predicates generalizing fuel with
  | nil =>
      refine ⟨fuel, ?_⟩
      simp [conditions]
      cases NodePath.predicates fuel rest <;> rfl
  | cons p predicates ih =>
      obtain ⟨hp, hpredicates⟩ := List.forall_mem_cons.mp h
      obtain ⟨hclosing, hread⟩ := Predicate.read hp
      have hcons : conditions (p :: predicates) = '[' :: (p.body ++ ']' :: conditions predicates) := by
        simp [conditions]
      rw [hcons] at hfuel ⊢
      cases fuel with
      | zero => simp at hfuel
      | succ fuel =>
          have hlength : (conditions predicates).length ≤ fuel := by
            simp at hfuel
            omega
          obtain ⟨left, hleft⟩ := ih hpredicates hlength
          refine ⟨left, ?_⟩
          rw [List.cons_append, List.append_assoc, List.cons_append, NodePath.predicates,
            cutAt?_append hclosing]
          simp only [hread, hleft]
          cases NodePath.predicates left rest <;> rfl

theorem predicates_conditions (h : ∀ p ∈ predicates, p.isLegible = true) :
    NodePath.predicates (conditions predicates).length (conditions predicates) = .ok predicates := by
  obtain ⟨left, hleft⟩ := predicates_append h [] (Nat.le_refl _)
  rw [List.append_nil] at hleft
  rw [hleft]
  cases left <;> simp [NodePath.predicates, Except.map]

/-- Nothing but a bracket can follow a predicate. -/
theorem predicates_slash (h : ∀ p ∈ predicates, p.isLegible = true) (rest : List Char) {fuel : Nat}
    (hfuel : (conditions predicates).length ≤ fuel) :
    NodePath.predicates fuel (conditions predicates ++ '/' :: rest) = .error .badPredicate := by
  obtain ⟨left, hleft⟩ := predicates_append h ('/' :: rest) hfuel
  rw [hleft]
  cases left <;> rfl

/-! ## Steps -/

theorem Step.isLegible_iff : st.isLegible = true ↔
    (if st.axis = .self then st.test = .anyElement else st.test.isLegible = true) ∧
      ∀ p ∈ st.predicates, p.isLegible = true := by
  unfold Step.isLegible
  rw [Bool.and_eq_true, List.all_eq_true]
  split <;> simp

theorem Test.head {test : Test} (h : test.isLegible = true) (axis : Axis) :
    Head axis test.render.toList axis test ∧ test ≠ .name ".." := by
  cases test with
  | name n =>
      simp only [Test.isLegible, Bool.and_eq_true, bne_iff_ne] at h
      exact ⟨.name h.1.1 h.1.2, fun heq => h.2 (Test.name.inj heq)⟩
  | anyElement => exact ⟨.anyElement, by simp⟩
  | attr n => exact ⟨by simpa [Test.render] using Head.attr h, by simp⟩
  | anyAttribute => exact ⟨.anyAttribute, by simp⟩
  | text => exact ⟨.text, by simp⟩

/-- The head of a legible step is one of the grammar, along its own axis or, for a step to the node
itself, any other. -/
theorem Step.head_of_isLegible (h : st.isLegible = true) (haxis : st.axis = axis ∨ st.axis = .self) :
    Head axis st.head st.axis st.test ∧ st.test ≠ .name ".." := by
  have htest := (Step.isLegible_iff.mp h).1
  unfold Step.head
  split at htest
  · rename_i hself
    rw [if_pos hself, hself, htest]
    exact ⟨.self, by simp⟩
  · rename_i hself
    rw [if_neg hself, haxis.resolve_right hself]
    exact Test.head htest axis

theorem Step.span_text (h : st.isLegible = true) (rest : List Char)
    (hrest : st.predicates = [] → StopsAt (· != '[') rest) :
    (st.text ++ rest).takeWhile (· != '[') = st.head ∧
      (st.text ++ rest).dropWhile (· != '[') = conditions st.predicates ++ rest := by
  obtain ⟨hhead, _⟩ := Step.head_of_isLegible h (Or.inl rfl)
  have hopening : '[' ∉ st.head := not_mem_of_forall hhead.forall_isHeadChar (by decide)
  refine span_eq_iff.mpr ⟨List.append_assoc .., fun c hc => ?_, ?_⟩
  · simpa using fun heq : c = '[' => hopening (heq ▸ hc)
  · cases hpredicates : st.predicates with
    | nil => exact hrest hpredicates
    | cons => exact .cons (by decide)

theorem step_text (h : st.isLegible = true) (haxis : st.axis = axis ∨ st.axis = .self) :
    step axis st.text = .ok st := by
  obtain ⟨hhead, hparent⟩ := Step.head_of_isLegible h haxis
  have hspan := Step.span_text h [] fun _ => .nil
  simp only [List.append_nil] at hspan
  simp only [step, hspan, predicates_conditions (Step.isLegible_iff.mp h).2, hhead.read,
    if_neg hparent]
  rfl

/-- A step is refused with anything but a predicate behind its predicates. -/
theorem step_slash (h : st.isLegible = true) (hne : st.predicates ≠ []) (axis : Axis)
    (rest : List Char) : step axis (st.text ++ '/' :: rest) = .error .badPredicate := by
  have hspan := Step.span_text h ('/' :: rest) fun hnil => absurd hnil hne
  simp only [step, hspan]
  rw [predicates_slash (Step.isLegible_iff.mp h).2 rest (by simp)]
  rfl

/-! ## Cutting -/

/-- Cutting goes over the text, from some open brackets and an open quote to others. -/
def Crosses (depth : Nat) (quote : Option Char) (s : List Char) (depth' : Nat)
    (quote' : Option Char) : Prop :=
  ∀ rest, cutStep? depth quote (s ++ rest) =
    (cutStep? depth' quote' rest).map fun (a, b) => (s ++ a, b)

theorem Crosses.nil : Crosses depth quote [] depth quote := by
  intro rest
  simp

theorem Crosses.append {depth'' : Nat} {quote'' : Option Char}
    (hs : Crosses depth quote s depth' quote') (ht : Crosses depth' quote' t depth'' quote'') :
    Crosses depth quote (s ++ t) depth'' quote'' := by
  intro rest
  rw [List.append_assoc, hs, ht, Option.map_map]
  simp [Function.comp_def]

theorem Crosses.cons {depth'' : Nat} {quote'' : Option Char}
    (hc : Crosses depth quote [c] depth' quote') (ht : Crosses depth' quote' t depth'' quote'') :
    Crosses depth quote (c :: t) depth'' quote'' :=
  hc.append ht

/-- Inside brackets nothing is cut, and only a closing bracket leads out of them. -/
theorem crosses_char (hdepth : 0 < depth) (hc : c ≠ ']') (quote : Option Char) :
    ∃ depth' quote', 0 < depth' ∧ Crosses depth quote [c] depth' quote' := by
  cases quote with
  | some q => exact ⟨depth, if c == q then none else some q, hdepth, fun rest => rfl⟩
  | none =>
      refine ⟨if c == '[' then depth + 1 else depth, if c == '\'' || c == '"' then some c else none,
        by split <;> omega, fun rest => ?_⟩
      simp [cutStep?, hc, Nat.ne_of_gt hdepth]

theorem crosses_inside (hdepth : 0 < depth) (hs : ']' ∉ s) (quote : Option Char) :
    ∃ depth' quote', 0 < depth' ∧ Crosses depth quote s depth' quote' := by
  induction s generalizing depth quote with
  | nil => exact ⟨depth, quote, hdepth, .nil⟩
  | cons c s ih =>
      obtain ⟨hc, hs⟩ := List.ne_and_not_mem_of_not_mem_cons hs
      obtain ⟨depth₁, quote₁, hdepth₁, hfirst⟩ := crosses_char hdepth (Ne.symm hc) quote
      obtain ⟨depth₂, quote₂, hdepth₂, hrest⟩ := ih hdepth₁ hs quote₁
      exact ⟨depth₂, quote₂, hdepth₂, hfirst.cons hrest⟩

/-- A quote that is open outside of brackets does not occur between predicates. -/
theorem crosses_predicate (hquote : depth = 0 → quote = none) (hs : ']' ∉ s) :
    ∃ depth' quote', (depth' = 0 → quote' = none) ∧
      Crosses depth quote ('[' :: (s ++ [']'])) depth' quote' := by
  have hopen : ∃ depth₁ quote₁, 0 < depth₁ ∧ Crosses depth quote ['['] depth₁ quote₁ := by
    rcases Nat.eq_zero_or_pos depth with rfl | hdepth
    · rw [hquote rfl]
      exact ⟨1, none, Nat.one_pos, fun rest => rfl⟩
    · exact crosses_char hdepth (by decide) quote
  obtain ⟨depth₁, quote₁, hdepth₁, hfirst⟩ := hopen
  obtain ⟨depth₂, quote₂, hdepth₂, hinside⟩ := crosses_inside hdepth₁ hs quote₁
  have hclose : ∃ depth₃ quote₃, (depth₃ = 0 → quote₃ = none) ∧
      Crosses depth₂ quote₂ [']'] depth₃ quote₃ := by
    cases quote₂ with
    | some q =>
        exact ⟨depth₂, if ']' == q then none else some q, fun hzero => absurd hzero (by omega),
          fun rest => rfl⟩
    | none =>
        refine ⟨depth₂ - 1, none, fun _ => rfl, fun rest => ?_⟩
        simp [cutStep?, Nat.ne_of_gt hdepth₂]
  obtain ⟨depth₃, quote₃, hquote₃, hlast⟩ := hclose
  exact ⟨depth₃, quote₃, hquote₃, hfirst.cons (hinside.append hlast)⟩

theorem crosses_conditions (hquote : depth = 0 → quote = none)
    (h : ∀ p ∈ predicates, p.isLegible = true) :
    ∃ depth' quote', (depth' = 0 → quote' = none) ∧
      Crosses depth quote (conditions predicates) depth' quote' := by
  induction predicates generalizing depth quote with
  | nil => exact ⟨depth, quote, hquote, .nil⟩
  | cons p predicates ih =>
      obtain ⟨hp, hpredicates⟩ := List.forall_mem_cons.mp h
      obtain ⟨depth₁, quote₁, hquote₁, hfirst⟩ := crosses_predicate hquote (Predicate.read hp).1
      obtain ⟨depth₂, quote₂, hquote₂, hrest⟩ := ih hquote₁ hpredicates
      exact ⟨depth₂, quote₂, hquote₂, hfirst.append hrest⟩

/-- Whether the quotes and brackets of the predicates match, so that they are cut as a whole. -/
def Step.isBalanced (s : Step) : Bool :=
  cutStep? 0 none (conditions s.predicates) == some (conditions s.predicates, [])

theorem Step.crosses_text (h : st.isLegible = true) :
    ∃ depth quote, (depth = 0 → quote = none) ∧ (st.isBalanced = true ↔ depth = 0) ∧
      Crosses 0 none st.text depth quote := by
  obtain ⟨hhead, _⟩ := Step.head_of_isLegible h (Or.inl rfl)
  have hfront : Crosses 0 none st.head 0 none := Passes.of_forall_isHeadChar hhead.forall_isHeadChar
  obtain ⟨depth, quote, hquote, hconditions⟩ :=
    crosses_conditions (fun _ => rfl) (Step.isLegible_iff.mp h).2
  have hwhole := hconditions []
  rw [List.append_nil] at hwhole
  refine ⟨depth, quote, hquote, ?_, hfront.append hconditions⟩
  rw [Step.isBalanced, hwhole, beq_iff_eq]
  constructor
  · intro hsome
    simp_all [cutStep?]
  · intro hzero
    simp [cutStep?, hzero, hquote hzero]

theorem Step.cut_of_isBalanced (h : st.isLegible = true) (hbalanced : st.isBalanced = true)
    (rest : List Char) (hrest : rest.head?.all (· == '/') = true) :
    cutStep? 0 none (st.text ++ rest) = some (st.text, rest) := by
  obtain ⟨depth, quote, hquote, hiff, hcross⟩ := Step.crosses_text h
  have hzero := hiff.mp hbalanced
  rw [hcross, hzero, hquote hzero]
  cases rest with
  | nil => simp [cutStep?]
  | cons c rest =>
      obtain rfl : c = '/' := by simpa using hrest
      simp [cutStep?]

/-- Cutting goes over the slash behind a step whose quotes and brackets do not match. -/
theorem Step.cut_of_not_isBalanced (h : st.isLegible = true) (hbalanced : st.isBalanced = false)
    (hrest : rest.head?.all (· == '/') = true) {front back : List Char}
    (hcut : cutStep? 0 none (st.text ++ rest) = some (front, back)) :
    ∃ tail, front = st.text ++ '/' :: tail := by
  obtain ⟨depth, quote, _, hiff, hcross⟩ := Step.crosses_text h
  have hdepth : 0 < depth := Nat.pos_of_ne_zero fun hzero => by
    rw [hiff.mpr hzero] at hbalanced
    cases hbalanced
  rw [hcross] at hcut
  obtain ⟨⟨a, b⟩, hcut, hparts⟩ := Option.map_eq_some_iff.mp hcut
  cases hparts
  cases rest with
  | nil => simp [cutStep?, Nat.ne_of_gt hdepth] at hcut
  | cons c rest =>
      obtain rfl : c = '/' := by simpa using hrest
      obtain ⟨depth', quote', _, hslash⟩ := crosses_char hdepth (c := '/') (by decide) quote
      rw [← List.singleton_append, hslash] at hcut
      obtain ⟨⟨tail, _⟩, _, hparts⟩ := Option.map_eq_some_iff.mp hcut
      cases hparts
      exact ⟨tail, rfl⟩

/-! ## Steps one after the other -/

theorem Step.text_eq_cons (h : st.isLegible = true) :
    ∃ c t, st.text = c :: t ∧ isHeadChar c = true := by
  obtain ⟨hhead, _⟩ := Step.head_of_isLegible h (Or.inl rfl)
  obtain ⟨c, t, hcons⟩ := List.exists_cons_of_ne_nil hhead.ne_nil
  refine ⟨c, t ++ conditions st.predicates, ?_, hhead.forall_isHeadChar c (by simp [hcons])⟩
  rw [Step.text, hcons, List.cons_append]

theorem slashed_head? (steps : List Step) : (slashed steps).head?.all (· == '/') = true := by
  cases steps with
  | nil => rfl
  | cons s steps => cases haxis : s.axis <;> simp [slashed, haxis, Axis.slashes]

theorem Step.ne_nil_of_not_isBalanced (h : st.isBalanced = false) : st.predicates ≠ [] := by
  intro hnil
  simp [Step.isBalanced, hnil, conditions, cutStep?] at h

/-- What is cut behind a step that does not match is no step. -/
theorem readSteps_of_not_isBalanced (h : st.isLegible = true) (hbalanced : st.isBalanced = false)
    (hrest : rest.head?.all (· == '/') = true) (fuel : Nat) (axis : Axis) :
    (readSteps fuel axis (st.text ++ rest)).toOption = none := by
  cases fuel with
  | zero => rfl
  | succ fuel =>
      unfold readSteps
      split
      · rfl
      · rfl
      · rename_i front back _ hcut
        obtain ⟨tail, rfl⟩ := Step.cut_of_not_isBalanced h hbalanced hrest hcut
        rw [step_slash h (Step.ne_nil_of_not_isBalanced hbalanced)]
        rfl

theorem Axis.written_eq (axis : Axis) : axis = axis.written ∨ axis = .self := by
  cases axis <;> simp [Axis.written]

theorem readSteps_of_isBalanced {second : Step} (h : st.isLegible = true)
    (hbalanced : st.isBalanced = true) (haxis : st.axis = axis ∨ st.axis = .self)
    (hsecond : second.isLegible = true) (fuel : Nat) (rest : List Char) :
    readSteps (fuel + 1) axis (st.text ++ (second.axis.slashes ++ (second.text ++ rest))) =
      (readSteps fuel second.axis.written (second.text ++ rest)).map (st :: ·) := by
  obtain ⟨_, _, htext, _⟩ := Step.text_eq_cons h
  have hne : st.text ≠ [] := by simp [htext]
  obtain ⟨c, t, hcons, hc⟩ := Step.text_eq_cons hsecond
  have hcut := Step.cut_of_isBalanced h hbalanced (second.axis.slashes ++ (second.text ++ rest))
  rw [hcons] at hcut ⊢
  cases hmoved : second.axis with
  | descendant =>
      rw [hmoved] at hcut
      refine (readSteps_descendant (hcut rfl) hne fuel axis).trans ?_
      rw [step_text h haxis]
      rfl
  | _ =>
      rw [hmoved] at hcut
      refine (readSteps_child (hcut rfl) hne (ne_slash_of_isHeadChar hc) fuel axis).trans ?_
      rw [step_text h haxis]
      rfl

/-- Legible steps are read back, unless cutting goes over the end of one of them. -/
theorem readSteps_slashed (h : ∀ st ∈ first :: more, st.isLegible = true)
    (haxis : first.axis = axis ∨ first.axis = .self) {fuel : Nat}
    (hfuel : (first.text ++ slashed more).length < fuel) :
    (readSteps fuel axis (first.text ++ slashed more)).toOption =
      if (first :: more).all Step.isBalanced then some (first :: more) else none := by
  induction more generalizing first axis fuel with
  | nil =>
      obtain ⟨fuel, rfl⟩ := Nat.exists_eq_add_one_of_ne_zero (Nat.ne_zero_of_lt hfuel)
      have hfirst := h first List.mem_cons_self
      cases hbalanced : first.isBalanced with
      | false => simp [readSteps_of_not_isBalanced hfirst hbalanced (slashed_head? []), hbalanced]
      | true =>
          obtain ⟨_, _, htext, _⟩ := Step.text_eq_cons hfirst
          have hcut := Step.cut_of_isBalanced hfirst hbalanced (slashed []) rfl
          rw [readSteps_last hcut (by simp [htext]), step_text hfirst haxis]
          simp [hbalanced, Except.map, Except.toOption]
  | cons second more ih =>
      obtain ⟨fuel, rfl⟩ := Nat.exists_eq_add_one_of_ne_zero (Nat.ne_zero_of_lt hfuel)
      obtain ⟨hfirst, hmore⟩ := List.forall_mem_cons.mp h
      have hcons : slashed (second :: more) =
          second.axis.slashes ++ (second.text ++ slashed more) := by
        simp [slashed]
      cases hbalanced : first.isBalanced with
      | false =>
          rw [readSteps_of_not_isBalanced hfirst hbalanced (slashed_head? _)]
          simp [hbalanced]
      | true =>
          have hlength : (second.text ++ slashed more).length < fuel := by
            have hslash : 0 < second.axis.slashes.length := by cases second.axis <;> decide
            simp [hcons] at hfuel ⊢
            omega
          have hrest := ih hmore second.axis.written_eq hlength
          have hall : (first :: second :: more).all Step.isBalanced =
              (second :: more).all Step.isBalanced := by simp [hbalanced]
          rw [hcons, readSteps_of_isBalanced hfirst hbalanced haxis (hmore second List.mem_cons_self),
            toOption_map, hrest, hall]
          split <;> rfl

theorem conditions_ends (predicates : List Predicate) :
    ∀ c ∈ (conditions predicates).getLast?, isBlank c = false := by
  induction predicates with
  | nil => exact fun _ hc => absurd hc (by simp [conditions])
  | cons p predicates ih =>
      have hcons : conditions (p :: predicates) =
          ('[' :: p.body ++ [']']) ++ conditions predicates := by
        simp [conditions]
      have hclosed : ∀ c ∈ ('[' :: p.body ++ [']']).getLast?, isBlank c = false := by
        rw [List.getLast?_concat]
        exact (tight_singleton (c := ']') (by decide)).last
      rw [hcons]
      exact last_append hclosed ih

theorem Step.tight_text (h : st.isLegible = true) : Tight st.text := by
  obtain ⟨hhead, _⟩ := Step.head_of_isLegible h (Or.inl rfl)
  obtain ⟨c, t, htext, hc⟩ := Step.text_eq_cons h
  refine ⟨by simpa [htext] using isBlank_of_isHeadChar hc, ?_⟩
  exact last_append (tight_of_forall_isHeadChar hhead.forall_isHeadChar).last
    (conditions_ends st.predicates)

theorem slashed_ends (h : ∀ st ∈ steps, st.isLegible = true) :
    ∀ c ∈ (slashed steps).getLast?, isBlank c = false := by
  induction steps with
  | nil => exact fun _ hc => absurd hc (by simp [slashed])
  | cons st steps ih =>
      obtain ⟨hst, hsteps⟩ := List.forall_mem_cons.mp h
      have hslash : isBlank '/' = false := by decide
      have hslashes : ∀ c ∈ st.axis.slashes.getLast?, isBlank c = false := by
        cases st.axis <;> simp [Axis.slashes, hslash]
      exact last_append (last_append hslashes (Step.tight_text hst).last) (ih hsteps)

/-! ## Paths -/

/-- Whether a text whose first step moves along the axis starts at the document when it is read. -/
def Axis.startsAtDocument (isAbsolute : Bool) : Axis → Bool
  | child => isAbsolute
  | descendant => true
  | self => false

def startsAtDocument (p : NodePath) : Bool :=
  match p.steps with
  | [] => p.isAbsolute
  | s :: _ => s.axis.startsAtDocument p.isAbsolute

/-- The steps that are written: a relative path that begins with a step to a child has one to the
node itself before it. -/
def writtenSteps (p : NodePath) : List Step :=
  match p.steps with
  | [] => []
  | s :: rest => if s.axis = .child ∧ p.isAbsolute = false then toSelf :: s :: rest else s :: rest

/-- A node path that is read back as its steps. -/
def isWritable (p : NodePath) : Bool := p.steps.all Step.isLegible && p.steps.all Step.isBalanced

theorem lead_written {atDocument : Bool} (hc : c ≠ '/') (haxis : axis ≠ .self)
    (hchild : atDocument = false → axis = .child) (t : List Char) :
    lead ((if atDocument then axis.slashes else []) ++ c :: t) = (atDocument, axis, c :: t) := by
  cases atDocument with
  | false =>
      rw [hchild rfl]
      simp [lead, hc]
  | true =>
      cases axis with
      | self => exact absurd rfl haxis
      | child => simp [lead, Axis.slashes, hc]
      | descendant => rfl

theorem tight_written (hs : Tight s) (axis : Axis) (atDocument : Bool) :
    Tight ((if atDocument then axis.slashes else []) ++ s) := by
  cases atDocument with
  | false => exact hs
  | true =>
      cases axis with
      | descendant => exact tight_slash (tight_slash hs)
      | _ => exact tight_slash hs

section Parse

variable {path q : NodePath}

theorem render_eq (hne : path.steps ≠ []) : ∃ axis first more,
    path.writtenSteps = first :: more ∧ (first.axis = axis ∨ first.axis = .self) ∧ axis ≠ .self ∧
      (path.startsAtDocument = false → axis = .child) ∧
      path.render.toList =
        (if path.startsAtDocument then axis.slashes else []) ++ (first.text ++ slashed more) := by
  obtain ⟨isAbsolute, steps, source⟩ := path
  obtain ⟨st, rest, rfl⟩ := List.exists_cons_of_ne_nil hne
  have hrender : (render ⟨isAbsolute, st :: rest, source⟩).toList =
      (st.axis.lead true isAbsolute).toList ++ (st.text ++ slashed rest) := by
    rw [render, renderSteps, String.toList_append, Step.render_toList, slashed_eq, List.append_assoc]
  have hstart : startsAtDocument ⟨isAbsolute, st :: rest, source⟩ =
      st.axis.startsAtDocument isAbsolute := rfl
  rw [hrender, hstart]
  cases haxis : st.axis with
  | descendant =>
      exact ⟨.descendant, st, rest, by simp [writtenSteps, haxis], Or.inl haxis, by simp,
        by simp [Axis.startsAtDocument], by simp [Axis.startsAtDocument, Axis.lead, Axis.slashes]⟩
  | self =>
      exact ⟨.child, st, rest, by simp [writtenSteps, haxis], Or.inr haxis, by simp, fun _ => rfl,
        by simp [Axis.startsAtDocument, Axis.lead]⟩
  | child =>
      cases isAbsolute with
      | true =>
          exact ⟨.child, st, rest, by simp [writtenSteps], Or.inl haxis, by simp, fun _ => rfl,
            by simp [Axis.startsAtDocument, Axis.lead, Axis.slashes]⟩
      | false =>
          refine ⟨.child, toSelf, st :: rest, by simp [writtenSteps, haxis], Or.inr rfl, by simp,
            fun _ => rfl, ?_⟩
          have hself : toSelf.text = ['.'] := rfl
          simp [haxis, Axis.startsAtDocument, Axis.lead, Axis.slashes, slashed, hself]

theorem toSelf_isLegible : toSelf.isLegible = true := rfl

theorem toSelf_isBalanced : toSelf.isBalanced = true := rfl

theorem writtenSteps_all {q : Step → Bool} (hself : q toSelf = true) (path : NodePath) :
    path.writtenSteps.all q = path.steps.all q := by
  unfold writtenSteps
  split
  · rename_i hnil
    rw [hnil]
  · rename_i s rest hcons
    rw [hcons]
    split <;> simp [hself]

/-- Legible steps that are written are read, unless the quotes and brackets of one do not match. -/
theorem parse_render_of_isLegible (hne : path.steps ≠ [])
    (h : path.steps.all Step.isLegible = true) :
    (parse path.render).toOption =
      if path.isWritable then some ⟨path.startsAtDocument, path.writtenSteps, path.render⟩
      else none := by
  obtain ⟨axis, first, more, hwritten, hmoved, haxis, hchild, hrender⟩ := render_eq hne
  have hlegible : ∀ st ∈ first :: more, st.isLegible = true := by
    rwa [← hwritten, ← List.all_eq_true, writtenSteps_all toSelf_isLegible]
  have hwritable : path.isWritable = (first :: more).all Step.isBalanced := by
    rw [isWritable, h, Bool.true_and, ← hwritten, writtenSteps_all toSelf_isBalanced]
  obtain ⟨hfirst, hmore⟩ := List.forall_mem_cons.mp hlegible
  obtain ⟨c, t, htext, hc⟩ := Step.text_eq_cons hfirst
  have htight : Tight path.render.toList := by
    rw [hrender]
    exact tight_written
      ((Step.tight_text hfirst).append_ends (by simp [htext]) (slashed_ends hmore)) axis _
  have hlead : lead path.render.toList =
      (path.startsAtDocument, axis, first.text ++ slashed more) := by
    rw [hrender, htext, List.cons_append]
    exact lead_written (ne_slash_of_isHeadChar hc) haxis hchild _
  have hempty : path.render.toList.isEmpty = false := by
    simp [hrender, htext]
  have hlength : (first.text ++ slashed more).length ≤ path.render.toList.length := by
    rw [hrender]
    exact (List.sublist_append_right _ _).length_le
  have hsteps := readSteps_slashed hlegible hmoved (Nat.lt_succ_of_le hlength)
  rw [hwritable, hwritten, parse, htight.trim_eq]
  simp only [hempty, hlead, Bool.false_eq_true, if_false]
  cases hall : (first :: more).all Step.isBalanced with
  | false =>
      rw [hall, if_neg Bool.false_ne_true] at hsteps
      cases hread : readSteps path.render.toList.length.succ axis (first.text ++ slashed more) with
      | error problem => rfl
      | ok steps =>
          rw [hread] at hsteps
          cases hsteps
  | true =>
      rw [hall, if_pos rfl] at hsteps
      rw [toOption_eq_some_iff.mp hsteps, String.ofList_toList]
      rfl

theorem writtenSteps_eq (path : NodePath) :
    path.writtenSteps = path.steps ∨ path.writtenSteps = toSelf :: path.steps := by
  unfold writtenSteps
  split
  · rename_i hnil
    exact Or.inl hnil.symm
  · rename_i s rest hcons
    rw [hcons]
    split
    · exact Or.inr rfl
    · exact Or.inl rfl

theorem parse_render_of_isWritable (hne : path.steps ≠ []) (h : path.isWritable = true) :
    parse path.render = .ok ⟨path.startsAtDocument, path.writtenSteps, path.render⟩ := by
  have hlegible := (Bool.and_eq_true_iff.mp h).1
  apply toOption_eq_some_iff.mp
  rw [parse_render_of_isLegible hne hlegible, if_pos h]

/-- Exactly the paths that are writable are read back as their steps. -/
theorem isWritable_iff (hne : path.steps ≠ []) : path.isWritable = true ↔
    ∃ q, parse path.render = .ok q ∧ (q.steps = path.steps ∨ q.steps = toSelf :: path.steps) := by
  refine ⟨fun h => ⟨_, parse_render_of_isWritable hne h, path.writtenSteps_eq⟩, ?_⟩
  rintro ⟨q, hq, hsteps⟩
  have hread := (legible_of_parse hq).2
  have hlegible : path.steps.all Step.isLegible = true := by
    rw [List.all_eq_true]
    rcases hsteps with hsteps | hsteps
    · exact hsteps ▸ hread
    · rw [hsteps] at hread
      exact (List.forall_mem_cons.mp hread).2
  have hoption := parse_render_of_isLegible hne hlegible
  rw [hq] at hoption
  by_contra hnot
  rw [if_neg hnot] at hoption
  cases hoption

end Parse

/-! ## Values without apostrophes -/

/-- Whether an apostrophe is in the value of a predicate. -/
def Predicate.hasApostrophe : Predicate → Bool
  | position _ => false
  | attr _ value | child _ value => value.toList.contains '\''

theorem Predicate.condition (h : p.isLegible = true) (hp : p.hasApostrophe = false) :
    Condition p.body p := by
  cases p with
  | position n =>
      simp only [Predicate.isLegible, Bool.and_eq_true, decide_eq_true_eq] at h
      exact .position h.1 h.2
  | attr name value =>
      simp only [Predicate.isLegible, Bool.and_eq_true] at h
      exact .equals (.attr h.1) (.mk (Or.inl rfl) (by simpa [Predicate.hasApostrophe] using hp))
  | child name value =>
      simp only [Predicate.isLegible, Bool.and_eq_true] at h
      exact .equals (.child h.1) (.mk (Or.inl rfl) (by simpa [Predicate.hasApostrophe] using hp))

theorem conditions_of_hasApostrophe (h : ∀ p ∈ predicates, p.isLegible = true)
    (hvalues : ∀ p ∈ predicates, p.hasApostrophe = false) :
    Conditions (conditions predicates) predicates := by
  induction predicates with
  | nil => exact .nil
  | cons p predicates ih =>
      obtain ⟨hp, hpredicates⟩ := List.forall_mem_cons.mp h
      obtain ⟨hvalue, hvalues⟩ := List.forall_mem_cons.mp hvalues
      simpa [conditions] using
        Conditions.cons (Predicate.condition hp hvalue) (ih hpredicates hvalues)

theorem Step.isBalanced_of_hasApostrophe (h : st.isLegible = true)
    (hvalues : ∀ p ∈ st.predicates, p.hasApostrophe = false) : st.isBalanced = true := by
  have hpasses := (conditions_of_hasApostrophe (Step.isLegible_iff.mp h).2 hvalues).passes []
  rw [List.append_nil] at hpasses
  simp [Step.isBalanced, hpasses, cutStep?]

end Recast.NodePath
