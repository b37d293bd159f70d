import Recast.NodePath.OfPath
import Recast.Path.Reader
import Recast.Proofs.NodePath.Select
import Recast.Proofs.Outcome

/-!
# Node paths of paths in two parts

A path reads as the node path of its front, from the document, and then as that of its back, from each
node that the front leads to.
-/

namespace Recast.NodePath

open Markup (Node)
open Recast.Path (Selector)

variable {front back sels : List Selector} {sel : Selector} {steps base : List Step}
  {descends : Bool} {d d' : Draft} {p q : NodePath} {isAbsolute : Bool} {root : Node}
  {origin : Path.Root} {i n : Nat}

/-! ## Drafts -/

theorem positionAfter_eq_ok_iff : positionAfter i = .ok n ↔ i + 1 < Nat.pow 2 64 ∧ n = i + 1 := by
  unfold positionAfter
  split <;> simp [*, eq_comm]

/-- What the selector tests nodes for, if it is a step of its own. -/
def testOf? : Selector → Option Test
  | .child name =>
    match name.toList with
    | '@' :: rest => some (.attr (String.ofList rest))
    | _ => some (.name name)
  | .wildcard => some .anyElement
  | .index _ | .fromEnd _ | .descent => none

/-- What a selector adds to a draft: that a descent comes next, a step, or a position that the last
step counts to. -/
inductive Draft.Adds (d : Draft) : Selector → Draft → Prop where
  | descent : d.Adds .descent { d with descends := true }
  | step {sel : Selector} {test : Test} (h : testOf? sel = some test) : d.Adds sel (d.push test)
  | position {i : Nat} {last : Step} {steps : List Step} (hdescends : d.descends = false)
      (hsteps : d.steps = last :: steps) (hi : i + 1 < Nat.pow 2 64) :
      d.Adds (.index i)
        { d with steps :=
          { last with predicates := last.predicates ++ [.position (i + 1)] } :: steps }

theorem Draft.add_child (d : Draft) (name : String) :
    ∃ test, testOf? (.child name) = some test ∧ d.add (.child name) = .ok (d.push test) := by
  unfold testOf? Draft.add
  rcases hname : name.toList with - | ⟨c, rest⟩
  · exact ⟨.name name, by simp [hname], by simp [hname]⟩
  · by_cases hc : c = '@'
    · exact ⟨.attr (String.ofList rest), by simp [hname, hc], by simp [hname, hc]⟩
    · exact ⟨.name name, by simp [hname, hc], by simp [hname, hc]⟩

theorem Draft.add_eq_ok_iff : d.add sel = .ok d' ↔ d.Adds sel d' := by
  constructor
  · intro h
    cases sel with
    | descent =>
        cases h
        exact .descent
    | child name =>
        obtain ⟨test, htest, hadd⟩ := d.add_child name
        cases hadd.symm.trans h
        exact .step htest
    | wildcard =>
        cases h
        exact .step rfl
    | index i =>
        unfold Draft.add at h
        dsimp only at h
        split at h
        · rename_i last steps hdescends hsteps
          obtain ⟨n, hn, h⟩ := bind_eq_ok h
          obtain ⟨hi, rfl⟩ := positionAfter_eq_ok_iff.mp hn
          cases h
          exact .position hdescends hsteps hi
        · cases h
    | fromEnd => cases h
  · rintro (- | h | ⟨hdescends, hsteps, hi⟩)
    · rfl
    · cases sel with
      | child name =>
          obtain ⟨test, htest, hadd⟩ := d.add_child name
          cases htest.symm.trans h
          exact hadd
      | wildcard =>
          cases h
          rfl
      | _ => cases h
    · simp [Draft.add, hdescends, hsteps, positionAfter_eq_ok_iff.mpr ⟨hi, rfl⟩, bind, Except.bind]

/-- Every selector but a descent ends the descent before it. -/
theorem Draft.Adds.descends_eq (h : d.Adds sel d') (hsel : sel ≠ .descent) :
    d'.descends = false := by
  cases h with
  | descent => exact absurd rfl hsel
  | step => rfl
  | position hdescends => exact hdescends

theorem foldlM_add_descends (hlast : front.getLast? ≠ some .descent)
    (h : front.foldlM Draft.add ⟨base, false⟩ = .ok d) : d.descends = false := by
  rcases List.eq_nil_or_concat front with rfl | ⟨init, sel, rfl⟩
  · cases h
    rfl
  · rw [List.concat_eq_append] at h hlast
    rw [List.foldlM_append] at h
    obtain ⟨before, _, h⟩ := bind_eq_ok h
    obtain ⟨after, hadd, h⟩ := bind_eq_ok h
    cases h
    exact (Draft.add_eq_ok_iff.mp hadd).descends_eq (by simpa using hlast)

/-- What is read behind some steps does not depend on them. -/
theorem Draft.Adds.append (h : Draft.Adds ⟨steps, descends⟩ sel d) (base : List Step) :
    Draft.Adds ⟨steps ++ base, descends⟩ sel ⟨d.steps ++ base, d.descends⟩ := by
  cases h with
  | descent => exact .descent
  | step h => exact .step h
  | position hdescends hsteps hi =>
      obtain rfl : steps = _ := hsteps
      exact .position hdescends rfl hi

theorem foldlM_add_append (h : back.foldlM Draft.add ⟨steps, descends⟩ = .ok d) (base : List Step) :
    back.foldlM Draft.add ⟨steps ++ base, descends⟩ = .ok ⟨d.steps ++ base, d.descends⟩ := by
  induction back generalizing steps descends with
  | nil =>
      cases h
      rfl
  | cons sel back ih =>
      rw [List.foldlM_cons] at h ⊢
      obtain ⟨d', hadd, hrest⟩ := bind_eq_ok h
      rw [Draft.add_eq_ok_iff.mpr ((Draft.add_eq_ok_iff.mp hadd).append base)]
      exact ih hrest

/-- What every selector keeps of a draft, a path keeps. -/
theorem foldlM_add_keeps {P : Draft → Prop}
    (hadd : ∀ d d' sel, P d → Draft.Adds d sel d' → P d') {base d : Draft} (hbase : P base)
    (h : front.foldlM Draft.add base = .ok d) : P d := by
  induction front generalizing base with
  | nil =>
      cases h
      exact hbase
  | cons sel front ih =>
      rw [List.foldlM_cons] at h
      obtain ⟨next, hnext, hrest⟩ := bind_eq_ok h
      exact ih (hadd base next sel hbase (Draft.add_eq_ok_iff.mp hnext)) hrest

/-! ## Steps -/

/-- The step to the document element. -/
def toRoot : Step := ⟨.child, .anyElement, []⟩

/-- The step to the node itself. -/
def toSelf : Step := ⟨.self, .anyElement, []⟩

theorem toRoot_select (h : root.isElement = true) : toRoot.select root.document = [root] := by
  simp [toRoot, Step.select, filterAll, Test.matches, Node.elements, Node.document, Node.children, h]

/-- The steps that are read from a draft. -/
def Draft.finished (d : Draft) : List Step :=
  if d.steps.isEmpty then [toSelf] else d.steps.reverse

theorem Draft.selectAll_finished (d : Draft) (n : Node) :
    selectAll d.finished n = selectAll d.steps.reverse n := by
  unfold Draft.finished
  split
  · rename_i h
    rw [List.isEmpty_iff.mp h]
    rfl
  · rfl

theorem ofPath_eq_ok_iff : ofPath ⟨origin, front⟩ isAbsolute = .ok q ↔
    ∃ d, front.foldlM Draft.add ⟨if isAbsolute then [toRoot] else [], false⟩ = .ok d ∧
      q = ⟨isAbsolute, d.finished, renderSteps isAbsolute d.finished⟩ := by
  constructor
  · intro h
    obtain ⟨d, hd, h⟩ := bind_eq_ok h
    exact ⟨d, hd, (Except.ok.inj h).symm⟩
  · rintro ⟨d, hd, rfl⟩
    exact congrArg (· >>= _) hd

theorem ofPath?_eq_some_iff : ofPath? ⟨origin, front⟩ isAbsolute = some q ↔
    ∃ d, front.foldlM Draft.add ⟨if isAbsolute then [toRoot] else [], false⟩ = .ok d ∧
      q = ⟨isAbsolute, d.finished, renderSteps isAbsolute d.finished⟩ :=
  toOption_eq_some_iff.trans ofPath_eq_ok_iff

theorem foldlM_add_back (hlast : front.getLast? ≠ some .descent) {d d' : Draft}
    (hd : front.foldlM Draft.add ⟨base, false⟩ = .ok d)
    (hd' : back.foldlM Draft.add ⟨[], false⟩ = .ok d') :
    (front ++ back).foldlM Draft.add ⟨base, false⟩ = .ok ⟨d'.steps ++ d.steps, d'.descends⟩ := by
  have hcut : d = ⟨[] ++ d.steps, false⟩ := by
    rw [← foldlM_add_descends hlast hd, List.nil_append]
  rw [List.foldlM_append, hd]
  show back.foldlM Draft.add d = _
  rw [hcut]
  exact foldlM_add_append hd' d.steps

/-- A path finds, from the document, what its back finds from each node that its front finds. -/
theorem select_ofPath?_append (hlast : front.getLast? ≠ some .descent)
    (hp : ofPath? ⟨origin, front⟩ true = some p) (hq : ofPath? ⟨origin, back⟩ false = some q) :
    ∃ whole, ofPath? ⟨origin, front ++ back⟩ true = some whole ∧
      (∀ root current, whole.select root current =
        (p.select root current).flatMap fun n => q.select root n) ∧
      (front = [] → ∀ root : Node, root.isElement = true →
        ∀ current, whole.select root current = q.select root root) := by
  obtain ⟨d, hd, rfl⟩ := ofPath?_eq_some_iff.mp hp
  obtain ⟨d', hd', rfl⟩ := ofPath?_eq_some_iff.mp hq
  rw [if_pos rfl] at hd
  have hback : selectAll d'.finished = selectAll d'.steps.reverse := funext d'.selectAll_finished
  have hparts : ∀ n, selectAll (Draft.finished ⟨d'.steps ++ d.steps, d'.descends⟩) n =
      (selectAll d.finished n).flatMap (selectAll d'.finished) := by
    intro n
    rw [Draft.selectAll_finished, Draft.selectAll_finished, hback, List.reverse_append,
      stepwise.append]
  refine ⟨_, ofPath?_eq_some_iff.mpr ⟨_, foldlM_add_back hlast hd hd', rfl⟩,
    fun root _ => hparts root.document, ?_⟩
  rintro rfl root hroot current
  cases hd
  have hfirst : selectAll (Draft.finished ⟨[toRoot], false⟩) root.document = [root] := by
    show selectAll [toRoot] root.document = [root]
    rw [stepwise.cons, toRoot_select hroot, List.flatMap_singleton, stepwise.nil]
  refine (hparts root.document).trans ?_
  rw [hfirst, List.flatMap_singleton]
  rfl

/-- Two items with identifiers, and one more in an element of the second. -/
def twoItems : Node := .element "feed" []
  [.element "item" [⟨"id", "1"⟩] [],
    .element "item" [⟨"id", "2"⟩] [.element "part" [⟨"id", "3"⟩] []]]

theorem select_ofPath?_append_items :
    Path.parse "$.item[1]..['@id']" =
        .ok ⟨.document, [.child "item", .index 1] ++ [.descent, .child "@id"]⟩ ∧
      ∃ p q whole, ofPath? ⟨.document, [.child "item", .index 1]⟩ true = some p ∧
        ofPath? ⟨.document, [.descent, .child "@id"]⟩ false = some q ∧
        ofPath? ⟨.document, [.child "item", .index 1] ++ [.descent, .child "@id"]⟩ true =
          some whole ∧
        (∀ root current, whole.select root current =
          (p.select root current).flatMap fun n => q.select root n) ∧
        (whole.select twoItems twoItems).map Node.innerText = ["2", "3"] := by
  have hp : ofPath? ⟨.document, [.child "item", .index 1]⟩ true =
      some ⟨true, [toRoot, ⟨.child, .name "item", [.position 2]⟩], "/*/item[2]"⟩ := by decide
  have hq : ofPath? ⟨.document, [.descent, .child "@id"]⟩ false =
      some ⟨false, [⟨.descendant, .attr "id", []⟩], "//@id"⟩ := by decide
  obtain ⟨whole, hwhole, hselect, _⟩ := select_ofPath?_append (by decide) hp hq
  refine ⟨rfl, _, _, whole, hp, hq, hwhole, hselect, ?_⟩
  rw [hselect]
  decide +kernel

end Recast.NodePath
