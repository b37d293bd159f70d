import Recast.Proofs.NodePath.Positions
import Recast.Proofs.NodePath.Writing

/-!
# Node paths and their texts

A node path is read back from its text when its names can be written, its positions are counted from 1
and the quotes of its values match. It then finds the same nodes, but in two cases: an absolute path
that begins with a step to the node itself is written as a relative one, and a relative path that
begins with a descent as an absolute one.
-/

namespace Recast.NodePath

open Recast.Path (Selector)
open Markup (Node)

variable {path p q : NodePath} {source : String} {steps : List Step} {d d' : Draft} {sel : Selector}
  {sels : List Selector} {axis : Axis} {isAbsolute : Bool} {expression : Path}

/-! ## What is found -/

theorem selectAll_toSelf (steps : List Step) (n : Node) :
    selectAll (toSelf :: steps) n = selectAll steps n := by
  rw [stepwise.cons]
  exact List.flatMap_singleton ..

theorem selectAll_writtenSteps (path : NodePath) (n : Node) :
    selectAll path.writtenSteps n = selectAll path.steps n := by
  rcases path.writtenSteps_eq with h | h
  · rw [h]
  · rw [h, selectAll_toSelf]

/-! ## Paths that are read -/

theorem isLegible_of_parse (h : parse source = .ok p) : p.steps.all Step.isLegible = true :=
  List.all_eq_true.mpr (legible_of_parse h).2

theorem ne_nil_of_parse (h : parse source = .ok p) : p.steps ≠ [] := by
  obtain ⟨⟨first, rest, hcons, _⟩, _⟩ := legible_of_parse h
  simp [hcons]

theorem parse_render_error (h : parse source = .ok p) (hwritable : p.isWritable = false) :
    ∃ fault, parse p.render = .error fault := by
  have hoption := parse_render_of_isLegible (ne_nil_of_parse h) (isLegible_of_parse h)
  rw [hwritable] at hoption
  cases hread : parse p.render with
  | error fault => exact ⟨fault, rfl⟩
  | ok q =>
      rw [hread] at hoption
      cases hoption

/-- A path that is read starts elsewhere when its text is read if it is absolute and begins with a
step to the node itself. -/
theorem startsAtDocument_of_parse (h : parse source = .ok p) :
    p.startsAtDocument = (p.isAbsolute && p.steps.head?.all (·.axis != .self)) := by
  obtain ⟨⟨first, rest, hcons, hdescent⟩, _⟩ := legible_of_parse h
  unfold startsAtDocument
  rw [hcons]
  cases haxis : first.axis with
  | child => simp [haxis, Axis.startsAtDocument]
  | descendant => simp [haxis, hdescent haxis, Axis.startsAtDocument]
  | self => simp [haxis, Axis.startsAtDocument]

/-! ## Paths of paths -/

/-- Whether the step that a selector stands for can be read. -/
def isWritten : Selector → Bool
  | .child name =>
    match name.toList with
    | '@' :: rest => isName rest
    | _ => (Test.name name).isLegible
  | .index _ | .wildcard | .descent | .fromEnd _ => true

def Draft.isLegible (d : Draft) : Bool := d.steps.all Step.isLegible

theorem Draft.push_isLegible (d : Draft) (test : Test) :
    (d.push test).isLegible = (test.isLegible && d.isLegible) := by
  unfold Draft.isLegible Draft.push
  cases hd : d.descends <;> simp [Step.isLegible]

theorem isLegible_of_testOf? {test : Test} (h : testOf? sel = some test) :
    test.isLegible = isWritten sel := by
  unfold isWritten
  cases sel with
  | child name =>
      unfold testOf? at h
      dsimp only at h ⊢
      split at h <;> cases h <;> simp [*, Test.isLegible]
  | wildcard =>
      cases h
      rfl
  | _ => cases h

theorem Draft.Adds.isLegible_eq (h : d.Adds sel d') :
    d'.isLegible = (isWritten sel && d.isLegible) := by
  cases h with
  | descent => rfl
  | step h => rw [Draft.push_isLegible, isLegible_of_testOf? h]
  | position _ hsteps hi =>
      have hposition : (Predicate.position _).isLegible = true :=
        Bool.and_eq_true_iff.mpr ⟨decide_eq_true (Nat.succ_pos _), decide_eq_true hi⟩
      simp only [Draft.isLegible, hsteps, List.all_cons, Step.isLegible, List.all_append,
        List.all_nil, hposition, isWritten, Bool.and_true, Bool.true_and]

theorem foldlM_add_isLegible (h : sels.foldlM Draft.add d = .ok d') :
    d'.isLegible = (sels.all isWritten && d.isLegible) := by
  induction sels generalizing d with
  | nil =>
      cases h
      rfl
  | cons sel sels ih =>
      rw [List.foldlM_cons] at h
      obtain ⟨next, hadd, hrest⟩ := bind_eq_ok h
      rw [ih hrest, (Draft.add_eq_ok_iff.mp hadd).isLegible_eq, List.all_cons, ← Bool.and_assoc,
        Bool.and_comm (isWritten sel)]

/-- A draft has no predicates with values. -/
def Draft.Counts (d : Draft) : Prop :=
  ∀ st ∈ d.steps, ∀ p ∈ st.predicates, p.hasApostrophe = false

theorem Draft.push_counts (h : d.Counts) (test : Test) : (d.push test).Counts :=
  List.forall_mem_cons.mpr ⟨List.forall_mem_nil _, h⟩

theorem Draft.Adds.counts (h : d.Adds sel d') (hd : d.Counts) : d'.Counts := by
  cases h with
  | descent => exact hd
  | step => exact Draft.push_counts hd _
  | position _ hsteps =>
      unfold Draft.Counts at hd
      rw [hsteps] at hd
      obtain ⟨hlast, hrest⟩ := List.forall_mem_cons.mp hd
      refine List.forall_mem_cons.mpr ⟨fun p hp => ?_, hrest⟩
      rcases List.mem_append.mp hp with hp | hp
      · exact hlast p hp
      · cases List.mem_singleton.mp hp
        rfl

theorem Draft.mem_finished {st : Step} (h : st ∈ d.finished) : st = toSelf ∨ st ∈ d.steps := by
  unfold Draft.finished at h
  split at h
  · exact Or.inl (List.mem_singleton.mp h)
  · exact Or.inr (List.mem_reverse.mp h)

theorem Draft.finished_isLegible (d : Draft) : d.finished.all Step.isLegible = d.isLegible := by
  unfold Draft.finished
  split
  · rename_i h
    rw [Draft.isLegible, List.isEmpty_iff.mp h]
    rfl
  · exact List.all_reverse

/-- The node path of a path is read back if everything in it can be written. -/
theorem isWritable_of_ofPath? (h : ofPath? expression isAbsolute = some p) :
    p.isWritable = expression.selectors.all isWritten := by
  obtain ⟨origin, sels⟩ := expression
  obtain ⟨d, hd, rfl⟩ := ofPath?_eq_some_iff.mp h
  have hstart : Draft.Counts ⟨if isAbsolute then [toRoot] else [], false⟩ ∧
      Draft.isLegible ⟨if isAbsolute then [toRoot] else [], false⟩ = true := by
    cases isAbsolute <;> simp [Draft.Counts, Draft.isLegible, toRoot, Step.isLegible, Test.isLegible]
  have hlegible : d.finished.all Step.isLegible = sels.all isWritten := by
    rw [Draft.finished_isLegible, foldlM_add_isLegible hd, hstart.2, Bool.and_true]
  have hcounts : d.Counts := foldlM_add_keeps (fun _ _ _ hd hadd => hadd.counts hd) hstart.1 hd
  cases hall : d.finished.all Step.isLegible with
  | false =>
      rw [isWritable, ← hlegible, hall]
      rfl
  | true =>
      have hbalanced : d.finished.all Step.isBalanced = true := by
        rw [List.all_eq_true] at hall ⊢
        intro st hst
        refine Step.isBalanced_of_hasApostrophe (hall st hst) fun p hp => ?_
        rcases Draft.mem_finished hst with rfl | hst'
        · cases hp
        · exact hcounts st hst' p hp
      rw [isWritable, ← hlegible]
      simp [hall, hbalanced]

/-! ## Where paths of paths start -/

/-- The axis of the first step of a draft. -/
def Draft.axis? (d : Draft) : Option Axis := d.steps.getLast?.map Step.axis

theorem Draft.push_axis? (h : d.axis? = some axis) (test : Test) :
    (d.push test).axis? = some axis := by
  obtain ⟨st, hlast, rfl⟩ := Option.map_eq_some_iff.mp h
  simp [Draft.axis?, Draft.push, List.getLast?_cons, hlast]

/-- What is added to steps leaves the axis of the first one as it is. -/
theorem Draft.Adds.axis?_eq (h : d.Adds sel d') (haxis : d.axis? = some axis) :
    d'.axis? = some axis := by
  cases h with
  | descent => exact haxis
  | step => exact Draft.push_axis? haxis _
  | @position i last steps _ hsteps hi =>
      rw [Draft.axis?, hsteps] at haxis
      cases steps with
      | nil => simpa [Draft.axis?] using haxis
      | cons => simpa [Draft.axis?] using haxis

theorem Draft.Adds.first {descends : Bool} (h : Draft.Adds ⟨[], descends⟩ sel d')
    (hsel : sel ≠ .descent) : d'.axis? = some (if descends then .descendant else .child) := by
  cases h with
  | descent => exact absurd rfl hsel
  | step => rfl
  | position _ hsteps => cases hsteps

theorem startsAtDocument_of_axis? (h : d.axis? = some axis) (source : String) :
    startsAtDocument ⟨isAbsolute, d.finished, source⟩ = axis.startsAtDocument isAbsolute := by
  obtain ⟨first, hlast, rfl⟩ := Option.map_eq_some_iff.mp h
  obtain ⟨rest, hsteps⟩ := List.getLast?_eq_some_iff.mp hlast
  have hfinished : d.finished = first :: rest.reverse := by simp [Draft.finished, hsteps]
  rw [hfinished]
  rfl

/-- The text of a relative path that begins with a descent is that of an absolute one. -/
theorem startsAtDocument_of_ofPath? (hwritable : Path.Writable expression.selectors)
    (h : ofPath? expression isAbsolute = some p) :
    p.startsAtDocument = (isAbsolute || expression.selectors.head? == some .descent) := by
  obtain ⟨origin, sels⟩ := expression
  obtain ⟨d, hd, rfl⟩ := ofPath?_eq_some_iff.mp h
  have hkeeps {base : Draft} {axis : Axis} {sels : List Selector} (hbase : base.axis? = some axis)
      (hd : sels.foldlM Draft.add base = .ok d) : d.axis? = some axis :=
    foldlM_add_keeps (P := fun d => d.axis? = some axis) (fun _ _ _ haxis hadd => hadd.axis?_eq haxis)
      hbase hd
  cases isAbsolute with
  | true =>
      have hroot : Draft.axis? ⟨[toRoot], false⟩ = some .child := rfl
      exact startsAtDocument_of_axis? (hkeeps hroot hd) _
  | false =>
      cases hwritable with
      | nil =>
          cases hd
          rfl
      | @step sel sels hsel hrest =>
          have hne : sel ≠ .descent := by
            rintro rfl
            exact hsel
          rw [List.foldlM_cons] at hd
          obtain ⟨next, hadd, hd⟩ := bind_eq_ok hd
          refine (startsAtDocument_of_axis? (hkeeps ((Draft.add_eq_ok_iff.mp hadd).first hne) hd) _).trans ?_
          simp [hne, Axis.startsAtDocument]
      | @descent sel sels hsel hrest =>
          have hne : sel ≠ .descent := by
            rintro rfl
            exact hsel
          rw [List.foldlM_cons] at hd
          obtain ⟨next, hadd, hd⟩ := bind_eq_ok hd
          cases hadd
          rw [List.foldlM_cons] at hd
          obtain ⟨next, hadd, hd⟩ := bind_eq_ok hd
          exact startsAtDocument_of_axis? (hkeeps ((Draft.add_eq_ok_iff.mp hadd).first hne) hd) _

theorem ne_nil_of_ofPath? (h : ofPath? expression isAbsolute = some p) :
    p.steps ≠ [] ∧ p.isAbsolute = isAbsolute ∧ p.source = p.render := by
  obtain ⟨origin, sels⟩ := expression
  obtain ⟨d, _, rfl⟩ := ofPath?_eq_some_iff.mp h
  refine ⟨?_, rfl, rfl⟩
  show d.finished ≠ []
  unfold Draft.finished
  split <;> simp_all

/-! ## Reading texts of paths -/

theorem select_of_isWritable (hne : p.steps ≠ []) (h : p.isWritable = true) :
    ∃ q, parse p.render = .ok q ∧ ∀ root current, q.select root current =
      selectAll p.steps (if p.startsAtDocument then root.document else current) :=
  ⟨_, parse_render_of_isWritable hne h, fun _ _ => selectAll_writtenSteps p _⟩

/-- A node path that was read or that a path reads as is read back as its steps if it is writable, and
only then. It finds the same nodes if its text starts where it does itself, and else what its steps
find from the other place. A path that was read is writable without apostrophes in its values, and is
not read back at all if it is not writable; a path reads as one that is writable if all of its
selectors can be written. -/
theorem parse_render (p : NodePath)
    (hp : (∃ source, parse source = .ok p) ∨ ∃ source expression isAbsolute,
      Path.parse source = .ok expression ∧ ofPath? expression isAbsolute = some p) :
    (p.isWritable = true ↔ ∃ q, parse p.render = .ok q ∧
      (q.steps = p.steps ∨ q.steps = toSelf :: p.steps)) ∧
    (p.isWritable = true → ∃ q, parse p.render = .ok q ∧
      (p.startsAtDocument = p.isAbsolute →
        ∀ root current, q.select root current = p.select root current) ∧
      (p.startsAtDocument ≠ p.isAbsolute → ∀ root current, q.select root current =
        selectAll p.steps (if p.isAbsolute then current else root.document))) ∧
    (∀ source : String, parse source = .ok p →
      (p.isWritable = false → ∃ fault, parse p.render = .error fault) ∧
      ((∀ st ∈ p.steps, ∀ c ∈ st.predicates, c.hasApostrophe = false) → p.isWritable = true) ∧
      p.startsAtDocument = (p.isAbsolute && p.steps.head?.all (·.axis != .self))) ∧
    ∀ (source : String) (expression : Path) (isAbsolute : Bool),
      Path.parse source = .ok expression → ofPath? expression isAbsolute = some p →
        p.isAbsolute = isAbsolute ∧ p.source = p.render ∧
          p.isWritable = expression.selectors.all isWritten ∧
          p.startsAtDocument = (isAbsolute || expression.selectors.head? == some .descent) := by
  have hne : p.steps ≠ [] := by
    rcases hp with ⟨source, h⟩ | ⟨_, expression, isAbsolute, _, h⟩
    · exact ne_nil_of_parse h
    · exact (ne_nil_of_ofPath? h).1
  refine ⟨isWritable_iff hne, fun hwritable => ?_, fun source h => ?_,
    fun source expression isAbsolute hsource h => ?_⟩
  · obtain ⟨q, hq, hselect⟩ := select_of_isWritable hne hwritable
    refine ⟨q, hq, fun hstart root current => ?_, fun hstart root current => ?_⟩
    · rw [hselect, hstart]
      rfl
    · rw [hselect]
      cases hdocument : p.startsAtDocument <;> cases habsolute : p.isAbsolute <;> simp_all
  · have hlegible := isLegible_of_parse h
    refine ⟨parse_render_error h, fun hvalues => ?_, startsAtDocument_of_parse h⟩
    rw [isWritable, hlegible, Bool.true_and, List.all_eq_true]
    exact fun st hst =>
      Step.isBalanced_of_hasApostrophe (List.all_eq_true.mp hlegible st hst) (hvalues st hst)
  · obtain ⟨_, habsolute, hrender⟩ := ne_nil_of_ofPath? h
    exact ⟨habsolute, hrender, isWritable_of_ofPath? h,
      startsAtDocument_of_ofPath? (Path.parse_eq_ok_iff.mp hsource).writable h⟩

theorem parse_render_items :
    parse "feed//item[@id=\"x\"][2]" = .ok ⟨false,
        [⟨.child, .name "feed", []⟩, ⟨.descendant, .name "item", [.attr "id" "x", .position 2]⟩],
        "feed//item[@id=\"x\"][2]"⟩ ∧
      (∃ q, parse "./feed//item[@id='x'][2]" = .ok q ∧ ∀ root current, q.select root current =
        selectAll [⟨.child, .name "feed", []⟩,
          ⟨.descendant, .name "item", [.attr "id" "x", .position 2]⟩] current) ∧
      ∃ p, ofPath? ⟨.document, [.child "item", .index 1]⟩ true = some p ∧
        p.source = "/*/item[2]" ∧ p.isWritable = true := by
  have hsource : parse "feed//item[@id=\"x\"][2]" = .ok ⟨false,
      [⟨.child, .name "feed", []⟩, ⟨.descendant, .name "item", [.attr "id" "x", .position 2]⟩],
      "feed//item[@id=\"x\"][2]"⟩ := by rfl
  obtain ⟨_, hread, hparse, _⟩ := parse_render _ (Or.inl ⟨_, hsource⟩)
  obtain ⟨q, hq, hsame, _⟩ := hread ((hparse _ hsource).2.1 (by decide))
  have hexpression : Path.parse "$.item[1]" = .ok ⟨.document, [.child "item", .index 1]⟩ := by rfl
  have hp : ofPath? ⟨.document, [.child "item", .index 1]⟩ true =
      some ⟨true, [toRoot, ⟨.child, .name "item", [.position 2]⟩], "/*/item[2]"⟩ := by decide
  obtain ⟨_, _, _, hpath⟩ := parse_render _ (Or.inr ⟨_, _, _, hexpression, hp⟩)
  have hitem := hpath _ _ _ hexpression hp
  exact ⟨hsource, ⟨q, hq, hsame rfl⟩, _, hp, rfl, hitem.2.2.1.trans (by decide)⟩

/-- Values are written between apostrophes even if they have one, a step to the node itself loses the
slash before it, and a descent does not keep a path relative. -/
theorem parse_render_elsewhere :
    (∃ p, parse "/feed/item[@title=\"it's\"]" = .ok p ∧ p.render = "/feed/item[@title='it's']" ∧
      parse p.render = .error ⟨.unbalanced, "/feed/item[@title='it's']"⟩) ∧
    (∃ p q, parse "/./feed" = .ok p ∧ p.render = "./feed" ∧ parse "./feed" = .ok q ∧
      (p.select (.element "feed" [] []) (.element "feed" [] [])).length = 1 ∧
      q.select (.element "feed" [] []) (.element "feed" [] []) = []) ∧
    ∃ p q, Path.parse "$..id" = .ok ⟨.document, [.descent, .child "id"]⟩ ∧
      ofPath? ⟨.document, [.descent, .child "id"]⟩ false = some p ∧ p.render = "//id" ∧
      parse "//id" = .ok q ∧
      p.select (.element "id" [] []) (.element "id" [] []) = [] ∧
      (q.select (.element "id" [] []) (.element "id" [] [])).length = 1 := by
  refine ⟨⟨_, rfl, rfl, rfl⟩, ⟨_, _, rfl, rfl, rfl, ?_, ?_⟩, _, _, rfl, rfl, rfl, rfl, ?_, ?_⟩ <;>
    rfl

end Recast.NodePath
