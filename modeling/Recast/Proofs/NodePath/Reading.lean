import Recast.NodePath.Reader
import Recast.Proofs.Outcome
import Recast.Proofs.Text.Affix

/-!
# What is read as a node path

A text that is read as a node path has at least one step, and only steps of a certain form: names of
tests and predicates are names, positions are counted from 1 and have 64 bits, and no closing bracket
is in a value.
-/

namespace Recast.NodePath

open Text

variable {s t : List Char} {axis moved : Axis} {test : Test} {p : Predicate}
  {predicates : List Predicate} {st : Step} {steps : List Step} {path : NodePath} {source : String}

/-! ## Form -/

def Predicate.isLegible : Predicate → Bool
  | position n => 0 < n && n < Nat.pow 2 64
  | attr name value | child name value => isName name.toList && !value.toList.contains ']'

/-- A point alone is read as a step to the node itself, and two points as one to the parent. -/
def Test.isLegible : Test → Bool
  | name n => isName n.toList && n != "." && n != ".."
  | attr n => isName n.toList
  | anyElement | anyAttribute | text => true

def Step.isLegible (s : Step) : Bool :=
  (if s.axis = .self then s.test = .anyElement else s.test.isLegible) &&
    s.predicates.all Predicate.isLegible

/-! ## Predicates -/

theorem mem_of_mem_unquote? {quote c : Char} (h : unquote? quote s = some t) (hc : c ∈ t) :
    c ∈ s := by
  obtain ⟨u, hu, ht⟩ := Option.bind_eq_some_iff.mp h
  obtain ⟨v, hv, rfl⟩ := Option.map_eq_some_iff.mp ht
  rw [dropStart?_eq_some_iff] at hu hv
  have hmem : c ∈ u.reverse := by simp [hv, List.mem_reverse.mp hc]
  simp [hu, List.mem_reverse.mp hmem]

theorem comparison_isLegible (h : comparison s = .ok p) (hs : ']' ∉ s) : p.isLegible = true := by
  unfold comparison at h
  dsimp only at h
  split at h
  · cases h
  · rename_i left right hcut
    obtain ⟨rfl, _⟩ := cutAt?_eq_some hcut
    split at h
    · cases h
    · rename_i value hvalue
      have hclosing : ']' ∉ value := by
        intro hmem
        have hright : ']' ∈ trim right := by
          rcases Option.or_eq_some_iff.mp hvalue with hv | ⟨_, hv⟩
          · exact mem_of_mem_unquote? hv hmem
          · exact mem_of_mem_unquote? hv hmem
        exact hs (by simp [mem_of_mem_trim hright])
      split at h
      · split at h <;> cases h
        rename_i hname
        simp [Predicate.isLegible, hname, hclosing]
      · split at h <;> cases h
        rename_i hname
        simp [Predicate.isLegible, hname, hclosing]

theorem unsigned?_lt {n : Nat} (h : Numeral.unsigned? s = some n) : n < Nat.pow 2 64 := by
  unfold Numeral.unsigned? at h
  dsimp only at h
  split at h
  · split at h
    · rename_i hlt
      cases h
      exact hlt
    · cases h
  · cases h

theorem predicate_isLegible (h : predicate s = .ok p) (hs : ']' ∉ s) : p.isLegible = true := by
  unfold predicate at h
  split at h
  · cases h
  · rename_i n hzero hn
    cases h
    have hpos : 0 < n := Nat.pos_of_ne_zero hzero
    simp [Predicate.isLegible, hpos, unsigned?_lt hn]
  · exact comparison_isLegible h hs

theorem predicates_isLegible {fuel : Nat} (h : NodePath.predicates fuel s = .ok predicates) :
    ∀ p ∈ predicates, p.isLegible = true := by
  induction fuel generalizing s predicates with
  | zero =>
      cases s <;> cases h
      exact List.forall_mem_nil _
  | succ fuel ih =>
      unfold NodePath.predicates at h
      split at h
      · cases h
        exact List.forall_mem_nil _
      · cases h
      · rename_i fuel' _ heq
        cases heq
        split at h
        · cases h
        · rename_i body rest hcut
          obtain ⟨p, hp, h⟩ := bind_eq_ok h
          obtain ⟨more, hmore, h⟩ := bind_eq_ok h
          cases h
          obtain ⟨_, hbody⟩ := cutAt?_eq_some hcut
          exact List.forall_mem_cons.mpr
            ⟨predicate_isLegible hp fun hmem => hbody (mem_of_mem_trim hmem), ih hmore⟩
      · cases h

/-! ## Steps -/

/-- A step moves along the axis that was read before it, unless it is one to the node itself. -/
theorem test_eq_ok (h : NodePath.test axis s = .ok (moved, test)) :
    moved = .self ∧ test = .anyElement ∨ moved = axis ∧ test.isLegible = true := by
  unfold NodePath.test at h
  dsimp only at h
  split at h
  · cases h
    exact Or.inl ⟨rfl, rfl⟩
  · rename_i hself
    split at h
    · cases h
    · rename_i hparent
      split at h
      · cases h
        exact Or.inr ⟨rfl, rfl⟩
      · split at h
        · cases h
          exact Or.inr ⟨rfl, rfl⟩
        · split at h
          · cases h
            exact Or.inr ⟨rfl, rfl⟩
          · split at h
            · split at h <;> cases h
              rename_i hname
              exact Or.inr ⟨rfl, by simpa [Test.isLegible] using hname⟩
            · split at h <;> cases h
              rename_i hname
              refine Or.inr ⟨rfl, ?_⟩
              simp_all [Test.isLegible]

theorem step_eq_ok (haxis : axis ≠ .self) (h : step axis s = .ok st) :
    st.isLegible = true ∧ (st.axis = axis ∨ st.axis = .self) := by
  obtain ⟨predicates, hpredicates, h⟩ := bind_eq_ok h
  obtain ⟨⟨moved, test⟩, htest, h⟩ := bind_eq_ok h
  cases h
  have hall := List.all_eq_true.mpr (predicates_isLegible hpredicates)
  rcases test_eq_ok htest with ⟨rfl, rfl⟩ | ⟨rfl, hlegible⟩
  · exact ⟨by simp [Step.isLegible, hall], Or.inr rfl⟩
  · exact ⟨by simp [Step.isLegible, haxis, hlegible, hall], Or.inl rfl⟩

theorem readSteps_eq_ok {fuel : Nat} (haxis : axis ≠ .self) (h : readSteps fuel axis s = .ok steps) :
    (∃ first rest, steps = first :: rest ∧ (first.axis = axis ∨ first.axis = .self)) ∧
      ∀ st ∈ steps, st.isLegible = true := by
  induction fuel generalizing axis s steps with
  | zero => cases h
  | succ fuel ih =>
      unfold readSteps at h
      split at h
      · cases h
      · cases h
      · obtain ⟨first, hfirst, h⟩ := bind_eq_ok h
        obtain ⟨hlegible, hmoved⟩ := step_eq_ok haxis hfirst
        split at h
        · cases h
          exact ⟨⟨first, [], rfl, hmoved⟩, by simpa using hlegible⟩
        · cases h
        · cases h
        · obtain ⟨rest, hrest, h⟩ := bind_eq_ok h
          cases h
          exact ⟨⟨first, rest, rfl, hmoved⟩,
            List.forall_mem_cons.mpr ⟨hlegible, (ih (by decide) hrest).2⟩⟩
        · obtain ⟨rest, hrest, h⟩ := bind_eq_ok h
          cases h
          exact ⟨⟨first, rest, rfl, hmoved⟩,
            List.forall_mem_cons.mpr ⟨hlegible, (ih (by decide) hrest).2⟩⟩

/-! ## Paths -/

theorem lead_axis (s : List Char) :
    (lead s).2.1 ≠ .self ∧ ((lead s).2.1 = .descendant → (lead s).1 = true) := by
  unfold lead
  split <;> simp

/-- A node path that was read has steps, all of which are legible, and a relative one does not begin
with a descent. -/
theorem legible_of_parse (h : parse source = .ok path) :
    (∃ first rest, path.steps = first :: rest ∧
        (first.axis = .descendant → path.isAbsolute = true)) ∧
      ∀ st ∈ path.steps, st.isLegible = true := by
  unfold parse at h
  dsimp only at h
  split at h
  · cases h
  · split at h
    · rename_i steps hsteps
      cases h
      obtain ⟨haxis, habsolute⟩ := lead_axis (trim source.toList)
      obtain ⟨⟨first, rest, rfl, hfirst⟩, hlegible⟩ := readSteps_eq_ok haxis hsteps
      refine ⟨⟨first, rest, rfl, fun hdescends => habsolute ?_⟩, hlegible⟩
      rcases hfirst with hfirst | hfirst
      · exact hfirst.symm.trans hdescends
      · cases hfirst.symm.trans hdescends
    · cases h

end Recast.NodePath
