import Recast.Proofs.Input.Below
import Recast.Proofs.Schema.Entries

/-!
# Rules that use the current value

A path of a source that begins with an at sign starts at the object or list around the instance of
its rule. Inside an element, such a path is below the items that the element is one of.
-/

namespace Recast.Schema

open Input (BeginsAt)
open Json (Value Fields)
open Recast.Path (AtBreak Selector append_members_nil atBreak_text isConcrete_members members
  members_append selectorsText selectorsText_cons written written_injective)

variable {o trail : List Selector} {i : Instance} {names : List String}
variable {path parent around source ruleSet : String} {kind : Kind} {fields : Fields} {rule : Rule}

/-! ## Declarations -/

/-- The rule that a fragment declares for a rule set. -/
def declaredRule? (ruleSet : String) (fragment : Value) : Option RuleDeclaration :=
  match fragment.field? "transform" with
  | some (.object blocks) =>
    (Fields.get? ruleSet blocks).bind fun block => (RuleDeclaration.decode block).toOption
  | _ => none

/-- The path of the source, if it has one, begins with an at sign. -/
def SourceDeclaration.UsesCurrent (d : SourceDeclaration) : Prop :=
  ∀ path ∈ d.path, (Text.trim path.toList).head? = some '@'

/-- Every path of the declared rule begins with an at sign. -/
def Entry.UsesCurrent (ruleSet : String) (e : Entry) : Prop :=
  ∀ rule ∈ declaredRule? ruleSet e.fragment, ∀ sources ∈ rule.sources,
    ∀ s ∈ sources, s.UsesCurrent

instance (d : SourceDeclaration) : Decidable d.UsesCurrent :=
  inferInstanceAs (Decidable (∀ path ∈ d.path, (Text.trim path.toList).head? = some '@'))

instance (ruleSet : String) (e : Entry) : Decidable (e.UsesCurrent ruleSet) :=
  inferInstanceAs (Decidable (∀ rule ∈ declaredRule? ruleSet e.fragment, ∀ sources ∈ rule.sources,
    ∀ s ∈ sources, s.UsesCurrent))

theorem expand_current (h : (Text.trim source.toList).head? = some '@') (around : String) :
    ∃ rest : String, expand source around = around ++ rest := by
  obtain ⟨rest, hrest⟩ := List.head?_eq_some_iff.mp h
  refine ⟨String.ofList rest, ?_⟩
  rw [expand, hrest]
  rfl

theorem Source.build_current {d : SourceDeclaration} {s : Source} (hd : d.UsesCurrent)
    (h : Source.build around d = .ok s) : ∀ path ∈ s.path, ∃ rest : String, path = around ++ rest := by
  obtain ⟨hpath, _, _⟩ := Source.build_eq_ok h
  intro path hp
  rw [Option.mem_def.mp hp] at hpath
  obtain ⟨source, hsource, hbuild⟩ := mapM_eq_some hpath
  obtain ⟨rest, hrest⟩ := expand_current (hd source hsource) around
  exact ⟨rest, (buildPath_eq_ok hbuild).1.trans hrest⟩

theorem Rule.build_current {block : Value} {d : RuleDeclaration}
    (hd : RuleDeclaration.decode block = .ok d)
    (hcurrent : ∀ sources ∈ d.sources, ∀ s ∈ sources, s.UsesCurrent)
    (h : Rule.build around kind block = .ok rule) :
    ∀ s ∈ rule.sources, ∀ path ∈ s.path, ∃ rest : String, path = around ++ rest := by
  obtain ⟨d', sources, hd', hsources, hbuilt, _, _⟩ := Rule.build_eq_ok h
  cases hd.symm.trans hd'
  intro s hs
  obtain ⟨declared, hmem, hbuild⟩ := mem_of_mapM hbuilt hs
  exact Source.build_current (hcurrent sources hsources declared hmem) hbuild

/-- The active rule is built from the block that its rule set has in the fragment. -/
theorem readRules_lookup {rules : List (String × Rule)}
    (h : readRules path parent kind fields = .ok rules) (hr : rules.lookup ruleSet = some rule) :
    ∃ blocks block, Fields.get? "transform" fields = some (.object blocks) ∧
      Fields.get? ruleSet blocks = some block ∧
      Rule.build (enclosing path parent) kind block = .ok rule := by
  unfold readRules at h
  split at h
  · cases h
    cases hr
  · rename_i blocks hblocks
    -- Rules and blocks have the same names in the same order.
    have hblock : ∃ block, Fields.get? ruleSet blocks = some block ∧
        Rule.build (enclosing path parent) kind block = .ok rule := by
      clear hblocks
      induction blocks generalizing rules with
      | nil =>
          cases h
          cases hr
      | cons member blocks ih =>
          obtain ⟨name, block⟩ := member
          rw [List.mapM_cons] at h
          obtain ⟨first, hfirst, h⟩ := bind_eq_ok h
          obtain ⟨rest, hrest, h⟩ := bind_eq_ok h
          cases h
          dsimp only at hfirst
          split at hfirst
          · rename_i built hbuild
            cases hfirst
            unfold Fields.get?
            rw [List.lookup_cons] at hr
            by_cases hname : name = ruleSet
            · subst hname
              simp only [beq_self_eq_true] at hr ⊢
              cases hr
              exact ⟨block, rfl, hbuild⟩
            · have hne : (ruleSet == name) = false := by simpa using Ne.symm hname
              rw [hne] at hr
              simpa [hname] using ih hr hrest
          · cases hfirst
    obtain ⟨block, hblock, hbuild⟩ := hblock
    exact ⟨blocks, block, hblocks, hblock, hbuild⟩
  · cases h

/-! ## Instances -/

/-- Every path of the active rule starts at the place that an at sign stands for. -/
def Instance.UsesCurrent (ruleSet : String) (i : Instance) : Prop :=
  ∃ trail, (∀ s ∈ trail, s.IsStep) ∧ i.path = written trail ∧
    ∀ rule ∈ i.rule? ruleSet, ∀ s ∈ rule.sources, ∀ path ∈ s.path,
      ∃ rest : String, path = enclosing (written trail) (written trail.dropLast) ++ rest

/-- The paths of a rule of an instance inside an element are below the items of its list. -/
theorem Instance.UsesCurrent.beginsAt (h : i.UsesCurrent ruleSet)
    (ho : ∀ s ∈ o ++ [Selector.wildcard], s.IsStep)
    (hd : i.declared.At (o ++ [Selector.wildcard] ++ members names)) :
    ∀ rule ∈ i.rule? ruleSet, ∀ s ∈ rule.sources, ∀ path ∈ s.path,
      BeginsAt path (o ++ [Selector.wildcard]) := by
  intro rule hr s hs path hp
  obtain ⟨trail, ht, hpath, hrest⟩ := h
  obtain ⟨rest, hrest⟩ := hrest rule hr s hs path hp
  obtain ⟨sels, hsels⟩ := hd.readable_of_rule hr s hs path hp
  have hmembers : ∀ names, ∀ s ∈ o ++ [Selector.wildcard] ++ members names, s.IsStep := by
    intro names s hs
    rcases List.mem_append.mp hs with hs | hs
    · exact ho s hs
    · exact (isConcrete_members names s hs).1
  obtain rfl : trail = o ++ [Selector.wildcard] ++ members names :=
    written_injective ht (hmembers names) (hpath.symm.trans hd.path_eq)
  -- The enclosing place is the element itself, or below it.
  obtain ⟨inner, hinner⟩ : ∃ inner, path = written (o ++ [Selector.wildcard] ++ members inner) ++ rest := by
    rcases List.eq_nil_or_concat' names with rfl | ⟨front, name, rfl⟩
    · refine ⟨[], ?_⟩
      rw [hrest, append_members_nil, enclosing,
        isItemPath_written fun s hs => ho s (List.mem_append_left _ hs)]
      rfl
    · rcases enclosing_written (o ++ [Selector.wildcard] ++ members (front ++ [name]))
        (o ++ [Selector.wildcard] ++ members (front ++ [name])).dropLast with he | he
      · exact ⟨front ++ [name], by rw [hrest, he]⟩
      · refine ⟨front, ?_⟩
        rw [hrest, he, members_append, ← List.append_assoc, List.dropLast_concat]
  subst hinner
  cases inner with
  | nil =>
      rw [append_members_nil] at hsels ⊢
      have hb := Input.atBreak_of_items (fun s hs => ho s (List.mem_append_left _ hs)) hsels
      exact ⟨rest, rfl, hb⟩
  | cons name inner =>
      have hname : Selector.IsStep (.child name) := trivial
      refine ⟨selectorsText false (members (name :: inner)) ++ rest, ?_, ?_⟩
      · rw [Path.written_append ho, String.append_assoc]
      · show AtBreak (selectorsText false (.child name :: members inner) ++ rest).toList
        rw [selectorsText_cons hname, String.append_assoc, String.toList_append]
        exact atBreak_text hname _

/-- An instance uses the current value only if its entry says so. -/
theorem Entry.Of.usesCurrent {e : Entry} (h : e.Of trail i) (he : e.UsesCurrent ruleSet) :
    i.UsesCurrent ruleSet := by
  obtain ⟨name, fields, hfragment, hd⟩ := h.fragment_eq
  obtain ⟨_, hrules, _, _⟩ := Declared.read_eq_ok hd
  refine ⟨trail, fun s hs => (h.isTrailStep s hs).isStep, h.instance_path, fun rule hr => ?_⟩
  obtain ⟨blocks, block, hblocks, hblock, hbuild⟩ := readRules_lookup hrules hr
  obtain ⟨d, _, hdecode, _⟩ := Rule.build_eq_ok hbuild
  have hdeclared : declaredRule? ruleSet e.fragment = some d := by
    rw [hfragment, declaredRule?, Value.field?, hblocks]
    show (Fields.get? ruleSet blocks).bind _ = some d
    rw [hblock, Option.bind_some, hdecode]
    rfl
  exact Rule.build_current hdecode (he d hdeclared) hbuild

end Recast.Schema
