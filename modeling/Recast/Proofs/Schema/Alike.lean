import Mathlib.Data.List.Forall2
import Recast.Proofs.Input.Below
import Recast.Proofs.Path.Items
import Recast.Proofs.Schema.Instance

/-!
# Instances with other spellings

Instances are alike if they differ in the spelling of paths of sources only, and the lists around
them cannot tell the spellings apart.
-/

namespace Recast.Schema

open Input (BeginsAt)
open Recast.Path (AtBreak Denotes IsTrailStep Selector depth fill indexLimit itemTrails written)

variable {trail : List Selector} {path path' ruleSet : String} {i i' : Instance}

/-- The texts begin with the paths of the same elements of the lists on the trail, where any of the
last wildcards may have a position in its place. -/
def SameBeginnings (trail : List Selector) (path path' : String) : Prop :=
  ∀ o more indices, o ++ more ∈ itemTrails trail → indices.length = depth more →
    (∀ k ∈ indices, k < indexLimit) →
    (BeginsAt path (o ++ fill more indices) ↔ BeginsAt path' (o ++ fill more indices))

/-- Texts that part behind the items of every list on the trail begin with the same elements. -/
theorem sameBeginnings_of_front {front sels sels' : List Selector} {left left' : String}
    (ht : ∀ s ∈ trail, IsTrailStep s) (hfront : ∀ s ∈ front, s.IsStep)
    (hlength : ∀ o ∈ itemTrails trail, o.length ≤ front.length) (hl : AtBreak left.toList)
    (hl' : AtBreak left'.toList) (hd : Denotes (written front ++ left) sels)
    (hd' : Denotes (written front ++ left') sels') :
    SameBeginnings trail (written front ++ left) (written front ++ left') := by
  intro o more indices ho _ hlt
  have hbegin := Path.prefix_of_mem_itemTrails ho
  have hsteps : ∀ s ∈ o ++ fill more indices, s.IsStep := by
    intro s hs
    rcases List.mem_append.mp hs with hs | hs
    · exact (ht s (hbegin.subset (List.mem_append_left _ hs))).isStep
    · exact Path.isStep_fill (fun s hs => ht s (hbegin.subset (List.mem_append_right _ hs))) hlt s hs
  have hle : (o ++ fill more indices).length ≤ front.length := by
    have := hlength _ ho
    rwa [List.length_append, Path.length_fill, ← List.length_append]
  -- Only what both texts begin with decides, since elements are not further in.
  have key : ∀ {left : String} {sels : List Selector}, AtBreak left.toList →
      Denotes (written front ++ left) sels →
      (BeginsAt (written front ++ left) (o ++ fill more indices) ↔
        o ++ fill more indices <+: front) := by
    intro left sels hl hd
    constructor
    · intro hb
      obtain ⟨rest, hrest⟩ := Option.isSome_iff_exists.mp (Input.beginsAt_iff.mp hb)
      obtain ⟨later, hlater, _⟩ := Input.below?_denotes hsteps hd hrest
      obtain ⟨later', hlater', _⟩ := (Path.denotes_append_iff hfront hl).mp hd
      exact List.prefix_of_prefix_length_le (hlater ▸ List.prefix_append _ _)
        (hlater' ▸ List.prefix_append _ _) hle
    · rintro ⟨back, rfl⟩
      exact BeginsAt.of_append hsteps (fun s hs => hfront s (List.mem_append_right _ hs))
        ⟨left, rfl, hl⟩
  exact (key hl hd).trans (key hl' hd').symm

/-- The texts denote one path, and no list on the trail tells them apart. -/
structure Respelled (trail : List Selector) (path path' : String) : Prop where
  denotes : ∃ sels, Denotes path sels ∧ Denotes path' sels
  begins : SameBeginnings trail path path'

/-! ## What is alike -/

structure Source.Alike (trail : List Selector) (s s' : Source) : Prop where
  path : Option.Rel (fun path path' => path = path' ∨ Respelled trail path path') s.path s'.path
  nodePath_eq : s.nodePath = s'.nodePath
  operations_eq : s.operations = s'.operations

structure Rule.Alike (trail : List Selector) (rule rule' : Rule) : Prop where
  sources : List.Forall₂ (Source.Alike trail) rule.sources rule'.sources
  method_eq : rule.method = rule'.method
  delimiter_eq : rule.delimiter = rule'.delimiter

structure Declared.Alike (trail : List Selector) (d d' : Declared) : Prop where
  path_eq : d.path = d'.path
  name_eq : d.name = d'.name
  default_eq : d.default = d'.default
  rules : List.Forall₂ (fun rule rule' => rule.1 = rule'.1 ∧ rule.2.Alike trail rule'.2)
    d.rules d'.rules

mutual

/-- The instances at the trail, and those below them, are alike. -/
inductive Instance.Alike : List Selector → Instance → Instance → Prop where
  | scalar {trail : List Selector} {d d' : Declared} {k : Scalar} (h : d.Alike trail d') :
      Instance.Alike trail (.scalar d k) (.scalar d' k)
  | object {trail : List Selector} {d d' : Declared} {ps ps' : List Instance}
      (h : d.Alike trail d') (hps : Instance.AlikeEach trail ps ps') :
      Instance.Alike trail (.object d ps) (.object d' ps')
  | array {trail : List Selector} {d d' : Declared} {items items' : Instance}
      (h : d.Alike trail d') (hitems : Instance.Alike (trail ++ [.wildcard]) items items') :
      Instance.Alike trail (.array d items) (.array d' items')

/-- The properties of the objects at the trail are alike. -/
inductive Instance.AlikeEach : List Selector → List Instance → List Instance → Prop where
  | nil {trail : List Selector} : Instance.AlikeEach trail [] []
  | cons {trail : List Selector} {i i' : Instance} {ps ps' : List Instance}
      (h : Instance.Alike (trail ++ [.child i.key]) i i')
      (hps : Instance.AlikeEach trail ps ps') : Instance.AlikeEach trail (i :: ps) (i' :: ps')

end

theorem Instance.Alike.declared (h : Instance.Alike trail i i') : i.declared.Alike trail i'.declared := by
  cases h <;> assumption

theorem Instance.Alike.kind_eq (h : Instance.Alike trail i i') : i.kind = i'.kind := by
  cases h <;> rfl

/-- A rule set has rules of both instances or of none, and then these are alike. -/
theorem Instance.Alike.rule? (h : Instance.Alike trail i i') (ruleSet : String) :
    Option.Rel (Rule.Alike trail) (i.rule? ruleSet) (i'.rule? ruleSet) := by
  have hrules := h.declared.rules
  unfold Instance.rule?
  generalize i.declared.rules = rules at hrules
  generalize i'.declared.rules = rules' at hrules
  induction hrules with
  | nil => exact .none
  | @cons rule rule' rules rules' hrule _ ih =>
      obtain ⟨name, rule⟩ := rule
      obtain ⟨name', rule'⟩ := rule'
      obtain ⟨rfl, hrule⟩ := hrule
      rw [List.lookup_cons, List.lookup_cons]
      cases ruleSet == name with
      | true => exact .some hrule
      | false => exact ih

/-! ## What is the same is alike -/

theorem Source.Alike.refl (s : Source) : s.Alike trail s :=
  ⟨optionRel_refl fun _ => Or.inl rfl, rfl, rfl⟩

theorem Rule.Alike.refl (rule : Rule) : rule.Alike trail rule :=
  ⟨List.forall₂_same.mpr fun s _ => .refl s, rfl, rfl⟩

theorem Declared.Alike.refl (d : Declared) : d.Alike trail d :=
  ⟨rfl, rfl, rfl, List.forall₂_same.mpr fun rule _ => ⟨rfl, .refl rule.2⟩⟩

theorem Instance.AlikeEach.of_forall {ps : List Instance}
    (h : ∀ i ∈ ps, Instance.Alike (trail ++ [.child i.key]) i i) : Instance.AlikeEach trail ps ps := by
  induction ps with
  | nil => exact .nil
  | cons i ps ih => exact .cons (h i (by simp)) (ih fun j hj => h j (by simp [hj]))

theorem Instance.Alike.refl (i : Instance) (trail : List Selector) :
    Instance.Alike trail i i := by
  induction i using Instance.induction generalizing trail with
  | scalar d k => exact .scalar (.refl d)
  | object d ps ih => exact .object (.refl d) (.of_forall fun i hi => ih i hi _)
  | array d items ih => exact .array (.refl d) (ih _)

end Recast.Schema
