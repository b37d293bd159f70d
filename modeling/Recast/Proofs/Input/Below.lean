import Recast.Input.Context
import Recast.Proofs.Path.Canonical

/-!
# Paths below others

The comparison of paths as texts is exact where the outer path is canonical: what is left of the
text stands for what is left of the selectors.
-/

namespace Recast.Input

open Recast.Path (AtBreak Denotes Selector Writable denotes_append_iff selectorsText written)

variable {outer path rest : String} {sels more : List Selector}

theorem below?_eq_some_iff :
    below? outer path = some rest ↔ path = outer ++ rest ∧ AtBreak rest.toList := by
  have hpath : path = outer ++ rest ↔ path.toList = outer.toList ++ rest.toList := by
    rw [← String.toList_inj, String.toList_append]
  unfold below?
  split
  · rename_i h
    rw [Text.dropStart?_eq_some_iff] at h
    constructor
    · intro hr
      cases hr
      exact ⟨hpath.mpr (by simpa using h), AtBreak.nil⟩
    · intro ⟨hp, _⟩
      have hr : rest.toList = [] := by simpa [h] using hpath.mp hp
      exact congrArg some (String.toList_inj.mp hr).symm
  · rename_i c s h
    rw [Text.dropStart?_eq_some_iff] at h
    constructor
    · intro hr
      split at hr
      · rename_i hc
        cases hr
        exact ⟨hpath.mpr (by simpa using h), by simpa [AtBreak] using hc⟩
      · cases hr
    · intro ⟨hp, hb⟩
      have hr : rest.toList = c :: s := by simpa [h] using (hpath.mp hp).symm
      have hc : c = '.' ∨ c = '[' := hb c (by simp [hr])
      rw [if_pos (by simpa using hc), ← hr, String.ofList_toList]
  · rename_i h
    constructor
    · intro hr
      cases hr
    · intro ⟨hp, _⟩
      have hs := Text.dropStart?_eq_some_iff.mpr (hpath.mp hp)
      rw [h] at hs
      cases hs

/-- What is left of a path below a canonical one. -/
theorem below?_denotes (hs : ∀ s ∈ sels, s.IsStep) (hp : Denotes path more)
    (h : below? (written sels) path = some rest) :
    ∃ later, more = sels ++ later ∧ Denotes ("$" ++ rest) later := by
  obtain ⟨rfl, hb⟩ := below?_eq_some_iff.mp h
  exact (denotes_append_iff hs hb).mp hp

/-- What can be written is below a canonical path exactly where it goes on behind the steps of that
path, and what is left of its text is the text of what is left of it. -/
theorem below?_written_iff (hs : ∀ s ∈ sels, s.IsStep) (hm : Writable more) :
    below? (written sels) (written more) = some rest ↔
      ∃ later, more = sels ++ later ∧ rest = selectorsText false later := by
  constructor
  · intro h
    obtain ⟨later, rfl, _⟩ := below?_denotes hs hm.denotes h
    have htext := (below?_eq_some_iff.mp h).1
    rw [Path.written_append hs, String.append_right_inj] at htext
    exact ⟨later, rfl, htext.symm⟩
  · rintro ⟨later, rfl, rfl⟩
    exact below?_eq_some_iff.mpr ⟨Path.written_append hs later, (hm.of_append hs).atBreak⟩

/-- On canonical paths the comparison of texts is one of selectors. -/
theorem below?_written_eq (hs : ∀ s ∈ sels, s.IsStep) (hm : Writable more) :
    below? (written sels) (written more) =
      if sels <+: more then some (selectorsText false (more.drop sels.length)) else none := by
  split
  · rename_i h
    obtain ⟨later, rfl⟩ := h
    rw [List.drop_left]
    exact (below?_written_iff hs hm).mpr ⟨later, rfl, rfl⟩
  · rename_i h
    refine Option.eq_none_iff_forall_ne_some.mpr fun rest hrest => h ?_
    obtain ⟨later, rfl, _⟩ := (below?_written_iff hs hm).mp hrest
    exact List.prefix_append sels later

/-- A canonical path is below every path that its steps continue. -/
theorem below?_written (hs : ∀ s ∈ sels, s.IsStep) (hm : ∀ s ∈ more, s.IsStep) :
    below? (written sels) (written (sels ++ more)) = some (selectorsText false more) :=
  (below?_written_iff hs ((Writable.of_forall hm).append hs)).mpr ⟨more, rfl, rfl⟩

/-! ## Texts that begin with a path -/

/-- The text begins with the path of some steps, and behind it comes nothing, a point or a
bracket. -/
def BeginsAt (path : String) (sels : List Selector) : Prop :=
  ∃ rest : String, path = written sels ++ rest ∧ AtBreak rest.toList

theorem beginsAt_iff : BeginsAt path sels ↔ (below? (written sels) path).isSome := by
  rw [Option.isSome_iff_exists]
  exact exists_congr fun rest => below?_eq_some_iff.symm

theorem below?_eq_none_of_not (h : ¬ BeginsAt path sels) : below? (written sels) path = none := by
  rwa [beginsAt_iff, Option.not_isSome_iff_eq_none] at h

/-- Whether a text goes on with some steps does not depend on what it begins with. -/
theorem beginsAt_append_iff (hs : ∀ s ∈ sels, s.IsStep) :
    BeginsAt (written sels ++ rest) (sels ++ more) ↔
      ∃ later : String, rest = selectorsText false more ++ later ∧ AtBreak later.toList := by
  unfold BeginsAt
  rw [Path.written_append hs]
  simp only [String.append_assoc, String.append_right_inj]

/-- A text that begins with a canonical path begins with every path that this one continues. -/
theorem BeginsAt.of_append (hs : ∀ s ∈ sels, s.IsStep) (hm : ∀ s ∈ more, s.IsStep)
    (h : BeginsAt path (sels ++ more)) : BeginsAt path sels := by
  obtain ⟨later, rfl, hl⟩ := h
  refine ⟨selectorsText false more ++ later, ?_, ?_⟩
  · rw [Path.written_append hs, String.append_assoc]
  · rw [String.toList_append]
    exact Path.atBreak_selectorsText hm hl

/-- Every text that denotes a path begins at the document. -/
theorem beginsAt_nil (h : Denotes path sels) : BeginsAt path [] := by
  obtain ⟨s, hs, _, hread⟩ := Path.denotes_iff.mp h
  refine ⟨String.ofList s, ?_, ?_⟩
  · rw [← String.toList_inj, String.toList_append, Path.written_toList, hs]
    simp [selectorsText]
  · rw [String.toList_ofList]
    exact Path.atBreak_of_readSteps hread

/-- Behind a path of items a text that denotes a path goes on with another step, if at all. -/
theorem atBreak_of_items (hs : ∀ s ∈ sels, s.IsStep)
    (h : Denotes (written (sels ++ [.wildcard]) ++ rest) more) : AtBreak rest.toList := by
  have hitems : written (sels ++ [.wildcard]) ++ rest = written sels ++ ("[*]" ++ rest) := by
    rw [Path.written_append hs, String.append_assoc]
    rfl
  have hb : AtBreak ("[*]" ++ rest).toList := by simp [AtBreak]
  rw [hitems] at h
  obtain ⟨later, _, hl⟩ := (denotes_append_iff hs hb).mp h
  obtain ⟨s, heq, _, hread⟩ := Path.denotes_iff.mp hl
  obtain rfl : s = '[' :: '*' :: ']' :: rest.toList := by simpa using heq.symm
  obtain ⟨first, tail, later, hstep, htail, _⟩ := Path.step_of_readSteps hread (by simp)
  have hwildcard : Path.step ('[' :: '*' :: ']' :: rest.toList) = .ok ([.wildcard], rest.toList) := rfl
  cases hwildcard.symm.trans hstep
  exact Path.atBreak_of_readSteps htail

end Recast.Input
