import Recast.Proofs.Outcome
import Recast.Proofs.Path.Canonical
import Recast.Schema.Rule

/-!
# Paths of rules

Every path that a rule keeps can be read, and starts at the document.
-/

namespace Recast.Schema

open Json (Value)
open Recast.Path (Denotes Selector written)
open Text (Tight tight_trim)

variable {trail : List Selector} {source path : String}

/-- An expanded path has no blanks around it, and it no longer starts at the current value. -/
theorem expand_shape (source : String) (ht : ∀ s ∈ trail, s.IsStep) :
    Tight (expand source (written trail)).toList ∧
      (expand source (written trail)).toList.head? ≠ some '@' := by
  have htrim := tight_trim source.toList
  unfold expand
  split
  · rename_i rest hs
    rw [hs] at htrim
    rw [String.toList_append, String.toList_ofList]
    refine ⟨Tight.append (Path.tight_written ht) (by simp [Path.written_toList]) (a := ['@']) htrim, ?_⟩
    simp [Path.written_toList]
  · rename_i hs
    rw [String.toList_ofList]
    refine ⟨htrim, fun hhead => ?_⟩
    obtain ⟨rest, hrest⟩ := List.head?_eq_some_iff.mp hhead
    exact hs rest hrest

/-- A path without surrounding blanks that does not start at the current value starts at the
document. -/
theorem denotes_of_parse {p : Path} (ht : Tight path.toList) (hh : path.toList.head? ≠ some '@')
    (h : Path.parse path = .ok p) : Denotes path p.selectors := by
  refine ⟨?_, ht⟩
  have he := Path.parse_eq_ok_iff.mp h
  rw [ht.trim_eq] at he
  generalize path.toList = s at he hh
  cases he with
  | document _ => exact h
  | current _ => exact absurd rfl hh

/-- The path that is built is the expanded one, and it can be read. -/
theorem buildPath_eq_ok {enclosing : String} (h : buildPath enclosing source = .ok path) :
    path = expand source enclosing ∧ ∃ p, Path.parse path = .ok p := by
  unfold buildPath at h
  dsimp only at h
  split at h
  · rename_i p hp
    cases h
    exact ⟨rfl, p, hp⟩
  · cases h

theorem buildPath_denotes (ht : ∀ s ∈ trail, s.IsStep)
    (h : buildPath (written trail) source = .ok path) : ∃ sels, Denotes path sels := by
  obtain ⟨rfl, p, hp⟩ := buildPath_eq_ok h
  obtain ⟨htight, hhead⟩ := expand_shape source ht
  exact ⟨_, denotes_of_parse htight hhead hp⟩

/-- What a source is built from. -/
theorem Source.build_eq_ok {enclosing : String} {d : SourceDeclaration} {s : Source}
    (h : Source.build enclosing d = .ok s) :
    d.path.mapM (buildPath enclosing) = .ok s.path ∧ d.nodePath.mapM buildNodePath = .ok s.nodePath ∧
      d.operations.mapM buildOperation = .ok s.operations := by
  unfold Source.build at h
  split at h
  · cases h
  · obtain ⟨path, hpath, h⟩ := bind_eq_ok h
    obtain ⟨nodePath, hnodePath, h⟩ := bind_eq_ok h
    obtain ⟨operations, hoperations, h⟩ := bind_eq_ok h
    cases h
    exact ⟨hpath, hnodePath, hoperations⟩

/-- What a rule is built from. -/
theorem Rule.build_eq_ok {enclosing : String} {kind : Kind} {block : Value} {rule : Rule}
    (h : Rule.build enclosing kind block = .ok rule) :
    ∃ d sources, RuleDeclaration.decode block = .ok d ∧ d.sources = some sources ∧
      sources.mapM (Source.build enclosing) = .ok rule.sources ∧ rule.method = d.method ∧
      rule.delimiter = d.delimiter := by
  unfold Rule.build at h
  split at h
  · cases h
  · rename_i d hd
    split at h
    · cases h
    · cases h
    · rename_i sources _ hsources
      split at h
      · cases h
      · obtain ⟨built, hbuilt, h⟩ := bind_eq_ok h
        cases h
        exact ⟨d, sources, hd, hsources, hbuilt, rfl, rfl⟩

theorem Source.build_denotes {d : SourceDeclaration} {s : Source} (ht : ∀ s ∈ trail, s.IsStep)
    (h : Source.build (written trail) d = .ok s) : ∀ path ∈ s.path, ∃ sels, Denotes path sels := by
  obtain ⟨hpath, _, _⟩ := Source.build_eq_ok h
  intro path hp
  rw [Option.mem_def.mp hp] at hpath
  obtain ⟨source, _, hsource⟩ := mapM_eq_some hpath
  exact buildPath_denotes ht hsource

theorem Rule.build_denotes {kind : Kind} {block : Value} {rule : Rule} (ht : ∀ s ∈ trail, s.IsStep)
    (h : Rule.build (written trail) kind block = .ok rule) :
    ∀ s ∈ rule.sources, ∀ path ∈ s.path, ∃ sels, Denotes path sels := by
  obtain ⟨d, sources, _, _, hsources, _, _⟩ := Rule.build_eq_ok h
  intro s hs
  obtain ⟨d, _, hd⟩ := mem_of_mapM hsources hs
  exact Source.build_denotes ht hd

end Recast.Schema
