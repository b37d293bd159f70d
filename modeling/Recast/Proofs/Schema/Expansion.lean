import Recast.Proofs.Schema.Entries

/-!
# Expanded paths

A path of a source that begins with an at sign is put behind the enclosing path as text. Read
again, it has the selectors of both, unless the name at the end of the enclosing path goes on in
it: `@s` inside `$.crop` is read as `$.crops`, although `@s` alone is no path.
-/

namespace Recast.Schema

open Instance (childPath_eq isTrailStep_append itemPath_eq)
open Json (Value Fields)
open Recast.Path (IsTrailStep Selector readSteps written)
open Path.Grammar (Name)
open Text (Tight trim)

variable {outer trail : List Selector} {source stored : String} {e parent : Entry} {p : Path}

/-! ## Enclosing paths -/

/-- The path of the entry leads through the schema. -/
def Entry.OnTrail (e : Entry) : Prop :=
  ∃ trail, (∀ s ∈ trail, IsTrailStep s) ∧ e.path = written trail

theorem Walk.mem_andThen {w w' : Walk} (h : e ∈ (w.andThen w').entries) :
    e ∈ w.entries ∨ e ∈ w'.entries := by
  unfold Walk.andThen at h
  split at h
  · exact Or.inl h
  · exact List.mem_append.mp h

mutual

/-- A walk that begins on a trail stays on trails. -/
theorem onTrail_of_walk : ∀ (fragment : Value) {path : String} {depth : Nat} {key : Key}
    {trail : List Selector}, path = written trail → (∀ s ∈ trail, IsTrailStep s) →
    ∀ e ∈ (walk path depth key fragment).entries, e.OnTrail
  | .object fields, path, depth, key, trail, hpath, ht, e, he => by
      unfold walk at he
      dsimp only at he
      rcases List.mem_cons.mp he with rfl | he
      · exact ⟨trail, ht, hpath⟩
      · split at he
        · exact onTrail_of_walkProperties fields hpath ht e he
        · exact onTrail_of_walkItems fields hpath ht e he
        · cases he
  | .null, _, _, _, _, _, _, _, he => by cases he
  | .bool _, _, _, _, _, _, _, _, he => by cases he
  | .number _, _, _, _, _, _, _, _, he => by cases he
  | .string _, _, _, _, _, _, _, _, he => by cases he
  | .array _, _, _, _, _, _, _, _, he => by cases he
termination_by structural fragment => fragment

theorem onTrail_of_walkProperties : ∀ (fields : List (String × Value)) {path : String}
    {depth : Nat} {trail : List Selector}, path = written trail → (∀ s ∈ trail, IsTrailStep s) →
    ∀ e ∈ (walkProperties path depth fields).entries, e.OnTrail
  | [], _, _, _, _, _, _, he => by cases he
  | (key, v) :: rest, path, depth, trail, hpath, ht, e, he => by
      unfold walkProperties at he
      split at he
      · cases v with
        | object properties => exact onTrail_of_walkEach properties hpath ht e he
        | _ => cases he
      · exact onTrail_of_walkProperties rest hpath ht e he
termination_by structural fields => fields

theorem onTrail_of_walkItems : ∀ (fields : List (String × Value)) {path : String}
    {depth : Nat} {trail : List Selector}, path = written trail → (∀ s ∈ trail, IsTrailStep s) →
    ∀ e ∈ (walkItems path depth fields).entries, e.OnTrail
  | [], _, _, _, _, _, _, he => by cases he
  | (key, v) :: rest, path, depth, trail, hpath, ht, e, he => by
      have hv := @onTrail_of_walk v (Path.itemPath path) (depth + 1) .items
      unfold walkItems at he
      split at he
      · split at he
        · exact hv (itemPath_eq hpath ht) (isTrailStep_append ht .wildcard trivial) e he
        · cases he
      · exact onTrail_of_walkItems rest hpath ht e he
termination_by structural fields => fields

theorem onTrail_of_walkEach : ∀ (properties : List (String × Value)) {path : String}
    {depth : Nat} {trail : List Selector}, path = written trail → (∀ s ∈ trail, IsTrailStep s) →
    ∀ e ∈ (walkEach path depth properties).entries, e.OnTrail
  | [], _, _, _, _, _, _, he => by cases he
  | (name, v) :: rest, path, depth, trail, hpath, ht, e, he => by
      unfold walkEach at he
      rcases Walk.mem_andThen he with he | he
      · exact onTrail_of_walk v (childPath_eq hpath ht)
          (isTrailStep_append ht (.child name) trivial) e he
      · exact onTrail_of_walkEach rest hpath ht e he
termination_by structural properties => properties

end

theorem onTrail_of_entries {schema : Value} (he : e ∈ (entries schema).entries) : e.OnTrail :=
  onTrail_of_walk schema Path.rootPath_written (by simp) e he

theorem enclosing_eq_written (he : e.OnTrail) (hp : parent.OnTrail) :
    ∃ outer, (∀ s ∈ outer, IsTrailStep s) ∧ enclosing e.path parent.path = written outer := by
  obtain ⟨trail, ht, hpath⟩ := he
  obtain ⟨around, ha, haround⟩ := hp
  rcases enclosing_written trail around with h | h
  · exact ⟨trail, ht, by rw [hpath, haround, h]⟩
  · exact ⟨around, ha, by rw [hpath, haround, h]⟩

/-! ## Paths of sources -/

/-- What the kept path `stored` of a source reads as, inside the place at `outer`. -/
inductive Expanded (outer : List Selector) (source stored : String) : Prop where
  | document {sels : List Selector} (h : Path.parse source = .ok ⟨.document, sels⟩)
      (hstored : Path.parse stored = .ok ⟨.document, sels⟩)
  | current {sels : List Selector} (h : Path.parse source = .ok ⟨.current, sels⟩)
      (hstored : Path.parse stored = .ok ⟨.document, outer ++ sels⟩)
  /-- The name that ends the enclosing path goes on; the source alone is no path. -/
  | goesOn {front sels : List Selector} {name more tail : String} {fault : Path.Fault}
      (h : Path.parse source = .error fault)
      (hsource : Text.trimmed source = "@" ++ more ++ tail) (hmore : Name more.toList)
      (htail : Path.parse ("@" ++ tail) = .ok ⟨.current, sels⟩)
      (houter : outer = front ++ [.child name])
      (hstored : Path.parse stored = .ok ⟨.document, front ++ .child (name ++ more) :: sels⟩)

theorem parse_current {s : List Char} {sels : List Selector} (h : readSteps s = .ok sels) :
    Path.parse (String.ofList ('@' :: s)) = .ok ⟨.current, sels⟩ := by
  have he := Path.Grammar.Expression.current (Path.steps_of_readSteps h)
  rw [Path.parse_eq_ok_iff, String.toList_ofList, he.tight.trim_eq]
  exact he

theorem parse_trimmed (source : String) :
    Path.parse (Text.trimmed source) = .ok p ↔ Path.parse source = .ok p := by
  rw [Path.parse_eq_ok_iff, Path.parse_eq_ok_iff, Text.trimmed, String.toList_ofList,
    (Text.tight_trim _).trim_eq]

/-- No path begins with an at sign and a character of a name. -/
theorem exists_fault_of_name {more tail : List Char} (hmore : Name more)
    (hs : trim source.toList = '@' :: (more ++ tail)) : ∃ fault, Path.parse source = .error fault := by
  cases hread : Path.parse source with
  | error fault => exact ⟨fault, rfl⟩
  | ok p =>
      have he := Path.parse_eq_ok_iff.mp hread
      rw [hs] at he
      cases he with
      | current h =>
          cases more with
          | nil => exact absurd rfl hmore.ne_nil
          | cons c more =>
              have hc := h.stopsAt c rfl
              rw [hmore.chars c (by simp)] at hc
              cases hc

theorem buildPath_expanded (ht : ∀ s ∈ outer, s.IsStep)
    (h : buildPath (written outer) source = .ok stored) : Expanded outer source stored := by
  obtain ⟨sels, hdenotes⟩ := buildPath_denotes ht h
  obtain ⟨hexpand, _⟩ := buildPath_eq_ok h
  unfold expand at hexpand
  split at hexpand
  · rename_i rest hsource
    obtain ⟨s, hs, _, hread⟩ := Path.denotes_iff.mp hdenotes
    rw [hexpand, String.toList_append, Path.written_toList, String.toList_ofList,
      List.cons_append] at hs
    obtain rfl := (List.cons.inj hs).2
    have hcurrent : Text.trimmed source = String.ofList ('@' :: rest) := by
      rw [Text.trimmed, hsource]
    rcases Path.readSteps_behind ht hread with ⟨later, hlater, rfl⟩ |
      ⟨front, name, more, tail, later, rfl, hmore, rfl, hlater, rfl⟩
    · refine .current ((parse_trimmed source).mp ?_) hdenotes.parse_eq
      rw [hcurrent]
      exact parse_current hlater
    · obtain ⟨fault, hfault⟩ := exists_fault_of_name hmore hsource
      have htrimmed : Text.trimmed source = "@" ++ String.ofList more ++ String.ofList tail := by
        rw [hcurrent]
        simp [String.append_assoc]
      have htail : Path.parse ("@" ++ String.ofList tail) = .ok ⟨.current, later⟩ := by
        simpa using parse_current hlater
      exact .goesOn hfault htrimmed (by rwa [String.toList_ofList]) htail rfl hdenotes.parse_eq
  · have hstored : stored = Text.trimmed source := hexpand
    have hparse := hdenotes.parse_eq
    rw [hstored, parse_trimmed] at hparse
    exact .document hparse hdenotes.parse_eq

theorem Source.build_expanded {d : SourceDeclaration} {s : Source} (ht : ∀ s ∈ outer, s.IsStep)
    (h : Source.build (written outer) d = .ok s) : Option.Rel (Expanded outer) d.path s.path := by
  obtain ⟨hpath, _, _⟩ := Source.build_eq_ok h
  generalize hsource : d.path = source at hpath ⊢
  cases source with
  | none =>
      have hnone : s.path = none := (Except.ok.inj hpath).symm
      rw [hnone]
      exact .none
  | some source =>
      obtain ⟨stored, hstored, hbuild⟩ := mapM_some_eq_ok hpath
      rw [hstored]
      exact .some (buildPath_expanded ht hbuild)

/-- The paths of an accepted rule read as they are declared, behind the selectors of the enclosing
path where they begin with an at sign; or they are no paths, and its last name goes on in them. -/
theorem Rule.sources_expanded {schema block : Value} {kind : Kind} {rule : Rule}
    (he : e ∈ (entries schema).entries) (hparent : parent ∈ (entries schema).entries)
    (h : Rule.build (enclosing e.path parent.path) kind block = .ok rule) :
    ∃ outer d sources, enclosing e.path parent.path = written outer ∧
      RuleDeclaration.decode block = .ok d ∧ d.sources = some sources ∧
      List.Forall₂ (fun declared kept => Option.Rel (Expanded outer) declared.path kept.path)
        sources rule.sources := by
  obtain ⟨outer, ht, houter⟩ :=
    enclosing_eq_written (onTrail_of_entries he) (onTrail_of_entries hparent)
  have hsteps : ∀ s ∈ outer, s.IsStep := fun s hs => (ht s hs).isStep
  obtain ⟨d, sources, hd, hsources, hbuilt, _, _⟩ := Rule.build_eq_ok h
  rw [houter] at hbuilt
  exact ⟨outer, d, sources, houter, hd, hsources,
    (forall₂_of_mapM_eq_ok hbuilt).imp fun _ _ hs => Source.build_expanded hsteps hs⟩

def cropSchema : Value :=
  objectFragment [("crop", objectFragment [("x", scalarFragment "string")])]

def cropBlock : Value :=
  .object [("from", .array [
    .object [("jsonPath", .string "@s")],
    .object [("jsonPath", .string " @.y ")],
    .object [("jsonPath", .string "$.z")]])]

def cropRule : Rule :=
  ⟨[⟨some "$.crops", none, []⟩, ⟨some "$.crop.y", none, []⟩, ⟨some "$.z", none, []⟩], .first, ""⟩

theorem crop_mem_entries :
    ∃ e ∈ (entries cropSchema).entries, ∃ parent ∈ (entries cropSchema).entries,
      e.path = "$.crop.x" ∧ parent.path = "$.crop" :=
  ⟨_, .tail _ (.tail _ (.head _)), _, .tail _ (.head _), rfl, rfl⟩

theorem Rule.sources_expanded_crop :
    ∃ outer d sources, enclosing "$.crop.x" "$.crop" = written outer ∧
      RuleDeclaration.decode cropBlock = .ok d ∧ d.sources = some sources ∧
      List.Forall₂ (fun declared kept => Option.Rel (Expanded outer) declared.path kept.path)
        sources cropRule.sources := by
  obtain ⟨e, he, parent, hparent, hpath, haround⟩ := crop_mem_entries
  have h : Rule.build (enclosing "$.crop.x" "$.crop") (.scalar .string) cropBlock = .ok cropRule :=
    rfl
  rw [← hpath, ← haround] at h ⊢
  exact Rule.sources_expanded he hparent h

/-- A rule is accepted with a source that is no path. -/
theorem Rule.build_no_path :
    (∃ e ∈ (entries cropSchema).entries, ∃ parent ∈ (entries cropSchema).entries,
      Rule.build (enclosing e.path parent.path) (.scalar .string) cropBlock = .ok cropRule) ∧
      (∃ d, RuleDeclaration.decode cropBlock = .ok d ∧
        ∃ sources ∈ d.sources, ∃ s ∈ sources, s.path = some "@s") ∧
      ∃ fault, Path.parse "@s" = .error fault := by
  refine ⟨?_, ⟨_, rfl, _, rfl, _, .head _, rfl⟩, _, rfl⟩
  obtain ⟨e, he, parent, hparent, hpath, haround⟩ := crop_mem_entries
  exact ⟨e, he, parent, hparent, by rw [hpath, haround]; rfl⟩

end Recast.Schema
