import Recast.Proofs.Transform.Resolve
import Recast.Proofs.Transform.Visits

/-!
# Lookups at a place

A source is looked up along steps that its own path ends with, in the innermost element that its
concrete path is below, or in the document. So a lookup breaks off only in markup, and only where the
path of the source itself counts too far.
-/

namespace Recast

open Input (Context Finding LookupFault Scope below? below?_denotes below?_eq_some_iff)
open Json (Value)
open Recast.Path
open Schema (Instance Rule Source)

variable {outer sels : List Selector} {indices : List Nat} {names : List String} {path : String}
  {i : Instance} {s : Source}

/-- A source of the rule that is active counts to the last index of all. -/
def Schema.Instance.CountsTooFar (ruleSet : String) (i : Instance) : Prop :=
  ∃ rule, i.rule? ruleSet = some rule ∧ ∃ s ∈ rule.sources, ∃ path ∈ s.path,
    ∃ q, Path.parse path = .ok q ∧ Nat.pow 2 64 - 1 ∈ q.indices

namespace Transform

variable {p : Place}

/-! ## The element of a lookup -/

theorem scopeOf?_cases (path : String) (scopes : List Scope) :
    (Context.scopeOf? path scopes = none ∧ ∀ s ∈ scopes, below? s.path path = none) ∨
      ∃ before s after left, scopes = before ++ s :: after ∧
        (∀ s' ∈ before, below? s'.path path = none) ∧ below? s.path path = some left ∧
        Context.scopeOf? path scopes = some (s.seed, left) := by
  induction scopes with
  | nil => exact Or.inl ⟨rfl, by simp⟩
  | cons s scopes ih =>
      unfold Context.scopeOf?
      cases hb : below? s.path path with
      | some left => exact Or.inr ⟨[], s, scopes, left, rfl, by simp, hb, rfl⟩
      | none =>
          rcases ih with ⟨hnone, hall⟩ | ⟨before, s', after, left, rfl, hbefore, hb', hsome⟩
          · exact Or.inl ⟨hnone, by simpa [hb] using hall⟩
          · exact Or.inr ⟨s :: before, s', after, left, rfl, by simpa [hb] using hbefore, hb', hsome⟩

/-- The element at the end of a trail of items is one of the scopes. -/
theorem Place.Within.exists_scope_of_trail (h : p.Within outer indices) {o : List Selector}
    (ho : o ∈ itemTrails outer) : ∃ s ∈ p.input.scopes, s.path = written (fill o indices) := by
  have hmem : written (fill o indices) ∈ p.input.scopes.map Scope.path := by
    rw [h.scopes_path, h.elements_eq_ofTrail, List.map_map]
    exact List.mem_map.mpr ⟨o, List.mem_reverse.mpr ho, rfl⟩
  exact List.mem_map.mp hmem

/-- A source is looked up along steps that its path ends with. -/
theorem Place.Within.exists_lookup (h : p.Within outer indices) (hd : Denotes path sels) :
    ∃ front later, sels = front ++ later ∧
      (p.input.lookup (p.concrete path) =
          Context.inDocument ⟨.document, later⟩ p.input.document ∨
        ∃ s ∈ p.input.scopes,
          p.input.lookup (p.concrete path) = Context.inSeed ⟨.document, later⟩ s.seed) := by
  obtain ⟨o, left, hl⟩ := h.exists_leavesAt hd
  obtain ⟨later, rfl, hc⟩ := hl.denotes_concrete h hd
  have hbelow : below? (written (fill o indices)) (p.concrete path) = some left :=
    below?_eq_some_iff.mpr ⟨hl.concrete_eq, hl.atBreak⟩
  rcases scopeOf?_cases (p.concrete path) p.input.scopes with
    ⟨hnone, hall⟩ | ⟨before, s, after, left', hscopes, hbefore, hs, hsome⟩
  · rcases hl.trail with rfl | ho
    · refine ⟨[], later, rfl, Or.inl ?_⟩
      rw [Context.lookup, hnone]
      dsimp only
      rw [Context.readPath_eq_ok_iff.mpr hc.parse_eq]
      rfl
    · obtain ⟨s, hs, hpath⟩ := h.exists_scope_of_trail ho
      cases (hpath ▸ hall s hs).symm.trans hbelow
  · have hmem : s ∈ p.input.scopes := by simp [hscopes]
    obtain ⟨o', ho', hpath⟩ := h.exists_trail_of_scope hmem
    have hsteps : ∀ sel ∈ fill o' indices, sel.IsStep :=
      fun sel hsel => (h.isConcrete_fill_of_mem ho' sel hsel).1
    -- No scope further in holds the path, so the one that does is at the trail or inside of it.
    have hinner : ∃ more, fill o' indices = fill o indices ++ more := by
      rcases hl.trail with rfl | ho
      · exact ⟨fill o' indices, rfl⟩
      · obtain ⟨s', hs', hpath'⟩ := h.exists_scope_of_trail ho
        have hrest : ∃ rest : String, s.path = s'.path ++ rest ∧ AtBreak rest.toList := by
          have hnested := h.scopes_nested
          rw [hscopes] at hs' hnested
          rcases List.mem_append.mp hs' with hs' | hs'
          · cases (hpath' ▸ hbefore s' hs').symm.trans hbelow
          · rcases List.mem_cons.mp hs' with rfl | hs'
            · exact ⟨"", String.append_empty.symm, AtBreak.nil⟩
            · obtain ⟨rest, _, hrest⟩ :=
                (List.pairwise_cons.mp (List.pairwise_append.mp hnested).2.1).1 s' hs'
              exact ⟨rest, hrest⟩
        obtain ⟨rest, hrest, hbreak⟩ := hrest
        have hdenotes := denotes_written hsteps
        rw [← hpath, hrest, hpath'] at hdenotes
        obtain ⟨more, hmore, _⟩ := (denotes_append_iff (hl.isStep_fill h) hbreak).mp hdenotes
        exact ⟨more, hmore⟩
    obtain ⟨more, hmore⟩ := hinner
    rw [hpath] at hs
    obtain ⟨later', hlater, hdenotes⟩ := below?_denotes hsteps hc hs
    rw [hmore, List.append_assoc, List.append_cancel_left_eq] at hlater
    refine ⟨o ++ more, later', by rw [hlater, List.append_assoc], Or.inr ⟨s, hmem, ?_⟩⟩
    rw [Context.lookup, hsome]
    dsimp only
    rw [Context.readPath_eq_ok_iff.mpr hdenotes.parse_eq]
    rfl

/-! ## Lookups that break off -/

/-- Something that the place looks into was read from markup. -/
def Place.HasMarkup (p : Place) : Prop :=
  (∃ root, p.input.document = .markup root) ∨ ∃ s ∈ p.input.scopes, ∃ ns, s.seed = .nodes ns

theorem Place.Within.lookup_eq_error (h : p.Within outer indices) (hd : Denotes path sels)
    {fault : LookupFault} (hfault : p.input.lookup (p.concrete path) = .error fault) :
    fault = .overflow ∧ p.HasMarkup ∧
      ∃ k ∈ Path.indices ⟨.document, sels⟩, Nat.pow 2 64 ≤ k + 1 := by
  obtain ⟨front, later, rfl, hlookup⟩ := h.exists_lookup hd
  have hindices : ∀ k ∈ Path.indices ⟨.document, later⟩,
      k ∈ Path.indices ⟨.document, front ++ later⟩ := fun k hk => by
    rw [Path.indices, List.filterMap_append]
    exact List.mem_append_right _ hk
  rcases hlookup with hlookup | ⟨s, hs, hlookup⟩ <;> rw [hlookup] at hfault
  · obtain ⟨rfl, hmarkup, k, hk, hle⟩ := Context.inDocument_eq_error hfault
    exact ⟨rfl, Or.inl hmarkup, k, hindices k hk, hle⟩
  · obtain ⟨rfl, hnodes, k, hk, hle⟩ := Context.inSeed_eq_error hfault
    exact ⟨rfl, Or.inr ⟨s, hs, hnodes⟩, k, hindices k hk, hle⟩

/-- Only the sources of a rule break off, and only in markup. -/
theorem Place.Within.lookup_source_eq_error (h : p.Within outer indices)
    (hi : i.declared.At (outer ++ members names)) {rule : Rule}
    (hr : i.rule? p.ruleSet = some rule) (hs : s ∈ rule.sources) (hpath : path ∈ s.path)
    {fault : LookupFault} (hfault : p.input.lookup (p.concrete path) = .error fault) :
    fault = .overflow ∧ p.HasMarkup ∧ i.CountsTooFar p.ruleSet := by
  obtain ⟨sels, hsels⟩ := hi.readable_of_rule hr s hs path hpath
  obtain ⟨rfl, hmarkup, k, hk, hle⟩ := h.lookup_eq_error hsels hfault
  obtain rfl : k = Nat.pow 2 64 - 1 := by
    have hlt := indices_lt hsels.parse_eq hk
    omega
  exact ⟨rfl, hmarkup, rule, hr, s, hs, path, hpath, _, hsels.parse_eq, hk⟩

theorem resolve_eq_error (hp : p.Within outer indices)
    (hi : i.declared.At (outer ++ members names)) :
    FailsOnly (fun e => e.kind = .operation ∨
      e = .overflow ∧ p.HasMarkup ∧ i.CountsTooFar p.ruleSet) (resolve p i) := by
  refine resolve_fails hp hi (fun e he => Or.inl he) fun rule hr s hs => ?_
  unfold find lookup
  split
  · exact .ok _
  · rename_i path hpath _
    split
    · exact .ok _
    · rename_i fault hfault
      obtain ⟨rfl, hcause⟩ := hp.lookup_source_eq_error hi hr hs hpath hfault
      exact .error (Or.inr ⟨rfl, hcause⟩)
  · exact .ok none

/-! ## Findings in JSON -/

/-- What the computation finds, if anything, is a value. -/
def FindsValues (x : Except Error (Option Finding)) : Prop :=
  ∀ found, x = .ok (some found) → ∃ v, found = .json v

theorem FindsValues.none : FindsValues (.ok none) := fun _ h => by cases h

theorem FindsValues.error (e : Error) : FindsValues (.error e) := fun _ h => by cases h

theorem inValue_isValue {q : Path} {v : Value} {found : Finding}
    (h : Context.inValue q v = some found) : ∃ w, found = .json w := by
  unfold Context.inValue at h
  split at h
  · obtain ⟨w, _, hw⟩ := Option.bind_eq_some_iff.mp h
    unfold Finding.ofJson? at hw
    split at hw <;> cases hw
    exact ⟨w, rfl⟩
  · split at h <;> cases h
    exact ⟨_, rfl⟩

theorem inDocument_isValue {q : Path} {found : Finding} (hp : ¬ p.HasMarkup)
    (h : Context.inDocument q p.input.document = .ok (some found)) : ∃ v, found = .json v := by
  cases hd : p.input.document with
  | json v =>
      rw [hd] at h
      exact inValue_isValue (Except.ok.inj h)
  | markup root => exact absurd (Or.inl ⟨root, hd⟩) hp

theorem inSeed_isValue {q : Path} {found : Finding} (hp : ¬ p.HasMarkup) {s : Scope}
    (hs : s ∈ p.input.scopes) (h : Context.inSeed q s.seed = .ok (some found)) :
    ∃ v, found = .json v := by
  cases hseed : s.seed with
  | json v =>
      rw [hseed] at h
      exact inValue_isValue (Except.ok.inj h)
  | nodes ns => exact absurd (Or.inr ⟨s, hs, ns, hseed⟩) hp

theorem lookup_findsValues (hp : ¬ p.HasMarkup) (path : String) : FindsValues (lookup p path) := by
  intro found h
  unfold lookup at h
  split at h
  · rename_i hlookup
    cases h
    unfold Context.lookup at hlookup
    rcases scopeOf?_cases path p.input.scopes with
      ⟨hnone, _⟩ | ⟨before, s, after, left, hs, _, _, hsome⟩
    · rw [hnone] at hlookup
      obtain ⟨q, _, hlookup⟩ := bind_eq_ok hlookup
      exact inDocument_isValue hp hlookup
    · rw [hsome] at hlookup
      obtain ⟨q, _, hlookup⟩ := bind_eq_ok hlookup
      exact inSeed_isValue hp (by simp [hs]) hlookup
  · cases h

theorem find_findsValues (hp : ¬ p.HasMarkup) (s : Source) : FindsValues (find p s) := by
  unfold find
  split
  · rename_i root nodePath hd _
    exact absurd (Or.inl ⟨root, hd⟩) hp
  · exact lookup_findsValues hp _
  · exact .none

theorem runAll_findsValues (path : String) (operations : List Operation) (v : Value) :
    FindsValues (runAll path operations v) := by
  induction operations generalizing v with
  | nil =>
      intro found h
      have h : Finding.ofJson? v = some found := Except.ok.inj h
      unfold Finding.ofJson? at h
      split at h <;> cases h
      exact ⟨v, rfl⟩
  | cons operation rest ih =>
      unfold runAll
      split
      · exact .error _
      · exact .none
      · exact ih _

theorem evaluate_findsValues (hp : ¬ p.HasMarkup) (kind : Kind) (path : String) (s : Source) :
    FindsValues (evaluate p kind path s) := by
  intro found h
  obtain ⟨found', hfound, h⟩ := bind_eq_ok h
  cases found' with
  | none => cases h
  | some f =>
      obtain ⟨v, rfl⟩ := find_findsValues hp s f hfound
      dsimp only at h
      split at h
      · cases h
        unfold coerced
        split
        · exact ⟨_, rfl⟩
        · exact ⟨v, rfl⟩
      · exact runAll_findsValues path _ _ found h

theorem firstOf_findsValues (hp : ¬ p.HasMarkup) (kind : Kind) (path : String)
    (sources : List Source) : FindsValues (firstOf p kind path sources) := by
  induction sources with
  | nil => exact .none
  | cons s rest ih =>
      intro found h
      obtain ⟨found', hfound, h⟩ := bind_eq_ok h
      cases found' with
      | none => exact ih found h
      | some f =>
          cases h
          exact evaluate_findsValues hp kind path s _ hfound

theorem applyRule_findsValues (hp : ¬ p.HasMarkup) (kind : Kind) (path : String) (rule : Rule) :
    FindsValues (applyRule p kind path rule) := by
  unfold applyRule
  cases rule.method with
  | first => exact firstOf_findsValues hp kind path _
  | last => exact firstOf_findsValues hp kind path _
  | concatenate =>
      intro found h
      obtain ⟨texts, _, h⟩ := bind_eq_ok h
      obtain ⟨joined, _, rfl⟩ := Option.map_eq_some_iff.mp (Except.ok.inj h)
      exact ⟨_, rfl⟩

theorem copy_findsValues (hp : ¬ p.HasMarkup) (kind : Kind) (path : String) :
    FindsValues (copy p kind path) := by
  intro found h
  obtain ⟨found', hfound, h⟩ := bind_eq_ok h
  cases found' with
  | none => cases h
  | some f =>
      dsimp only at h
      split at h
      · obtain ⟨v, _, rfl⟩ := Option.map_eq_some_iff.mp (Except.ok.inj h)
        exact ⟨v, rfl⟩
      · cases h
        exact lookup_findsValues hp path _ hfound

/-- Away from markup an instance has values only. -/
theorem resolve_findsValues (hp : ¬ p.HasMarkup) (i : Instance) : FindsValues (resolve p i) := by
  intro found h
  rw [resolve_eq_bind] at h
  obtain ⟨ruled, hruled, h⟩ := bind_eq_ok h
  cases ruled with
  | some f =>
      cases h
      unfold byRule at hruled
      split at hruled
      · exact applyRule_findsValues hp _ _ _ _ hruled
      · cases hruled
  | none =>
      obtain ⟨copied, hcopied, h⟩ := bind_eq_ok h
      cases copied with
      | some f =>
          cases h
          split at hcopied
          · cases hcopied
          · exact copy_findsValues hp _ _ _ hcopied
      | none =>
          obtain ⟨v, _, rfl⟩ := Option.map_eq_some_iff.mp (Except.ok.inj h)
          exact ⟨v, rfl⟩

end Transform

end Recast
