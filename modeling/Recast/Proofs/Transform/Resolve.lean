import Recast.Proofs.Outcome
import Recast.Proofs.Transform.Build
import Recast.Proofs.Transform.Within

/-!
# Resolving at a place

An instance is resolved by its rule, by what stands at its place in the input and by its default, in
this order. Only rules fail: on an operation, or where a source cannot be found out.
-/

namespace Recast.Transform

open Input (Finding)
open Json (Value)
open Recast.Path
open Schema (Instance Rule Source)

variable {p : Place} {outer : List Selector} {indices : List Nat} {names : List String}
variable {i : Instance} {kind : Kind} {path : String} {s : Source} {sources : List Source}
variable {ε : Type}

/-! ## Errors -/

section Errors

variable {P : Error → Prop}

theorem runAll_fails (hop : ∀ e : Error, e.kind = .operation → P e) (path : String)
    (operations : List Operation) (v : Value) : FailsOnly P (runAll path operations v) := by
  induction operations generalizing v with
  | nil => exact .ok _
  | cons operation rest ih =>
      unfold runAll
      split
      · exact .error (hop _ rfl)
      · exact .ok none
      · exact ih _

theorem evaluate_fails (hop : ∀ e : Error, e.kind = .operation → P e)
    (hfind : FailsOnly P (find p s)) : FailsOnly P (evaluate p kind path s) := by
  unfold evaluate
  refine hfind.bind fun found _ => ?_
  cases found with
  | none => exact .ok none
  | some found =>
      dsimp only
      split
      · exact .ok _
      · exact runAll_fails hop path _ _

theorem firstOf_fails (hop : ∀ e : Error, e.kind = .operation → P e)
    (hfind : ∀ s ∈ sources, FailsOnly P (find p s)) :
    FailsOnly P (firstOf p kind path sources) := by
  induction sources with
  | nil => exact .ok none
  | cons s rest ih =>
      unfold firstOf
      refine (evaluate_fails hop (hfind s (by simp))).bind fun found _ => ?_
      cases found with
      | none => exact ih fun s hrest => hfind s (by simp [hrest])
      | some found => exact .ok _

theorem parts_fails (hop : ∀ e : Error, e.kind = .operation → P e)
    (hfind : ∀ s ∈ sources, FailsOnly P (find p s)) : FailsOnly P (parts p kind path sources) := by
  induction sources with
  | nil => exact .ok []
  | cons s rest ih =>
      have hrest := ih fun s hrest => hfind s (by simp [hrest])
      unfold parts
      refine (evaluate_fails hop (hfind s (by simp))).bind fun found _ => ?_
      split
      · exact hrest
      · exact hrest
      · exact hrest.bind fun others _ => .ok _
      · exact .error (hop _ rfl)

/-- A rule fails on an operation or where one of its sources cannot be found out. -/
theorem applyRule_fails (hop : ∀ e : Error, e.kind = .operation → P e) {rule : Rule}
    (hfind : ∀ s ∈ rule.sources, FailsOnly P (find p s)) :
    FailsOnly P (applyRule p kind path rule) := by
  unfold applyRule
  cases rule.method with
  | first => exact firstOf_fails hop hfind
  | last => exact firstOf_fails hop fun s h => hfind s (List.mem_reverse.mp h)
  | concatenate => exact (parts_fails hop hfind).bind fun _ _ => .ok _

end Errors

/-! ## Rules, copies and defaults -/

/-- The value of the rule of an instance, if it has one. -/
def byRule (p : Place) (i : Instance) : Except Error (Option Finding) :=
  match i.rule? p.ruleSet with
  | some rule => applyRule p i.kind (p.concrete i.path) rule
  | none => .ok none

theorem byRule_fails {P : Error → Prop} (hop : ∀ e : Error, e.kind = .operation → P e)
    (hfind : ∀ rule, i.rule? p.ruleSet = some rule → ∀ s ∈ rule.sources, FailsOnly P (find p s)) :
    FailsOnly P (byRule p i) := by
  unfold byRule
  split
  · rename_i rule hr
    exact applyRule_fails hop (hfind rule hr)
  · exact .ok none

/-- What stands at the place of the instance in the input, as a value of its kind; nothing stands
for objects. -/
def copied (p : Place) (i : Instance) (names : List String) : Option Finding :=
  match i.kind with
  | .scalar s => (nearest p.input (members names)).bind fun found => (found.coerce? s).map .json
  | .object => none
  | .array => nearest p.input (members names)

theorem copy_eq (hp : p.Within outer indices) (hi : i.declared.At (outer ++ members names))
    (hk : i.kind ≠ .object) : copy p i.kind (p.concrete i.path) = .ok (copied p i names) := by
  have hl : lookup p (p.concrete i.path) = .ok (nearest p.input (members names)) := by
    rw [lookup, Instance.path, hi.path_eq, hp.concrete_written, hp.lookup_written]
  unfold copied copy
  rw [hl]
  cases h : i.kind with
  | object => exact absurd h hk
  | array => cases nearest p.input (members names) <;> rfl
  | scalar s => cases nearest p.input (members names) <;> rfl

theorem resolve_eq_bind (p : Place) (i : Instance) :
    resolve p i = byRule p i >>= fun found => found.elim
      ((if i.kind == .object then .ok none else copy p i.kind (p.concrete i.path)) >>=
        fun found => .ok (found <|> i.declared.default.map .json)) fun found => .ok (some found) := by
  unfold resolve byRule
  dsimp only
  generalize copy p i.kind (p.concrete i.path) = copied
  cases i.kind == .object <;> rcases copied with e | _ | found <;>
    cases i.rule? p.ruleSet with
    | none => rfl
    | some rule =>
        dsimp only
        rcases applyRule p i.kind (p.concrete i.path) rule with e | _ | found <;> rfl

/-- An instance has the value of its rule, else what stands at its place in the input, else its
default. -/
theorem resolve_eq (hp : p.Within outer indices) (hi : i.declared.At (outer ++ members names)) :
    resolve p i = byRule p i >>= fun found =>
      .ok (found <|> copied p i names <|> i.declared.default.map .json) := by
  have hrest : (if i.kind == .object then .ok none else copy p i.kind (p.concrete i.path)) =
      .ok (copied p i names) := by
    by_cases hk : i.kind = .object
    · simp [copied, hk]
    · simp [hk, copy_eq hp hi hk]
  rw [resolve_eq_bind, hrest]
  congr 1
  funext found
  cases found <;> rfl

theorem resolve_fails (hp : p.Within outer indices) (hi : i.declared.At (outer ++ members names))
    {P : Error → Prop} (hop : ∀ e : Error, e.kind = .operation → P e)
    (hfind : ∀ rule, i.rule? p.ruleSet = some rule → ∀ s ∈ rule.sources, FailsOnly P (find p s)) :
    FailsOnly P (resolve p i) := by
  rw [resolve_eq hp hi]
  exact (byRule_fails hop hfind).bind fun found _ => .ok _

/-- To resolve an instance is to write nothing. -/
theorem resolve_kind_ne_tree (hp : p.Within outer indices)
    (hi : i.declared.At (outer ++ members names)) :
    FailsOnly (fun e => e.kind ≠ .tree) (resolve p i) := by
  refine resolve_fails hp hi (fun e he => by simp [he]) fun rule _ s _ => ?_
  unfold find lookup
  split
  · exact .ok _
  · split
    · exact .ok _
    · rename_i fault _
      cases fault <;> exact .error (by simp [Error.ofLookup, Error.kind])
  · exact .ok none

/-- Without a rule, an instance has what stands at its place in the input, else its default. -/
theorem resolve_of_no_rule (hp : p.Within outer indices)
    (hi : i.declared.At (outer ++ members names)) (hr : i.rule? p.ruleSet = none) :
    resolve p i = .ok (copied p i names <|> i.declared.default.map .json) := by
  have hnone : byRule p i = .ok none := by rw [byRule, hr]
  rw [resolve_eq hp hi, hnone]
  rfl

theorem resolved_ne_tree (hp : p.Within outer indices)
    (hi : i.declared.At (outer ++ members names)) : FailsOnly (· ≠ .tree) (resolved p i) :=
  failsOnly_mapError.mpr (resolve_kind_ne_tree hp hi)

theorem resolved_of_no_rule (hp : p.Within outer indices)
    (hi : i.declared.At (outer ++ members names)) (hr : i.rule? p.ruleSet = none) :
    resolved p i = .ok (copied p i names <|> i.declared.default.map .json) := by
  rw [resolved, resolve_of_no_rule hp hi hr]
  rfl

/-! ## Properties and elements -/

/-- Elements that give the same for related seeds are collected to the same, position by position. -/
theorem collect_related {element element' : Nat → Finding → Except ε (Option Value)}
    {R : Finding → Finding → Prop} {k : Nat} (hk : k < indexLimit) {seeds seeds' : List Finding}
    (hseeds : List.Forall₂ R seeds seeds')
    (h : ∀ k seed seed', k < indexLimit → R seed seed' → element k seed = element' k seed') :
    collect element k seeds = collect element' k seeds' := by
  induction hseeds generalizing k with
  | nil => rfl
  | cons hseed _ ih =>
      have hnext : nextIndex k < indexLimit := Nat.mod_lt _ (by decide)
      unfold collect
      rw [h k _ _ hk hseed, ih hnext]

/-- What is collected depends on what the elements give at the positions there are. -/
theorem collect_congr {element element' : Nat → Finding → Except ε (Option Value)} {k : Nat}
    (hk : k < indexLimit) (h : ∀ k seed, k < indexLimit → element k seed = element' k seed)
    (seeds : List Finding) : collect element k seeds = collect element' k seeds :=
  collect_related hk (List.forall₂_same.mpr fun _ _ => rfl) fun k seed _ hk he => he ▸ h k seed hk

theorem nextIndex_add (k n : Nat) : (nextIndex k + n) % indexLimit = (k + (n + 1)) % indexLimit := by
  rw [nextIndex, Nat.mod_add_mod, Nat.add_assoc, Nat.add_comm 1 n]

/-- Collecting fails as the elements do, each at its position. -/
theorem collect_fails {P : ε → Prop} {element : Nat → Finding → Except ε (Option Value)} {k : Nat}
    (hk : k < indexLimit) {seeds : List Finding} (h : ∀ n seed, seeds[n]? = some seed →
      FailsOnly P (element ((k + n) % indexLimit) seed)) : FailsOnly P (collect element k seeds) := by
  induction seeds generalizing k with
  | nil => exact .ok []
  | cons seed seeds ih =>
      have hnext : nextIndex k < indexLimit := Nat.mod_lt _ (by decide)
      have hfirst := h 0 seed rfl
      rw [Nat.add_zero, Nat.mod_eq_of_lt hk] at hfirst
      have hrest := ih hnext fun n seed' hseed' => by
        rw [nextIndex_add]
        exact h (n + 1) seed' hseed'
      unfold collect
      exact hfirst.bind fun _ _ => hrest.bind fun _ _ => .ok _

/-- What is collected, every element gave at its position. -/
theorem exists_of_collect_eq_ok {element : Nat → Finding → Except ε (Option Value)} {k : Nat}
    (hk : k < indexLimit) {seeds : List Finding} {vs : List Value}
    (h : collect element k seeds = .ok vs) {n : Nat} {seed : Finding}
    (hseed : seeds[n]? = some seed) : ∃ v, element ((k + n) % indexLimit) seed = .ok v := by
  induction seeds generalizing k vs n with
  | nil => cases hseed
  | cons first seeds ih =>
      obtain ⟨v, hv, h⟩ := bind_eq_ok h
      obtain ⟨rest, hrest, _⟩ := bind_eq_ok h
      cases n with
      | zero =>
          cases hseed
          rw [Nat.add_zero, Nat.mod_eq_of_lt hk]
          exact ⟨v, hv⟩
      | succ n =>
          rw [← nextIndex_add]
          exact ih (Nat.mod_lt _ (by decide)) hrest hseed

end Recast.Transform
