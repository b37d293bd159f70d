import Recast.Proofs.Transform.Elements
import Recast.Proofs.Transform.Resolve

/-!
# Walks side by side

Without rules, two walks write the same as long as what they look up is paired. A pairing says what
has to be kept for that: from an object to its properties, and from a list into its elements.
-/

namespace Recast.Transform

open Input (Context Finding)
open Json (Value)
open Recast.Path
open Schema (Declared Instance)

variable {p q : Place} {outer : List Selector} {indices : List Nat} {names : List String}
variable {i items : Instance} {d : Declared} {ps : List Instance} {c c' : Context}
variable {R : List String → Instance → Context → Context → Prop}
variable {S : Instance → Finding → Finding → Prop}

/-- Two contexts at an instance, `names` below what they look up in, and two seeds of elements of an
instance, are paired. -/
structure Pairing (R : List String → Instance → Context → Context → Prop)
    (S : Instance → Finding → Finding → Prop) : Prop where
  scalar {names : List String} {d : Declared} {k : Scalar} {c c' : Context}
    (h : R names (.scalar d k) c c') :
    ((nearest c (members names)).bind fun f => (f.coerce? k).map Finding.json) =
      (nearest c' (members names)).bind fun f => (f.coerce? k).map Finding.json
  property {names : List String} {d : Declared} {ps : List Instance} {i : Instance}
    {c c' : Context} (h : R names (.object d ps) c c') (hi : i ∈ ps)
    (hname : i.declared.name = some i.key) : R (names ++ [i.key]) i c c'
  array {names : List String} {d : Declared} {items : Instance} {c c' : Context}
    (h : R names (.array d items) c c') :
    Option.Rel (fun f f' => List.Forall₂ (S items) f.seeds f'.seeds) (nearest c (members names))
      (nearest c' (members names))
  default {names : List String} {d : Declared} {items : Instance} {c c' : Context}
    (h : R names (.array d items) c c') (v : Value) :
    List.Forall₂ (S items) (Finding.json v).seeds (Finding.json v).seeds
  narrow {items : Instance} {f f' : Finding} (h : S items f f') (c c' : Context) (path : String) :
    R [] items (c.narrow path f) (c'.narrow path f')

theorem walkEach_congr {ps : List Instance} (h : ∀ i ∈ ps, ∀ tree, walk i p tree = walk i q tree)
    (tree : Value) : walkEach ps p tree = walkEach ps q tree := by
  induction ps generalizing tree with
  | nil =>
      unfold walkEach
      rfl
  | cons i ps ih =>
      unfold walkEach
      rw [h i (by simp)]
      congr 1
      funext tree'
      exact ih (fun j hj => h j (by simp [hj])) tree'

theorem writeInstance_congr (h : ∀ path, p.concrete path = q.concrete path) (i : Instance)
    (found : Option Finding) (tree : Value) :
    writeInstance p i found tree = writeInstance q i found tree := by
  unfold writeInstance
  rw [h]

/-- Lists are resolved to findings with paired seeds. -/
theorem Pairing.resolve_array (hR : Pairing R S) (hp : p.Within outer indices)
    (hq : q.Within outer indices) (hset : p.ruleSet = q.ruleSet)
    (hi : (Instance.array d items).declared.At (outer ++ members names))
    (hrule : (Instance.array d items).rule? p.ruleSet = none)
    (h : R names (.array d items) p.input q.input) :
    ∃ o o', resolve p (.array d items) = .ok o ∧ resolve q (.array d items) = .ok o' ∧
      Option.Rel (fun f f' => List.Forall₂ (S items) f.seeds f'.seeds) o o' := by
  refine ⟨_, _, resolve_of_no_rule hp hi hrule, resolve_of_no_rule hq hi (hset ▸ hrule), ?_⟩
  refine optionRel_or (hR.array h) ?_
  cases hdefault : (Instance.array d items).declared.default with
  | none => exact .none
  | some v => exact .some (hR.default h v)

/-- An instance is walked the same where what it is looked up in is paired. -/
theorem Pairing.walk_eq (hR : Pairing R S) (hp : p.Within outer indices)
    (hq : q.Within outer indices) (hset : p.ruleSet = q.ruleSet)
    (hi : i.Addressed (outer ++ members names))
    (hfree : i.Everywhere fun j => j.rule? p.ruleSet = none) (h : R names i p.input q.input)
    (tree : Value) : walk i p tree = walk i q tree := by
  -- Both places are inside the same elements, so that everything is written to the same paths.
  induction i using Instance.induction generalizing p q outer indices names tree with
  | scalar d k =>
      have hcopied : copied p (.scalar d k) names = copied q (.scalar d k) names := hR.scalar h
      have hrule := hfree.self
      unfold walk
      dsimp only
      rw [resolve_of_no_rule hp hi.at hrule, resolve_of_no_rule hq hi.at (hset ▸ hrule), hcopied]
      exact writeInstance_congr (hp.concrete_congr hq) _ _ tree
  | object d ps ih =>
      have hrule := hfree.self
      have hcopied : copied p (.object d ps) names = copied q (.object d ps) names := rfl
      have hresolve : resolve p (.object d ps) = resolve q (.object d ps) := by
        rw [resolve_of_no_rule hp hi.at hrule, resolve_of_no_rule hq hi.at (hset ▸ hrule), hcopied]
      cases hi with
      | object hd name_eq below =>
          have hbelow : ∀ tree, walkEach ps p tree = walkEach ps q tree := by
            refine walkEach_congr fun i hi tree => ?_
            have hat := below i hi
            rw [List.append_assoc, ← members_append] at hat
            exact ih i hi hp hq hset hat (hfree.property hi)
              (hR.property h hi (name_eq i hi)) tree
          unfold walk
          dsimp only
          rw [hresolve]
          congr 1
          funext found
          rw [writeInstance_congr (hp.concrete_congr hq)]
          congr 1
          funext tree'
          exact hbelow tree'
  | array d items ih =>
      obtain ⟨o, o', hresolve, hresolve', hseeds⟩ := hR.resolve_array hp hq hset hi.at hfree.self h
      cases hi with
      | array hd below =>
          have helement : ∀ (k : Nat) (seed seed' : Finding), k < indexLimit → S items seed seed' →
              walk items (p.enter items.path (elementPath (p.concrete d.path) k) seed) Tree.empty =
                walk items (q.enter items.path (elementPath (p.concrete d.path) k) seed') Tree.empty := by
            intro k seed seed' hk hseed
            have hin := hp.enter_items hd below.at seed hk
            have hin' := hq.enter_items hd below.at seed' hk
            have hat : items.Addressed (outer ++ members names ++ [.wildcard] ++ members []) := by
              rwa [append_members_nil]
            rw [← hp.concrete_congr hq] at hin'
            exact ih hin hin' hset hat hfree.items (hR.narrow hseed p.input q.input _) Tree.empty
          unfold walk
          dsimp only
          rw [hresolve, hresolve', ← hp.concrete_congr hq]
          cases hseeds with
          | none => rfl
          | @some base base' hseeds =>
              show (collect _ 0 base.seeds >>= fun vs => _) = collect _ 0 base'.seeds >>= fun vs => _
              rw [collect_related (by decide) hseeds fun k seed seed' hk hseed => ?_]
              rw [helement k seed seed' hk hseed]

theorem Pairing.run_eq (hR : Pairing R S) {root : Instance} (hroot : root.Addressed [])
    {ruleSet : String} (hfree : root.Everywhere fun j => j.rule? ruleSet = none)
    {document document' : Input.Document}
    (h : R [] root (.ofDocument document) (.ofDocument document')) :
    run root ruleSet document = run root ruleSet document' := by
  have hi : root.Addressed ([] ++ members []) := hroot
  unfold run
  rw [hR.walk_eq (.outside ruleSet document) (.outside ruleSet document') rfl hi hfree h Tree.empty]

end Recast.Transform
