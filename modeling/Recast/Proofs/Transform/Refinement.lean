import Recast.Proofs.Transform.Build
import Recast.Proofs.Transform.Tree
import Recast.Proofs.Transform.Within

/-!
# Walking is building

A walk writes into a tree through the paths of instances. What it leaves there is what `build` makes
of the slots at those paths, because the writes below an instance change nothing else that a later
write can reach.
-/

namespace Recast.Transform

open Input (Finding)
open Json (Fields Location Value)
open Recast.Path
open Schema (Descriptor Instance listFragment objectFragment scalarFragment)
open Recast.Tree (put reach)

variable {p : Place} {outer sels : List Selector} {indices : List Nat} {names : List String}
variable {segments : Location} {tree tree' tree'' : Value} {s s' : Slot}

/-! ## Slots of a tree -/

/-- The slot at the end of some steps. -/
def Slot.at (segments : Location) (tree : Value) : Slot :=
  match reach segments tree with
  | some v => .holds v
  | none => .closed

theorem Slot.at_null (segments : Location) : Slot.at segments .null = .empty := by
  simp [Slot.at, Tree.reach_null, Slot.empty]

theorem Slot.at_member (segments : Location) (name : String) (tree : Value) :
    Slot.at (segments ++ [.key name]) tree = (Slot.at segments tree).member name := by
  simp only [Slot.at, Tree.reach_append]
  cases reach segments tree with
  | none => rfl
  | some v => cases v <;> rfl

theorem Slot.at_put {v : Value} (h : put v segments tree = some tree') :
    Slot.at segments tree' = .holds v := by
  rw [Slot.at, Tree.reach_put h]

/-- A member put back where it was changes nothing. -/
theorem Slot.withMember_member (name : String) (s : Slot) :
    s.withMember name (s.member name) = s := by
  cases s with
  | closed => rfl
  | holds v =>
      cases v with
      | object fields =>
          cases hg : Fields.get? name fields with
          | none => simp [Slot.member, Slot.withMember, hg]
          | some u => cases u <;> simp [Slot.member, Slot.withMember, hg, Fields.put_eq_self hg]
      | _ => rfl

/-- What writing a member does to the value it is a member of. -/
theorem Slot.withMember_put {name : String} {u v w : Value} (hv : v ≠ .null)
    (h : put v [.key name] u = some w) :
    w ≠ .null ∧ (Slot.holds u).withMember name (.holds v) = .holds w := by
  cases u with
  | null =>
      cases h
      refine ⟨Value.noConfusion, ?_⟩
      cases v <;> first | rfl | contradiction
  | object fields =>
      cases h
      refine ⟨Value.noConfusion, ?_⟩
      cases v <;> first | rfl | contradiction
  | _ => cases h

/-! ## Writes -/

/-- The tree is the same, or a value was put at the end of the steps. -/
def Wrote (segments : Location) (tree tree' : Value) : Prop :=
  tree' = tree ∨ ∃ v, v ≠ .null ∧ put v segments tree = some tree'

theorem Wrote.trans (h : Wrote segments tree tree') (h' : Wrote segments tree' tree'') :
    Wrote segments tree tree'' := by
  rcases h with rfl | ⟨v, hv, hput⟩
  · exact h'
  · rcases h' with rfl | ⟨w, hw, hput'⟩
    · exact Or.inr ⟨v, hv, hput⟩
    · exact Or.inr ⟨w, hw, (Tree.put_put hput w) ▸ hput'⟩

/-- A write of a member is a write of the value it is a member of, and changes the slot of that
value as it changes its own. -/
theorem Wrote.member {name : String} (h : Wrote (segments ++ [.key name]) tree tree') :
    Wrote segments tree tree' ∧
      Slot.at segments tree' =
        (Slot.at segments tree).withMember name (Slot.at (segments ++ [.key name]) tree') := by
  rcases h with rfl | ⟨v, hv, hput⟩
  · refine ⟨Or.inl rfl, ?_⟩
    rw [Slot.at_member, Slot.withMember_member]
  · -- The value is put into what the member is one of, and that is put into the tree.
    have hput' := hput
    rw [Tree.put_append] at hput'
    simp only [Option.bind_eq_some_iff] at hput'
    obtain ⟨w, ⟨u, hu, hw⟩, hput'⟩ := hput'
    obtain ⟨hne, hs⟩ := Slot.withMember_put hv hw
    refine ⟨Or.inr ⟨w, hne, hput'⟩, ?_⟩
    rw [Slot.at_put hput', Slot.at_put hput, Slot.at, hu, hs]

/-! ## Agreement -/

/-- A walk from a tree agrees with a slot that was built: it wrote at the end of the steps, and the
slot is what stands there; or both failed with errors of one kind. -/
inductive Agrees (segments : Location) (tree : Value) :
    Except Error Value → Except Error.Kind Slot → Prop where
  | ok {tree' : Value} (h : Wrote segments tree tree') :
      Agrees segments tree (.ok tree') (.ok (Slot.at segments tree'))
  | error (e : Error) : Agrees segments tree (.error e) (.error e.kind)

theorem Agrees.bind {x : Except Error Value} {y : Except Error.Kind Slot}
    {f : Value → Except Error Value} {g : Slot → Except Error.Kind Slot}
    (h : Agrees segments tree x y)
    (hf : ∀ tree', Agrees segments tree' (f tree') (g (Slot.at segments tree'))) :
    Agrees segments tree (x >>= f) (y >>= g) := by
  cases h with
  | error e => exact .error e
  | ok hw =>
      rename_i tree'
      show Agrees segments tree (f tree') (g (Slot.at segments tree'))
      have h' := hf tree'
      generalize f tree' = a at h' ⊢
      generalize g (Slot.at segments tree') = b at h' ⊢
      cases h' with
      | error e => exact .error e
      | ok hw' => exact .ok (hw.trans hw')

theorem agrees_resolved {i : Instance} {f : Option Finding → Except Error Value}
    {g : Option Finding → Except Error.Kind Slot}
    (hf : ∀ found, Agrees segments tree (f found) (g found)) :
    Agrees segments tree (resolve p i >>= f) (resolved p i >>= g) := by
  unfold resolved
  cases resolve p i with
  | error e => exact .error e
  | ok found => exact hf found

/-- Writing at a path fills the slot there. -/
theorem writeAt_agrees {path : String} (h : Tree.segments path = .ok segments) {v : Option Value}
    (hv : v ≠ some .null) (tree : Value) :
    Agrees segments tree (writeAt path v tree) ((Slot.at segments tree).fill v) := by
  cases v with
  | none => exact .ok (Or.inl rfl)
  | some v =>
      have hsome := Tree.put_isSome v segments tree
      cases hput : put v segments tree with
      | some tree' =>
          have hfill : (Slot.at segments tree).fill (some v) = .ok (Slot.at segments tree') := by
            rw [hput] at hsome
            obtain ⟨u, hu⟩ := Option.isSome_iff_exists.mp hsome.symm
            rw [Slot.at_put hput, Slot.at, hu]
            rfl
          have hne : v ≠ .null := fun he => hv (congrArg some he)
          rw [hfill]
          simp only [writeAt, Tree.write, h, Tree.place_eq 0 hput]
          exact .ok (Or.inr ⟨v, hne, hput⟩)
      | none =>
          have hfill : (Slot.at segments tree).fill (some v) = .error .tree := by
            rw [hput] at hsome
            have hnone : reach segments tree = none := by simpa using hsome.symm
            rw [Slot.at, hnone]
            rfl
          obtain ⟨segment, depth, hb⟩ := Tree.place_blocked 0 hput
          rw [hfill]
          generalize hpl : Tree.place v 0 segments tree = placed at hb
          obtain ⟨tree', problem⟩ := placed
          cases hb
          simp only [writeAt, Tree.write, h, hpl]
          exact .error (Error.tree path (.blocked segment depth))

theorem valueOf_ne_null (found : Option Finding) : valueOf found ≠ some .null := by
  intro h
  simp only [valueOf, Option.bind_eq_some_iff] at h
  obtain ⟨v, _, hv⟩ := h
  cases v <;> cases hv

/-- What is taken from a tree is what the slot there holds. -/
theorem takeAt_eq {path : String} (h : Tree.segments path = .ok segments) (tree : Value) :
    takeAt path tree = .ok (Slot.at segments tree).value? := by
  simp only [takeAt, Tree.take, h]
  show Except.ok (Tree.valueAt? segments tree) = _
  rw [Tree.valueAt?_eq, Slot.at]
  cases reach segments tree <;> rfl

/-- Results that are collected agree if those of all elements do. -/
theorem collect_agrees {element : Nat → Finding → Except Error (Option Value)}
    {element' : Nat → Finding → Except Error.Kind (Option Value)}
    (h : ∀ i seed, i < indexLimit → (element i seed).mapError Error.kind = element' i seed)
    {i : Nat} (hi : i < indexLimit) (seeds : List Finding) :
    (collect element i seeds).mapError Error.kind = collect element' i seeds := by
  induction seeds generalizing i with
  | nil => rfl
  | cons seed seeds ih =>
      have hnext : nextIndex i < indexLimit := Nat.mod_lt _ (by decide)
      simp only [collect, mapError_bind, h i seed hi, ih hnext]
      rfl

/-- Writing the results of the elements fills the slot with them. -/
theorem writeAll_agrees {path : String} (hs : Tree.segments path = .ok segments)
    {x : Except Error (List Value)} {y : Except Error.Kind (List Value)}
    (h : x.mapError Error.kind = y) (tree : Value) :
    Agrees segments tree (x >>= fun vs => writeAt path (some (.array vs)) tree)
      (y >>= fun vs => (Slot.at segments tree).fill (some (.array vs))) := by
  subst h
  cases x with
  | error e => exact .error e
  | ok vs => exact writeAt_agrees hs (by simp) tree

/-- An element is walked in a tree of its own, and built in a slot of its own. -/
theorem Agrees.take {path : String} (hs : Tree.segments path = .ok segments)
    {x : Except Error Value} {y : Except Error.Kind Slot} (h : Agrees segments tree x y) :
    (x >>= takeAt path).mapError Error.kind = y >>= fun s => .ok s.value? := by
  cases h with
  | error e => rfl
  | @ok tree' hw =>
      show (takeAt path tree').mapError Error.kind = _
      rw [takeAt_eq hs]
      rfl

/-! ## Walks -/

theorem walkEach_agrees {ps : List Instance}
    (h : ∀ i ∈ ps, ∀ tree, Agrees (segments ++ [.key i.key]) tree (walk i p tree)
      (build i p (Slot.at (segments ++ [.key i.key]) tree))) (tree : Value) :
    Agrees segments tree (walkEach ps p tree) (buildEach ps p (Slot.at segments tree)) := by
  induction ps generalizing tree with
  | nil =>
      unfold walkEach buildEach
      exact .ok (Or.inl rfl)
  | cons i ps ih =>
      have hi := h i (by simp) tree
      have hps := ih fun j hj => h j (by simp [hj])
      unfold walkEach buildEach
      rw [← Slot.at_member]
      generalize walk i p tree = walked at hi ⊢
      generalize build i p (Slot.at (segments ++ [.key i.key]) tree) = built at hi ⊢
      cases hi with
      | error e => exact .error e
      | @ok tree' hw =>
          -- To the object around it, the write of a property is one write of the object.
          obtain ⟨hw', hs⟩ := hw.member
          have hok : Agrees segments tree (.ok tree') (.ok (Slot.at segments tree')) := .ok hw'
          rw [hs] at hok
          exact hok.bind (f := walkEach ps p) (g := buildEach ps p) hps

/-- Walking an instance agrees with building it in the slot at its place. -/
theorem walk_agrees {i : Instance} (hp : p.Within outer indices)
    (hi : i.Addressed (outer ++ members names)) (tree : Value) :
    Agrees (treeSteps (fill outer indices ++ members names)) tree (walk i p tree)
      (build i p (Slot.at (treeSteps (fill outer indices ++ members names)) tree)) := by
  revert tree
  refine Place.Within.induction ?scalar ?object ?array hp hi
  case scalar =>
    intro p outer indices names d k hp hd tree
    unfold walk build
    exact agrees_resolved fun found => writeAt_agrees (hp.segments_eq hd) (valueOf_ne_null found) tree
  case object =>
    intro p outer indices names d ps hp hd ih tree
    unfold walk build
    refine agrees_resolved fun found => ?_
    refine (writeAt_agrees (hp.segments_eq hd) (valueOf_ne_null found) tree).bind fun tree' => ?_
    refine walkEach_agrees (fun i hi tree => ?_) tree'
    have h := ih i hi tree
    rw [members_append, ← List.append_assoc, treeSteps_append] at h
    exact h
  case array =>
    intro p outer indices names d items hp hd ih tree
    unfold walk build
    refine agrees_resolved fun found => ?_
    cases found with
    | none => exact .ok (Or.inl rfl)
    | some base =>
        have helement : ∀ (k : Nat) (seed : Finding), k < indexLimit →
            let path := elementPath (p.concrete d.path) k
            (walk items (p.enter items.path path seed) .null >>= takeAt path).mapError Error.kind =
              build items (p.enter items.path path seed) .empty >>= fun s => .ok s.value? := by
          intro k seed hk
          -- No steps to properties are left inside the element.
          have h := ih k seed hk .null
          rw [Slot.at_null, append_members_nil] at h
          exact h.take (hp.segments_element hd hk)
        have hcollect := collect_agrees helement (by decide : 0 < indexLimit) base.seeds
        exact writeAll_agrees (hp.segments_eq hd) hcollect tree

/-! ## Documents -/

theorem Agrees.mapError_eq {x : Except Error Value} {y : Except Error.Kind Slot}
    (h : Agrees [] tree x y) : (x.mapError Error.kind).map Slot.holds = y := by
  cases h with
  | error e => rfl
  | ok hw => rfl

theorem walk_start_agrees {root : Instance} (h : root.Addressed []) (ruleSet : String)
    (document : Input.Document) :
    Agrees [] Tree.empty (walk root (.start ruleSet document) Tree.empty)
      (build root (.start ruleSet document) .empty) := by
  have hroot : root.Addressed ([] ++ members []) := h
  exact walk_agrees (.outside ruleSet document) hroot Tree.empty

/-- A run makes the document that the slot of the root holds. -/
theorem run_eq_build {root : Instance} (h : root.Addressed []) (ruleSet : String)
    (document : Input.Document) :
    (run root ruleSet document).mapError Error.kind =
      (build root (.start ruleSet document) .empty).map Slot.document := by
  rw [← (walk_start_agrees h ruleSet document).mapError_eq, run]
  cases walk root (.start ruleSet document) Tree.empty <;> rfl

/-- A walk of a schema from an empty tree leaves what is built in an empty slot, or both fail with
errors of one kind. -/
theorem walk_eq_build (schema : Value) {d : Descriptor} (h : Descriptor.read schema = .ok d)
    (ruleSet : String) (document : Input.Document) :
    ((walk d.root (.start ruleSet document) Tree.empty).mapError Error.kind).map Slot.holds =
      build d.root (.start ruleSet document) .empty :=
  (walk_start_agrees (Descriptor.root_addressed h) ruleSet document).mapError_eq

/-- A list of objects, where elements without a value are dropped. -/
theorem walk_eq_build_list :
    let schema : Value :=
      objectFragment [("rows", listFragment (objectFragment [("id", scalarFragment "integer")]))]
    let document : Input.Document := .json (.object [("rows", .array
      [.object [("id", .string "7")], .object [], .object [("id", .string "x")]])])
    ∃ d, Descriptor.read schema = .ok d ∧
      ((walk d.root (.start "main" document) Tree.empty).mapError Error.kind).map Slot.holds =
        .ok (.holds (.object [("rows", .array [.object [("id", .number (.integer 7))]])])) := by
  intro schema document
  refine ⟨_, rfl, (walk_eq_build schema rfl "main" document).trans ?_⟩
  decide +kernel

end Recast.Transform
