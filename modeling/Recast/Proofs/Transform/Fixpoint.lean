import Recast.Proofs.Transform.Shape

/-!
# Transforming twice

A value that settled is read back as it was written: scalars are coerced to themselves, no element
of a list is dropped, and what is absent stays absent. So a transform without rules does not change
what it made.
-/

namespace Recast

open Input (Context Document Finding)
open Json (Value Fields)
open Recast.Path
open Schema (Declared Descriptor Instance extended listFragment objectFragment scalarFragment)

variable {p : Place} {outer : List Selector} {indices : List Nat} {names : List String}
variable {fields : Fields} {i root : Instance} {d : Declared}
variable {ps : List Instance} {o : Option Value} {v base : Value} {vs : List Value} {c : Context}

/-- No scalar is a moment. -/
def Schema.Instance.NoMoments (i : Instance) : Prop :=
  i.Everywhere fun j => j.kind ≠ .scalar .moment

instance (i : Instance) : Decidable i.NoMoments := inferInstanceAs (Decidable (i.Everywhere _))

namespace Transform

/-! ## Reading values back -/

theorem Settled.ne_null (h : Settled i (some v)) : v ≠ .null := by
  generalize ho : some v = o at h
  cases h with
  | scalar h =>
      cases ho
      exact Coercion.ne_null_of_holds h
  | object h =>
      rename_i fields
      cases fields <;> cases ho
      exact Value.noConfusion
  | array h =>
      cases ho
      exact Value.noConfusion
  | noScalar h => cases ho
  | noArray h => cases ho

/-- Where a value settled, it is found. -/
theorem nearest_settled (hc : HasBase c base) (h : Settled i o) (ho : follow names base = o) :
    nearest c (members names) = o.map .json := by
  rw [hc, inValue_members, ho]
  cases o with
  | none => rfl
  | some v =>
      have hv := h.ne_null
      cases v <;> first | rfl | contradiction

/-- The slot that holds a value, if there is one. -/
def Slot.ofOption (o : Option Value) : Slot := .holds (o.getD .null)

theorem value?_ofOption (h : Settled i o) : (Slot.ofOption o).value? = o := by
  cases o with
  | none => rfl
  | some v => exact present_eq h.ne_null

theorem record_eq_ofOption (fields : Fields) : Slot.record fields = Slot.ofOption (objectOf fields) := by
  cases fields <;> rfl

theorem field?_objectOf (name : String) (fields : Fields) :
    ((objectOf fields).bind fun v => v.field? name) = Fields.get? name fields := by
  cases fields <;> rfl

/-! ## Building again -/

theorem buildMembers_settled (hps : SettledEach ps fields) (hn : (ps.map Instance.key).Nodup)
    (h : ∀ i ∈ ps, build i p .empty = .ok (.ofOption (Fields.get? i.key fields))) :
    buildMembers p ps = .ok fields := by
  induction ps generalizing fields with
  | nil =>
      cases hps
      rfl
  | cons i ps ih =>
      have hkeys := hps.keys_sublist
      have hi := h i (by simp)
      rw [List.map_cons, List.nodup_cons] at hn
      cases hps with
      | cons hset hps =>
          rename_i o fields
          have hnew : i.key ∉ Fields.keys fields := fun hm => hn.1 (hps.keys_sublist.subset hm)
          have hrest : buildMembers p ps = .ok fields := by
            refine ih hps hn.2 fun j hj => ?_
            have hne : j.key ≠ i.key := fun he => hn.1 (List.mem_map.mpr ⟨j, hj, he⟩)
            have hj := h j (by simp [hj])
            rwa [Fields.get?_ofOption_of_ne hne] at hj
          rw [Fields.get?_ofOption_self hnew] at hi
          unfold buildMembers
          rw [hi, hrest]
          show Except.ok (Fields.ofOption i.key (Slot.ofOption o).value? ++ fields) = _
          rw [value?_ofOption hset]

theorem build_object_settled (hr : resolved p (.object d ps) = .ok none)
    (hps : SettledEach ps fields) (hn : (ps.map Instance.key).Nodup)
    (h : ∀ i ∈ ps, build i p .empty = .ok (.ofOption (Fields.get? i.key fields))) :
    build (.object d ps) p .empty = .ok (.record fields) := by
  have hopen : ∀ i ∈ ps, ∀ s, build i p .empty = .ok s → s.IsOpen := by
    intro i hi s hs
    rw [h i hi] at hs
    cases hs
    exact ⟨_, rfl⟩
  rw [build_object hr hopen hn, buildMembers_settled hps hn h]
  rfl

/-- Collecting elements that are built as they are gives the list again. -/
theorem collect_settled {element : Nat → Finding → Except Error.Kind (Option Value)} {k : Nat}
    (hk : k < indexLimit)
    (h : ∀ k v, k < indexLimit → v ∈ vs → element k (.json v) = .ok (some v)) :
    collect element k (vs.map .json) = .ok vs := by
  induction vs generalizing k with
  | nil => rfl
  | cons v vs ih =>
      have hrest := ih (Nat.mod_lt (k + 1) (by decide)) fun k w hk hw => h k w hk (by simp [hw])
      rw [List.map_cons, collect, h k v hk (by simp)]
      show (do .ok ([v] ++ (← collect element (nextIndex k) (vs.map .json)))) = _
      rw [nextIndex, hrest]
      rfl

/-- What settled is built again from itself. -/
theorem build_again (hp : p.Within outer indices) (hi : i.Addressed (outer ++ members names))
    (hfree : i.RuleFree p.ruleSet) (hn : i.DistinctNames) (hm : i.NoMoments) (base : Value)
    (o : Option Value) (hbase : HasBase p.input base) (hset : Settled i o)
    (ho : follow names base = o) : build i p .empty = .ok (.ofOption o) := by
  revert hfree hn hm base o
  refine Place.Within.induction ?scalar ?object ?array hp hi
  case scalar =>
    intro p outer indices names d k hp hd hfree hn hm base o hbase hset ho
    have hr : resolved p (.scalar d k) = .ok _ := resolved_ruleFree hp hd hfree
    have hnear := nearest_settled hbase hset ho
    have hk : k ≠ .moment := fun he => hm.self (he ▸ rfl)
    unfold build
    rw [hr, copied, Instance.kind]
    dsimp only
    rw [hnear]
    cases hset with
    | scalar h =>
        rename_i v
        have hv : v.present = some v := present_eq (Coercion.ne_null_of_holds h)
        have hc : (Finding.json v).coerce? k = some v := Coercion.coerce?_of_holds hk h
        simp only [Option.map_some, Option.bind_some, hc]
        show Slot.empty.fill v.present = _
        rw [hv]
        rfl
    | noScalar h =>
        have hd : (Instance.scalar d k).declared.default = none := h
        rw [hd]
        rfl
  case object =>
    intro p outer indices names d ps hp hd ih hfree hn hm base o hbase hset ho
    have hnames : (ps.map Instance.key).Nodup := hn.self
    cases hset with
    | object hps =>
        rename_i fields
        rw [← record_eq_ofOption]
        refine build_object_settled (resolved_bare hp hd hfree.bareObjects) hps hnames fun i hi => ?_
        refine ih i hi (hfree.property hi) (hn.property hi) (hm.property hi) base _ hbase
          (hps.settled hnames hi) ?_
        rw [follow_append, ho, field?_objectOf]
  case array =>
    intro p outer indices names d items hp hd ih hfree hn hm base o hbase hset ho
    have hr : resolved p (.array d items) = .ok _ := resolved_ruleFree hp hd hfree
    have hnear := nearest_settled hbase hset ho
    unfold build
    rw [hr, copied, Instance.kind]
    dsimp only
    rw [hnear]
    cases hset with
    | noArray h =>
        have hd : (Instance.array d items).declared.default = none := h
        rw [hd]
        rfl
    | array h =>
        rename_i vs
        have hcollect : collect (fun k seed => do
            let path := elementPath (p.concrete d.path) k
            .ok (← build items (p.enter items.path path seed) .empty).value?) 0
              (vs.map .json) = .ok vs := by
          -- No element is dropped, and inside of one its own value is what is looked up.
          refine collect_settled (by decide) fun k v hk hv => ?_
          have helement := ih k (.json v) hk hfree.items hn.items hm.items v (some v)
            (fun _ => rfl) (h v hv) rfl
          dsimp only
          rw [helement]
          exact congrArg Except.ok (value?_ofOption (h v hv))
        show (collect _ 0 (vs.map .json) >>= fun vs => Slot.empty.fill (some (.array vs))) = _
        rw [hcollect]
        rfl

theorem run_again {ruleSet : String} (haddr : (Instance.object d ps).Addressed [])
    (hfree : (Instance.object d ps).RuleFree ruleSet) (hn : (Instance.object d ps).DistinctNames)
    (hm : (Instance.object d ps).NoMoments) (hps : SettledEach ps fields) :
    run (.object d ps) ruleSet (.json (.object fields)) = .ok (.object fields) := by
  have hp := Place.Within.outside ruleSet (.json (.object fields))
  have hnames : (ps.map Instance.key).Nodup := hn.self
  -- An empty document is an object at the root only, so the root is built from its properties.
  have hbuild : build (.object d ps) (.start ruleSet (.json (.object fields))) .empty =
      .ok (.record fields) := by
    cases haddr with
    | object hd name_eq below =>
        have hd' : d.At ([] ++ members []) := hd
        have hr := resolved_bare hp hd' hfree.bareObjects
        refine build_object_settled hr hps hnames fun i hi => ?_
        have hi' : i.Addressed ([] ++ members [i.key]) := below i hi
        exact build_again hp hi' (hfree.property hi) (hn.property hi) (hm.property hi)
          (.object fields) _ (fun _ => rfl) (hps.settled hnames hi) (by simp [follow, Value.field?])
  have hrun := run_eq_build haddr ruleSet (.json (.object fields))
  rw [hbuild] at hrun
  have hdoc : (Slot.record fields).document = .object fields := by cases fields <;> rfl
  cases hx : run (.object d ps) ruleSet (.json (.object fields)) with
  | error e =>
      rw [hx] at hrun
      cases hrun
  | ok v =>
      rw [hx] at hrun
      rw [← hdoc]
      exact congrArg Except.ok (Except.ok.inj hrun)

end Transform

namespace Transformer

variable {t : Transformer} {document : Document}

/-- A transform without rules, moments and defaults of objects does not change what it made. -/
theorem transform_idempotent (schema : Value) (hk : schema.hasDistinctKeys = true)
    (hread : Descriptor.read schema = .ok t.descriptor)
    (hroot : t.descriptor.root.kind = .object) (hfree : t.descriptor.root.RuleFree t.ruleSet)
    (hm : t.descriptor.root.NoMoments) (document : Document)
    (h : t.transformDocument document = .ok v) : t.transformValue v = .ok v := by
  have hn := Descriptor.root_distinctNames hk hread
  have haddr := Descriptor.root_addressed hread
  obtain ⟨hrun, hgate⟩ := transformDocument_eq_ok_iff.mp h
  obtain ⟨d, ps, fields, hobj, hps, rfl⟩ := Transform.run_settled haddr hfree hn hroot hrun
  refine transformDocument_eq_ok_iff.mpr ⟨?_, hgate⟩
  rw [hobj] at haddr hfree hn hm ⊢
  exact Transform.run_again haddr hfree hn hm hps

/-- Lists of lists, where elements were dropped and a single value was taken for a list. -/
theorem transform_idempotent_lists :
    let schema : Value := objectFragment
      [("grid", listFragment (listFragment (scalarFragment "boolean"))),
       ("label", extended [("default", .string "none")] (scalarFragment "string"))]
    let document : Document := .json (.object
      [("grid", .array [.array [.string "yes", .string "1"], .null, .bool false])])
    let v : Value := .object [("grid", .array [.array [.bool true], .array [.bool false]]),
      ("label", .string "none")]
    ∃ t : Transformer, Descriptor.read schema = .ok t.descriptor ∧
      t.transformDocument document = .ok v ∧ t.transformValue v = .ok v := by
  intro schema document v
  refine ⟨⟨_, "main", none, .acceptAll⟩, rfl, ?_⟩
  refine ⟨toOption_eq_some_iff.mp ?run, transform_idempotent schema ?keys rfl rfl ?free ?moments
    document (toOption_eq_some_iff.mp ?run)⟩
  all_goals decide +kernel

end Transformer

end Recast
