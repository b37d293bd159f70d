import Recast.Proofs.Coercion
import Recast.Proofs.Path.Select
import Recast.Proofs.Transform.Bare
import Recast.Transform.Transformer

/-!
# The shape of documents

Without rules, an instance has what its scalars are coerced to and what its defaults say. So a
document conforms to the tree of instances: an object has some of the declared members, in order, a
list has elements that conform to its items, and a scalar is a value of its kind.
-/

namespace Recast

open Input (Document Finding)
open Json (Value Fields)
open Recast.Path
open Schema (Declared Descriptor Instance extended listFragment objectFragment scalarFragment)

variable {p : Place} {outer : List Selector} {indices : List Nat} {names : List String}
variable {ruleSet : String} {fields : Fields} {i inner root : Instance} {d : Declared}
variable {ps : List Instance} {o : Option Value} {v : Value} {vs : List Value}

namespace Schema.Instance

/-- The instance has no rule. An object has no default either, and the default of a scalar is
coerced to itself. -/
def IsPlain (ruleSet : String) (i : Instance) : Prop :=
  i.rule? ruleSet = none ∧ (i.kind = .object → i.declared.default = none) ∧
    ∀ k ∈ i.kind.scalar?, ∀ v ∈ i.declared.default, k.coerce? v = some v

instance (ruleSet : String) (i : Instance) : Decidable (i.IsPlain ruleSet) :=
  inferInstanceAs (Decidable (_ ∧ _ ∧ _))

/-- The instance and everything below it have no rules. -/
def RuleFree (ruleSet : String) (i : Instance) : Prop := i.Everywhere (IsPlain ruleSet)

instance (ruleSet : String) (i : Instance) : Decidable (i.RuleFree ruleSet) :=
  inferInstanceAs (Decidable (i.Everywhere _))

theorem RuleFree.bareObjects (h : i.RuleFree ruleSet) : i.BareObjects ruleSet :=
  fun j hj hk => ⟨(h j hj).1, (h j hj).2.1 hk⟩

end Schema.Instance

namespace Transform

/-! ## Conforming values -/

/-- The value conforms to the instance. -/
inductive Conforms : Instance → Value → Prop where
  | scalar {d : Declared} {k : Scalar} {v : Value} (h : k.Holds v) : Conforms (.scalar d k) v
  | object {d : Declared} {ps : List Instance} {fields : Fields}
      (keys : (Fields.keys fields).Sublist (ps.map Instance.key))
      (members : ∀ i ∈ ps, ∀ v, (i.key, v) ∈ fields → Conforms i v) :
      Conforms (.object d ps) (.object fields)
  | array {d : Declared} {items : Instance} {vs : List Value}
      (elements : ∀ v ∈ vs, Conforms items v) : Conforms (.array d items) (.array vs)

theorem Conforms.ne_null (h : Conforms i v) : v ≠ .null := by
  cases h with
  | scalar h => exact Coercion.ne_null_of_holds h
  | object => exact Value.noConfusion
  | array => exact Value.noConfusion

theorem descendants_of_holds {k : Scalar} (h : k.Holds v) : descendants v = [v] := by
  cases k <;> cases v <;> first | rfl | contradiction

/-- A value that conforms has no null in it. -/
theorem Conforms.no_null (h : Conforms i v) : ∀ w ∈ descendants v, w ≠ .null := by
  intro w hw
  have hself := h.ne_null
  induction i using Instance.induction generalizing v with
  | scalar d k =>
      cases h with
      | scalar h =>
          rw [descendants_of_holds h] at hw
          cases List.mem_singleton.mp hw
          exact hself
  | object d ps ih =>
      cases h with
      | object keys members =>
          rename_i fields
          rw [descendants] at hw
          rcases List.mem_cons.mp hw with rfl | hw
          · exact hself
          · obtain ⟨⟨name, u⟩, hfield, hw⟩ := mem_fieldDescendants.mp hw
            have hname : name ∈ ps.map Instance.key :=
              keys.subset (List.mem_map.mpr ⟨_, hfield, rfl⟩)
            obtain ⟨i, hi, rfl⟩ := List.mem_map.mp hname
            have hu := members i hi u hfield
            exact ih i hi hu hw hu.ne_null
  | array d items ih =>
      cases h with
      | array elements =>
          rw [descendants] at hw
          rcases List.mem_cons.mp hw with rfl | hw
          · exact hself
          · obtain ⟨u, hu, hw⟩ := mem_itemDescendants.mp hw
            exact ih (elements u hu) hw (elements u hu).ne_null

/-! ## Settled values -/

/-- The value of an object of some members, if there are any. -/
def objectOf : Fields → Option Value
  | [] => none
  | member :: members => some (.object (member :: members))

mutual

/-- The value, or its absence, is what an instance without rules leaves in an empty slot: a scalar
and a list are absent only without a default, and an object without members is absent. -/
inductive Settled : Instance → Option Value → Prop where
  | scalar {d : Declared} {k : Scalar} {v : Value} (h : k.Holds v) : Settled (.scalar d k) (some v)
  | noScalar {d : Declared} {k : Scalar} (h : d.default = none) : Settled (.scalar d k) none
  | object {d : Declared} {ps : List Instance} {fields : Fields} (h : SettledEach ps fields) :
      Settled (.object d ps) (objectOf fields)
  | array {d : Declared} {items : Instance} {vs : List Value}
      (h : ∀ v ∈ vs, Settled items (some v)) : Settled (.array d items) (some (.array vs))
  | noArray {d : Declared} {items : Instance} (h : d.default = none) :
      Settled (.array d items) none

/-- The members are those that properties leave, in order. -/
inductive SettledEach : List Instance → Fields → Prop where
  | nil : SettledEach [] []
  | cons {i : Instance} {ps : List Instance} {o : Option Value} {fields : Fields}
      (h : Settled i o) (hps : SettledEach ps fields) :
      SettledEach (i :: ps) (Fields.ofOption i.key o ++ fields)

end

theorem SettledEach.keys_sublist (h : SettledEach ps fields) :
    (Fields.keys fields).Sublist (ps.map Instance.key) := by
  induction ps generalizing fields with
  | nil =>
      cases h
      exact .slnil
  | cons i ps ih =>
      cases h with
      | cons hi hps =>
          rename_i o fields
          cases o with
          | none => exact (ih hps).cons i.key
          | some v => exact (ih hps).cons_cons i.key

/-- Every property leaves the member of its name. -/
theorem SettledEach.settled (h : SettledEach ps fields) (hn : (ps.map Instance.key).Nodup)
    (hi : i ∈ ps) : Settled i (Fields.get? i.key fields) := by
  induction ps generalizing fields with
  | nil => cases hi
  | cons j ps ih =>
      rw [List.map_cons, List.nodup_cons] at hn
      cases h with
      | cons hj hps =>
          rcases List.mem_cons.mp hi with rfl | hi
          · rw [Fields.get?_ofOption_self fun hmem => hn.1 (hps.keys_sublist.subset hmem)]
            exact hj
          · have hne : i.key ≠ j.key := fun he => hn.1 (List.mem_map.mpr ⟨i, hi, he⟩)
            rw [Fields.get?_ofOption_of_ne hne]
            exact ih hps hn.2 hi

theorem SettledEach.conforms (h : SettledEach ps fields) (hn : (ps.map Instance.key).Nodup)
    (ih : ∀ i ∈ ps, ∀ v, Settled i (some v) → Conforms i v) :
    Conforms (.object d ps) (.object fields) := by
  refine .object h.keys_sublist fun i hi v hv => ih i hi v ?_
  rw [← Fields.get?_of_mem (h.keys_sublist.nodup hn) hv]
  exact h.settled hn hi

/-- A value that settled conforms to its instance. -/
theorem Settled.conforms (h : Settled i (some v)) (hn : i.DistinctNames) : Conforms i v := by
  induction i using Instance.induction generalizing v with
  | scalar d k =>
      cases h with
      | scalar h => exact .scalar h
  | object d ps ih =>
      generalize ho : some v = o at h
      cases h with
      | object h =>
          rename_i fields
          cases fields with
          | nil => cases ho
          | cons member members =>
              cases ho
              exact h.conforms (hn.self) fun i hi v hv =>
                ih i hi hv (hn.property hi)
  | array d items ih =>
      cases h with
      | array h => exact .array fun v hv => ih (h v hv) hn.items

/-! ## Building -/

/-- The value that an instance without rules resolves to. -/
theorem resolved_ruleFree (hp : p.Within outer indices)
    (hd : i.declared.At (outer ++ members names)) (h : i.RuleFree p.ruleSet) :
    resolved p i = .ok (copied p i names <|> i.declared.default.map .json) :=
  resolved_of_no_rule hp hd h.self.1

theorem present_eq (hv : v ≠ .null) : v.present = some v := by
  cases v <;> first | rfl | contradiction

/-- A scalar without rules settles on what is coerced to its kind, or on its default. -/
theorem settled_scalar {k : Scalar} (h : (Instance.scalar d k).RuleFree ruleSet) :
    Settled (.scalar d k)
      (valueOf (copied p (.scalar d k) names <|> d.default.map .json)) := by
  have hsome : ∀ w, k.Holds w → Settled (.scalar d k) (valueOf (some (.json w))) := by
    intro w hw
    have hv : valueOf (some (.json w)) = some w := present_eq (Coercion.ne_null_of_holds hw)
    rw [hv]
    exact .scalar hw
  cases hc : copied p (.scalar d k) names with
  | some found =>
      simp only [copied, Instance.kind, Option.bind_eq_some_iff, Option.map_eq_some_iff] at hc
      obtain ⟨seed, _, w, hw, rfl⟩ := hc
      exact hsome w (Coercion.holds_of_finding hw)
  | none =>
      cases hd : d.default with
      | some w => exact hsome w (Coercion.holds_of_coerce? (h.self.2.2 k rfl w hd))
      | none => exact .noScalar hd

theorem settled_fill {found : Option Finding} {s : Slot} (h : Settled i (valueOf found))
    (hs : Slot.empty.fill (valueOf found) = .ok s) : s.IsOpen ∧ Settled i s.value? := by
  have hne := valueOf_ne_null found
  generalize valueOf found = o at h hs hne
  cases o with
  | none =>
      cases hs
      exact ⟨⟨_, rfl⟩, h⟩
  | some w =>
      cases hs
      refine ⟨⟨_, rfl⟩, ?_⟩
      have hv : (Slot.holds w).value? = some w := present_eq fun hw => hne (congrArg some hw)
      rw [hv]
      exact h

/-- Collected values are those of elements. -/
theorem mem_of_collect {element : Nat → Finding → Except Error.Kind (Option Value)} {k : Nat}
    (hk : k < indexLimit) {seeds : List Finding} (h : collect element k seeds = .ok vs)
    (hv : v ∈ vs) : ∃ k seed, k < indexLimit ∧ element k seed = .ok (some v) := by
  induction seeds generalizing k vs with
  | nil =>
      cases h
      cases hv
  | cons seed seeds ih =>
      unfold collect at h
      obtain ⟨o, ho, h⟩ := bind_eq_ok h
      obtain ⟨ws, hws, h⟩ := bind_eq_ok h
      cases h
      rcases List.mem_append.mp hv with hv | hv
      · cases o with
        | none => cases hv
        | some w =>
            cases List.mem_singleton.mp hv
            exact ⟨k, seed, hk, ho⟩
      · exact ih (Nat.mod_lt _ (by decide)) hws hv

theorem settledEach_of_buildMembers
    (h : ∀ i ∈ ps, ∀ s, build i p .empty = .ok s → Settled i s.value?)
    (hm : buildMembers p ps = .ok fields) : SettledEach ps fields := by
  induction ps generalizing fields with
  | nil =>
      cases hm
      exact .nil
  | cons i ps ih =>
      unfold buildMembers at hm
      obtain ⟨s, hs, hm⟩ := bind_eq_ok hm
      obtain ⟨more, hmore, hm⟩ := bind_eq_ok hm
      cases hm
      exact .cons (h i (by simp) s hs) (ih (fun j hj => h j (by simp [hj])) hmore)

theorem isOpen_settled_record (h : SettledEach ps fields) :
    (Slot.record fields).IsOpen ∧ Settled (.object d ps) (Slot.record fields).value? := by
  refine ⟨Slot.isOpen_record fields, ?_⟩
  have hv : (Slot.record fields).value? = objectOf fields := by cases fields <;> rfl
  rw [hv]
  exact .object h

/-- What resolves to nothing has no default. -/
theorem default_eq_none_of_or {found : Option Finding}
    (h : (found <|> o.map Finding.json) = none) : o = none := by
  cases found with
  | some found => cases h
  | none =>
      cases o with
      | none => rfl
      | some v => cases h

/-- Without rules, an instance that is built in an empty slot settles. -/
theorem build_settled (hp : p.Within outer indices) (hi : i.Addressed (outer ++ members names))
    (hfree : i.RuleFree p.ruleSet) (hn : i.DistinctNames) {s : Slot}
    (hs : build i p .empty = .ok s) : s.IsOpen ∧ Settled i s.value? := by
  revert hfree hn s
  refine Place.Within.induction ?scalar ?object ?array hp hi
  case scalar =>
    intro p outer indices names d k hp hd hfree hn s hs
    have hr : resolved p (.scalar d k) = .ok _ := resolved_ruleFree hp hd hfree
    unfold build at hs
    rw [hr] at hs
    exact settled_fill (settled_scalar hfree) hs
  case object =>
    intro p outer indices names d ps hp hd ih hfree hn s hs
    have hall := fun i hi s hs => ih i hi (hfree.property hi) (hn.property hi) (s := s) hs
    have hnames : (ps.map Instance.key).Nodup := hn.self
    have hbuild := build_object (resolved_bare hp hd hfree.bareObjects)
      (fun i hi s hs => (hall i hi s hs).1) hnames
    rw [hbuild] at hs
    cases hm : buildMembers p ps <;> rw [hm] at hs <;> cases hs
    exact isOpen_settled_record (settledEach_of_buildMembers (fun i hi s hs => (hall i hi s hs).2) hm)
  case array =>
    intro p outer indices names d items hp hd ih hfree hn s hs
    have hr : resolved p (.array d items) = .ok _ := resolved_ruleFree hp hd hfree
    unfold build at hs
    rw [hr] at hs
    generalize hb : (copied p (.array d items) names <|> _) = base at hs
    cases base with
    | none =>
        cases hs
        exact ⟨⟨_, rfl⟩, .noArray (default_eq_none_of_or hb)⟩
    | some base =>
        -- Whatever the seeds are, also those of a default: an element is built in an empty slot.
        obtain ⟨vs, hvs, hs⟩ := bind_eq_ok (x := collect _ 0 base.seeds) hs
        cases hs
        refine ⟨⟨_, rfl⟩, .array fun v hv => ?_⟩
        obtain ⟨k, seed, hk, helement⟩ := mem_of_collect (by decide) hvs hv
        obtain ⟨s, hs, hsv⟩ := bind_eq_ok helement
        have h := (ih k seed hk hfree.items hn.items hs).2
        rw [Except.ok.inj hsv] at h
        exact h

/-! ## Documents -/

/-- The document of a slot that an object settled in has its members. -/
theorem document_settled {s : Slot} (hs : s.IsOpen) (h : Settled (.object d ps) s.value?) :
    ∃ fields, SettledEach ps fields ∧ s.document = .object fields := by
  obtain ⟨v, rfl⟩ := hs
  generalize ho : (Slot.holds v).value? = o at h
  cases h with
  | object h =>
      rename_i fields
      refine ⟨fields, h, ?_⟩
      cases fields with
      | nil =>
          cases v <;> first | rfl | cases ho
      | cons member members =>
          cases v <;> cases ho
          rfl

/-- What is made of an object without rules are the members that its properties leave. -/
theorem run_settled (haddr : root.Addressed []) (hfree : root.RuleFree ruleSet)
    (hn : root.DistinctNames) (hroot : root.kind = .object) {document : Document}
    (h : run root ruleSet document = .ok v) :
    ∃ d ps fields, root = .object d ps ∧ SettledEach ps fields ∧ v = .object fields := by
  have hrun := run_eq_build haddr ruleSet document
  rw [h] at hrun
  cases hb : build root (.start ruleSet document) .empty with
  | error e =>
      rw [hb] at hrun
      cases hrun
  | ok s =>
      rw [hb] at hrun
      have haddr' : root.Addressed ([] ++ members []) := haddr
      obtain ⟨hopen, hset⟩ := build_settled (.outside ruleSet document) haddr' hfree hn hb
      cases root with
      | object d ps =>
          obtain ⟨fields, hps, hdoc⟩ := document_settled hopen hset
          exact ⟨d, ps, fields, rfl, hps, (Except.ok.inj hrun).trans hdoc⟩
      | scalar d k => cases hroot
      | array d items => cases hroot

end Transform

/-! ## Transforms without rules -/

namespace Transformer

variable {t : Transformer} {document : Document}

/-- What is handed out was made by a run and passed the gate. -/
theorem transformDocument_eq_ok_iff : t.transformDocument document = .ok v ↔
    Transform.run t.descriptor.root t.ruleSet document = .ok v ∧ t.gate.judge v = .accepted := by
  constructor
  · intro h
    obtain ⟨output, hrun, h⟩ := bind_eq_ok h
    cases hg : t.gate.judge output <;> rw [hg] at h <;> cases h
    exact ⟨hrun, hg⟩
  · rintro ⟨hrun, hg⟩
    unfold transformDocument
    rw [hrun]
    dsimp only [bind, Except.bind]
    rw [hg]

/-- Without rules and defaults of objects, a transformed document conforms to the schema, and no
null is in it. -/
theorem transform_conforms (schema : Value) (hk : schema.hasDistinctKeys = true)
    (hread : Descriptor.read schema = .ok t.descriptor)
    (hroot : t.descriptor.root.kind = .object) (hfree : t.descriptor.root.RuleFree t.ruleSet)
    (document : Document) (h : t.transformDocument document = .ok v) :
    Transform.Conforms t.descriptor.root v ∧ ∀ w ∈ descendants v, w ≠ .null := by
  have hn := Descriptor.root_distinctNames hk hread
  have haddr := Descriptor.root_addressed hread
  obtain ⟨d, ps, fields, hobj, hps, rfl⟩ :=
    Transform.run_settled haddr hfree hn hroot (transformDocument_eq_ok_iff.mp h).1
  rw [hobj] at hn ⊢
  have hconf : Transform.Conforms (.object d ps) (.object fields) :=
    hps.conforms (hn.self) fun i hi v hv => hv.conforms (hn.property hi)
  exact ⟨hconf, hconf.no_null⟩

/-- Texts become numbers, and what is no number, not declared or null is left out. -/
theorem transform_conforms_list :
    let schema : Value := objectFragment
      [("rows", listFragment (scalarFragment "integer")),
       ("note", objectFragment [("text", scalarFragment "string")]),
       ("size", extended [("default", .number (.integer 3))] (scalarFragment "number"))]
    let document : Document := .json (.object [("other", .bool true), ("size", .null),
      ("rows", .array [.string "7", .null, .object [], .number (.integer 1)])])
    let v : Value := .object [("rows", .array [.number (.integer 7), .number (.integer 1)]),
      ("size", .number (.integer 3))]
    ∃ t : Transformer, Descriptor.read schema = .ok t.descriptor ∧
      t.transformDocument document = .ok v ∧ Transform.Conforms t.descriptor.root v ∧
      ∀ w ∈ descendants v, w ≠ .null := by
  intro schema document v
  refine ⟨⟨_, "main", none, .acceptAll⟩, rfl, ?_⟩
  refine ⟨toOption_eq_some_iff.mp ?run, transform_conforms schema ?keys rfl rfl ?free document
    (toOption_eq_some_iff.mp ?run)⟩
  all_goals decide +kernel

end Transformer

end Recast
