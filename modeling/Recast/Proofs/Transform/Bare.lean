import Recast.Proofs.Transform.Refinement
import Recast.Proofs.Transform.Resolve

/-!
# Objects without values of their own

Where objects have no value of their own, every property is built in an empty slot. So an object is
made of the members that its properties give, and no slot is ever closed.
-/

namespace Recast

open Input (Finding)
open Json (Value Fields)
open Recast.Path
open Schema (Instance)

variable {p : Place} {outer : List Selector} {indices : List Nat} {names : List String}
variable {ruleSet name : String} {fields : Fields} {i inner : Instance} {d : Schema.Declared}
variable {ps : List Instance}

namespace Schema.Instance

/-- No object has a rule or a default. -/
def BareObjects (ruleSet : String) (i : Instance) : Prop :=
  i.Everywhere fun j => j.kind = .object → j.rule? ruleSet = none ∧ j.declared.default = none

end Schema.Instance

namespace Transform

/-! ## Slots with members -/

namespace Slot

/-- A slot with an object of some members; it is empty while there are none. -/
def record : Fields → Slot
  | [] => empty
  | member :: members => holds (.object (member :: members))

theorem member_record (h : name ∉ Fields.keys fields) : (record fields).member name = empty := by
  cases fields with
  | nil => rfl
  | cons member members =>
      have hn := Fields.get?_eq_none_iff.mpr h
      simp [record, Slot.member, hn, empty]

theorem withMember_record (h : name ∉ Fields.keys fields) (v : Value) :
    (record fields).withMember name (holds v) =
      record (fields ++ Fields.ofOption name (holds v).value?) := by
  cases fields with
  | nil => cases v <;> rfl
  | cons member members =>
      have hp : Fields.put name v (member :: members) = member :: members ++ [(name, v)] :=
        Fields.put_of_not_mem h
      cases v <;>
        simp_all [record, withMember, value?, Value.present, Value.isNull, Fields.ofOption]

end Slot

/-! ## Building members -/

/-- The members that properties give, each built in an empty slot. -/
def buildMembers (p : Place) : List Instance → Except Error.Kind Fields
  | [] => .ok []
  | i :: rest => do
    let s ← build i p .empty
    .ok (Fields.ofOption i.key s.value? ++ (← buildMembers p rest))

/-- The slot is not closed. -/
def Slot.IsOpen (s : Slot) : Prop := ∃ v, s = holds v

theorem Slot.isOpen_record (fields : Fields) : (Slot.record fields).IsOpen := by
  cases fields with
  | nil => exact ⟨_, rfl⟩
  | cons member members => exact ⟨_, rfl⟩

/-- Properties with new names only add members. -/
theorem buildEach_record (hopen : ∀ i ∈ ps, ∀ s, build i p .empty = .ok s → s.IsOpen)
    (hnames : (ps.map Instance.key).Nodup) (hnew : ∀ i ∈ ps, i.key ∉ Fields.keys fields) :
    buildEach ps p (.record fields) =
      (buildMembers p ps).map fun more => .record (fields ++ more) := by
  -- The slot of the next property is empty, since no member so far has its name.
  induction ps generalizing fields with
  | nil => simp [buildEach, buildMembers, Except.map]
  | cons i ps ih =>
      rw [List.map_cons, List.nodup_cons] at hnames
      unfold buildEach buildMembers
      rw [Slot.member_record (hnew i (by simp))]
      cases hb : build i p .empty with
      | error k => rfl
      | ok s =>
          obtain ⟨v, rfl⟩ := hopen i (by simp) s hb
          have hrest : ∀ j ∈ ps, j.key ∉ Fields.keys
              (fields ++ Fields.ofOption i.key (Slot.holds v).value?) := by
            intro j hj hmem
            have hne : j.key ≠ i.key := fun he => hnames.1 (List.mem_map.mpr ⟨j, hj, he⟩)
            have hnot := hnew j (by simp [hj])
            cases hv : (Slot.holds v).value? <;> simp_all [Fields.keys, Fields.ofOption]
          have h := ih (fun j hj => hopen j (by simp [hj])) hnames.2 hrest
          show buildEach ps p ((Slot.record fields).withMember i.key (.holds v)) = _
          rw [Slot.withMember_record (hnew i (by simp)), h]
          cases buildMembers p ps with
          | error k => rfl
          | ok more => simp [bind, Except.bind, Except.map]

/-- An object without a value of its own is made of the members that its properties give. -/
theorem build_object (hr : resolved p (.object d ps) = .ok none)
    (hopen : ∀ i ∈ ps, ∀ s, build i p .empty = .ok s → s.IsOpen)
    (hnames : (ps.map Instance.key).Nodup) :
    build (.object d ps) p .empty = (buildMembers p ps).map Slot.record := by
  have h : buildEach ps p (.record []) = (buildMembers p ps).map fun more => .record ([] ++ more) :=
    buildEach_record hopen hnames (by simp [Fields.keys])
  unfold build
  rw [hr]
  exact h

theorem resolved_bare (hp : p.Within outer indices) (hd : d.At (outer ++ members names))
    (hb : (Instance.object d ps).BareObjects p.ruleSet) :
    resolved p (.object d ps) = .ok none := by
  obtain ⟨hrule, hdefault⟩ := hb.self rfl
  have hat : (Instance.object d ps).declared.At (outer ++ members names) := hd
  rw [resolved_of_no_rule hp hat hrule, hdefault]
  rfl

theorem buildMembers_fails {P : Error.Kind → Prop}
    (h : ∀ i ∈ ps, FailsOnly P (build i p .empty)) : FailsOnly P (buildMembers p ps) := by
  induction ps with
  | nil => exact .ok []
  | cons i ps ih =>
      have hrest := ih fun j hj => h j (by simp [hj])
      unfold buildMembers
      exact (h i (by simp)).bind fun s _ => hrest.bind fun more _ => .ok _

/-- Where no object has a value of its own, no slot is ever closed. -/
theorem build_bare (hp : p.Within outer indices) (hi : i.Addressed (outer ++ members names))
    (hb : i.BareObjects p.ruleSet) (hn : i.DistinctNames) :
    FailsOnly (· ≠ .tree) (build i p .empty) ∧
      ∀ s, build i p .empty = .ok s → s.IsOpen := by
  revert hb hn
  refine Place.Within.induction ?scalar ?object ?array hp hi
  case scalar =>
    intro p outer indices names d k hp hd hb hn
    have hfails := resolved_ne_tree (i := .scalar d k) hp hd
    unfold build
    refine ⟨hfails.bind fun found _ => ?_, fun s hs => ?_⟩
    · cases valueOf found <;> exact .ok _
    · obtain ⟨found, _, hs⟩ := bind_eq_ok hs
      cases hv : valueOf found <;> rw [hv] at hs <;> cases hs <;> exact ⟨_, rfl⟩
  case object =>
    intro p outer indices names d ps hp hd ih hb hn
    have hall := fun i hi => ih i hi (hb.property hi) (hn.property hi)
    have hnames : (ps.map Instance.key).Nodup := hn.self
    have hfails := buildMembers_fails fun i hi => (hall i hi).1
    rw [build_object (resolved_bare hp hd hb) (fun i hi => (hall i hi).2) hnames]
    refine ⟨hfails.map _, fun s hs => ?_⟩
    cases hm : buildMembers p ps <;> rw [hm] at hs <;> cases hs
    exact Slot.isOpen_record _
  case array =>
    intro p outer indices names d items hp hd ih hb hn
    have hfails := resolved_ne_tree (i := .array d items) hp hd
    unfold build
    refine ⟨hfails.bind fun found _ => ?_, fun s hs => ?_⟩
    · cases found with
      | none => exact .ok _
      | some base =>
          refine (collect_fails (by decide) fun k seed _ => ?_).bind fun _ _ => .ok _
          exact (ih _ seed (Nat.mod_lt _ (by decide)) hb.items hn.items).1.bind fun _ _ => .ok _
    · obtain ⟨found, _, hs⟩ := bind_eq_ok hs
      cases found with
      | none =>
          cases hs
          exact ⟨_, rfl⟩
      | some base =>
          obtain ⟨vs, _, hs⟩ := bind_eq_ok hs
          cases hs
          exact ⟨_, rfl⟩

end Transform

end Recast
