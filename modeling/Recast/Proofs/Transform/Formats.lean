import Recast.Proofs.Markup.OfValue
import Recast.Proofs.NodePath.Members
import Recast.Proofs.Path.Select
import Recast.Proofs.Transform.Pairs
import Recast.Transform.Transformer

/-!
# Documents of both formats

Without rules, a document is looked up at the paths of its instances only. A value and its markup
give the same there, so they are transformed into the same document.
-/

namespace Recast

open Input (Context Finding)
open Json (Value Fields)
open Markup (Node elementsOf elements_ofValue filter_membersOf innerText_ofValue ofValue)
open NodePath (IsElementName inDocument_members inSeed_members reach reach_append reach_nil
  toElements_select)
open Recast.Path
open Schema (Declared Descriptor Instance listFragment objectFragment scalarFragment)

variable {p q : Place} {outer : List Selector} {indices : List Nat} {names : List String}
variable {ruleSet name : String} {i items : Instance} {d : Declared} {ps : List Instance}
variable {k : Scalar} {v base : Value} {n : Node} {c c' : Context} {f f' : Finding}

namespace Schema.Instance

/-- The instance has no rule, its name stands for elements, and it is no list of lists. -/
def IsNeutral (ruleSet : String) (i : Instance) : Prop :=
  i.rule? ruleSet = none ∧ (∀ name ∈ i.declared.name, IsElementName name) ∧
    ∀ items ∈ i.items?, items.kind ≠ .array

instance (ruleSet : String) (i : Instance) : Decidable (i.IsNeutral ruleSet) :=
  inferInstanceAs (Decidable (_ ∧ _ ∧ _))

end Schema.Instance

namespace Transform

/-! ## Values that have markup -/

/-- The value has the shape of the instance: the members of an object that are declared have theirs,
a list has items, all of the shape of its items, and a scalar is a text without blanks around it. -/
inductive Shaped : Instance → Value → Prop where
  | scalar {d : Declared} {k : Scalar} {s : String} (h : Text.trimmed s = s) :
      Shaped (.scalar d k) (.string s)
  | object {d : Declared} {ps : List Instance} {fields : Fields}
      (members : ∀ i ∈ ps, ∀ v, Fields.get? i.key fields = some v → Shaped i v) :
      Shaped (.object d ps) (.object fields)
  | array {d : Declared} {items : Instance} {vs : List Value} (nonempty : vs ≠ [])
      (elements : ∀ v ∈ vs, Shaped items v) : Shaped (.array d items) (.array vs)

/-- Only at lists, the elements are not those of one value. -/
theorem Shaped.elementsOf_eq (h : Shaped i v) (hi : i.kind ≠ .array) (name : String) :
    elementsOf name v = [ofValue name v] := by
  cases h with
  | array => exact absurd rfl hi
  | _ => rfl

/-! ## Pairs of findings -/

/-- Paths of properties are looked up below the node. -/
def HasNodes (c : Context) (n : Node) : Prop :=
  ∀ names, (∀ name ∈ names, IsElementName name) →
    nearest c (members names) = Finding.ofNodes? (reach names n)

/-- Two seeds of elements are the same, or they are a value and its element. -/
inductive Twins (i : Instance) : Finding → Finding → Prop where
  | same (f : Finding) : Twins i f f
  | formats (name : String) {v : Value} (h : Shaped i v) (hk : v.hasDistinctKeys = true) :
      Twins i (.json v) (.nodes [ofValue name v])

/-- Two findings have pairs of seeds. -/
def SeedsPaired (items : Instance) (f f' : Finding) : Prop :=
  List.Forall₂ (Twins items) f.seeds f'.seeds

theorem SeedsPaired.refl (items : Instance) (f : Finding) : SeedsPaired items f f :=
  List.forall₂_same.mpr fun seed _ => .same seed

/-- Two contexts find the same, or at the instance one finds a value and the other its elements. -/
inductive Paired (names : List String) (i : Instance) (c c' : Context) : Prop where
  | same (h : ∀ sels, nearest c sels = nearest c' sels)
  | formats {base : Value} {n : Node} (name : String) (hbase : HasBase c base)
      (hnodes : HasNodes c' n)
      (hreach : reach names n = (follow names base).elim [] (elementsOf name))
      (hshaped : ∀ v ∈ follow names base, Shaped i v ∧ v.hasDistinctKeys = true)

namespace Paired

/-- What is paired at an object is paired at its properties. -/
theorem property (h : Paired names (.object d ps) c c') (hi : i ∈ ps)
    (hname : IsElementName i.key) : Paired (names ++ [i.key]) i c c' := by
  cases h with
  | same h => exact .same h
  | @formats base n name hbase hnodes hreach hshaped =>
      -- Above the property there is an object, or nothing at all.
      cases hf : follow names base with
      | none =>
          have hnone : follow (names ++ [i.key]) base = none := by rw [follow_append, hf]; rfl
          refine .formats i.key hbase hnodes ?_ (by simp [hnone])
          rw [reach_append, hreach, hf, hnone]
          rfl
      | some v =>
          obtain ⟨hv, hk⟩ := hshaped v hf
          have hobject := hv.elementsOf_eq (by simp [Instance.kind]) name
          cases hv with
          | @object _ _ fields members =>
              obtain ⟨hkeys, hfields⟩ := Value.hasDistinctKeys_object.mp hk
              have hmember : follow (names ++ [i.key]) base = Fields.get? i.key fields := by
                rw [follow_append, hf]
                rfl
              refine .formats i.key hbase hnodes ?_ ?_
              · rw [reach_append, hreach, hf, Option.elim_some, hobject, List.flatMap_singleton,
                  toElements_select hname, elements_ofValue, filter_membersOf hkeys, hmember]
              · rw [hmember]
                exact fun v hv => ⟨members i hi v hv, Value.hasDistinctKeys_of_get? hfields hv⟩

/-- Scalars are coerced to the same. -/
theorem scalar (h : Paired names (.scalar d k) c c') (hnames : ∀ name ∈ names, IsElementName name) :
    ((nearest c (members names)).bind fun f => (f.coerce? k).map Finding.json) =
      (nearest c' (members names)).bind fun f => (f.coerce? k).map Finding.json := by
  cases h with
  | same h => rw [h]
  | @formats base n name hbase hnodes hreach hshaped =>
      rw [hbase, inValue_members, hnodes names hnames, hreach]
      cases hf : follow names base with
      | none => rfl
      | some v =>
          cases (hshaped v hf).1 with
          | @scalar _ _ s htight =>
              have htext : Finding.textOf (ofValue name (.string s)) = s := by
                rw [Finding.textOf, innerText_ofValue, htight]
              show (k.coerce? (.string s)).map Finding.json =
                (k.coerce? (.string (Finding.textOf (ofValue name (.string s))))).map Finding.json
              rw [htext]

/-- Lists have pairs of elements. -/
theorem array (h : Paired names (.array d items) c c') (hnames : ∀ name ∈ names, IsElementName name) :
    Option.Rel (SeedsPaired items) (nearest c (members names)) (nearest c' (members names)) := by
  cases h with
  | same h =>
      rw [h]
      exact optionRel_refl fun f => .refl items f
  | @formats base n name hbase hnodes hreach hshaped =>
      rw [hbase, inValue_members, hnodes names hnames, hreach]
      cases hf : follow names base with
      | none => exact .none
      | some v =>
          obtain ⟨hv, hk⟩ := hshaped v hf
          cases hv with
          | @array _ _ vs nonempty elements =>
              have hnodes : Finding.ofNodes? (elementsOf name (.array vs)) =
                  some (.nodes (vs.map (ofValue name))) := by
                cases vs with
                | nil => exact absurd rfl nonempty
                | cons v vs => rfl
              rw [Option.elim_some, hnodes]
              refine .some ?_
              show List.Forall₂ (Twins items) (vs.map .json)
                ((vs.map (ofValue name)).map fun n => .nodes [n])
              rw [List.map_map, List.forall₂_map_left_iff, List.forall₂_map_right_iff]
              exact List.forall₂_same.mpr fun v hv =>
                .formats name (elements v hv) (Value.hasDistinctKeys_array.mp hk v hv)

/-- Contexts inside paired seeds are paired. -/
theorem narrow (h : Twins i f f') (hi : i.kind ≠ .array) (c c' : Context) (path : String) :
    Paired [] i (c.narrow path f) (c'.narrow path f') := by
  cases h with
  | same => exact .same fun sels => rfl
  | @formats name v h hk =>
      have hbase : HasBase (c.narrow path (.json v)) v := fun sels => rfl
      refine .formats name hbase (fun names hnames => nearest_eq (inSeed_members hnames _)) ?_ ?_
      · rw [reach_nil]
        exact (h.elementsOf_eq hi name).symm
      · rintro _ ⟨⟩
        exact ⟨h, hk⟩

end Paired

/-! ## Walks -/

/-- Neutral instances are looked up in pairs, and so are the elements of neutral lists. -/
theorem pairing (ruleSet : String) :
    Pairing
      (fun names i c c' => (∀ name ∈ names, IsElementName name) ∧
        i.Everywhere (Instance.IsNeutral ruleSet) ∧ Paired names i c c')
      (fun i f f' => i.kind ≠ .array ∧ i.Everywhere (Instance.IsNeutral ruleSet) ∧ Twins i f f') where
  scalar h := h.2.2.scalar h.1
  property := by
    rintro names d ps i c c' ⟨hnames, hneutral, h⟩ hi hname
    have hkey : IsElementName i.key := (hneutral.property hi).self.2.1 i.key hname
    exact ⟨List.forall_mem_append.mpr ⟨hnames, List.forall_mem_singleton.mpr hkey⟩,
      hneutral.property hi, h.property hi hkey⟩
  array := by
    rintro names d items c c' ⟨hnames, hneutral, h⟩
    have hseed : ∀ seed seed', Twins items seed seed' → items.kind ≠ .array ∧
        items.Everywhere (Instance.IsNeutral ruleSet) ∧ Twins items seed seed' :=
      fun _ _ hseed => ⟨hneutral.self.2.2 items rfl, hneutral.items, hseed⟩
    exact optionRel_imp (h.array hnames) fun f f' hseeds => List.Forall₂.imp hseed hseeds
  default := by
    rintro names d items c c' ⟨_, hneutral, _⟩ v
    exact List.forall₂_same.mpr fun seed _ =>
      ⟨hneutral.self.2.2 items rfl, hneutral.items, .same seed⟩
  narrow h c c' path := ⟨by simp, h.2.1, .narrow h.2.2 h.1 c c' path⟩

/-- An instance is walked the same where what it is looked up in is paired. -/
theorem walk_paired (hp : p.Within outer indices) (hq : q.Within outer indices)
    (hset : p.ruleSet = q.ruleSet) (hi : i.Addressed (outer ++ members names))
    (hneutral : i.Everywhere (Instance.IsNeutral p.ruleSet))
    (hnames : ∀ name ∈ names, IsElementName name) (h : Paired names i p.input q.input)
    (tree : Value) : walk i p tree = walk i q tree :=
  (pairing p.ruleSet).walk_eq hp hq hset hi (fun j hj => (hneutral j hj).1) ⟨hnames, hneutral, h⟩
    tree

end Transform

namespace Transformer

open Transform

/-- Without rules, a value and its markup are transformed into the same, or both are refused for the
same reason. Lists of the value are not empty, and its scalars are texts without blanks around them;
names of properties stand for elements, and no list is directly in a list. -/
theorem transformDocument_ofValue (t : Transformer) (schema : Value)
    (h : Descriptor.read schema = .ok t.descriptor) (hroot : t.descriptor.root.kind = .object)
    (hneutral : t.descriptor.root.Everywhere (Instance.IsNeutral t.ruleSet)) {v : Value}
    (hkeys : v.hasDistinctKeys = true) (hv : Shaped t.descriptor.root v) (name : String) :
    t.transformDocument (.markup (ofValue name v)) = t.transformDocument (.json v) := by
  have hi : t.descriptor.root.Addressed ([] ++ members []) := Descriptor.root_addressed h
  have hlist : t.descriptor.root.kind ≠ .array := by simp [hroot]
  have hpaired : Paired [] t.descriptor.root (.ofDocument (.json v))
      (.ofDocument (.markup (ofValue name v))) := by
    have hbase : HasBase (.ofDocument (.json v)) v := fun sels => rfl
    refine .formats name hbase (fun names hnames => nearest_eq (inDocument_members hnames rfl)) ?_ ?_
    · rw [reach_nil]
      exact (hv.elementsOf_eq hlist name).symm
    · rintro _ ⟨⟩
      exact ⟨hv, hkeys⟩
  have hrun : run t.descriptor.root t.ruleSet (.markup (ofValue name v)) =
      run t.descriptor.root t.ruleSet (.json v) := by
    unfold run
    rw [walk_paired (.outside t.ruleSet (.json v)) (.outside t.ruleSet (.markup (ofValue name v))) rfl
      hi hneutral (by simp) hpaired Tree.empty]
  unfold transformDocument
  rw [hrun]

/-- Rows with lists of tags, some of which are missing. -/
theorem transformDocument_ofValue_rows :
    let schema : Value := objectFragment [("rows", listFragment (objectFragment
      [("id", scalarFragment "integer"), ("tags", listFragment (scalarFragment "string"))]))]
    let tag : Instance := .scalar ⟨"$.rows[*].tags[*]", none, none, [], []⟩ .string
    let tags : Instance := .array ⟨"$.rows[*].tags", some "tags", none, [], []⟩ tag
    let id : Instance := .scalar ⟨"$.rows[*].id", some "id", none, [], []⟩ .integer
    let row : Instance := .object ⟨"$.rows[*]", none, none, [], []⟩ [id, tags]
    let rows : Instance := .array ⟨"$.rows", some "rows", none, [], []⟩ row
    let root : Instance := .object ⟨"$", none, none, [], []⟩ [rows]
    let t : Transformer := ⟨⟨root, schema⟩, "main", none, .acceptAll⟩
    let v : Value := .object [("rows", .array
      [.object [("id", .string "7"), ("tags", .array [.string "a", .string "b"])],
        .object [("tags", .array [.string "c"])]])]
    Descriptor.read schema = .ok ⟨root, schema⟩ ∧
      t.transformDocument (.markup (ofValue "table" v)) = t.transformDocument (.json v) ∧
      (t.transformDocument (.json v)).toOption = some (.object [("rows", .array
        [.object [("id", .number (.integer 7)), ("tags", .array [.string "a", .string "b"])],
          .object [("tags", .array [.string "c"])]])]) := by
  intro schema tag tags id row rows root t v
  have hid : Shaped id (.string "7") := .scalar (by decide +kernel)
  have htags : ∀ texts : List String, texts ≠ [] → (∀ s ∈ texts, Text.trimmed s = s) →
      Shaped tags (.array (texts.map .string)) := by
    intro texts hne htexts
    refine .array (by simpa using hne) fun u hu => ?_
    obtain ⟨s, hs, rfl⟩ := List.mem_map.mp hu
    exact .scalar (htexts s hs)
  have hfirst := htags ["a", "b"] (by simp) (by decide +kernel)
  have hsecond := htags ["c"] (by simp) (by decide +kernel)
  have hv : Shaped root v := by
    refine .object fun i hi u hu => ?_
    cases List.mem_singleton.mp hi
    cases hu
    refine .array (by simp) fun u hu => ?_
    simp only [List.mem_cons, List.not_mem_nil, or_false] at hu
    rcases hu with rfl | rfl
    · refine .object fun i hi u hu => ?_
      simp only [List.mem_cons, List.not_mem_nil, or_false] at hi
      rcases hi with rfl | rfl
      · cases hu
        exact hid
      · cases hu
        exact hfirst
    · refine .object fun i hi u hu => ?_
      simp only [List.mem_cons, List.not_mem_nil, or_false] at hi
      rcases hi with rfl | rfl
      · cases hu
      · cases hu
        exact hsecond
  refine ⟨rfl, ?_, by decide +kernel⟩
  exact transformDocument_ofValue t schema rfl rfl (by decide +kernel) (by decide +kernel) hv "table"

end Transformer

end Recast
