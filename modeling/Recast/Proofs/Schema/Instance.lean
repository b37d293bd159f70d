import Recast.Proofs.Json.Keys
import Recast.Proofs.Path.Trail
import Recast.Proofs.Schema.Rule
import Recast.Schema.Instance

/-!
# Instances that were read from a schema

Every instance has the canonical path of its trail, and every path of its rules can be read.
-/

namespace Recast.Schema

open Json (Value Fields)
open Recast.Path (Denotes IsTrailStep Selector written)

/-! ## Writing fragments -/

def scalarFragment (type : String) : Value := .object [("type", .string type)]

def listFragment (items : Value) : Value := .object [("type", .string "array"), ("items", items)]

def objectFragment (properties : Fields) : Value :=
  .object [("type", .string "object"), ("properties", .object properties)]

/-- The fragment with more entries. -/
def extended (entries : Fields) : (fragment : Value) → Value
  | .object fields => .object (fields ++ entries)
  | v => v

/-- The entry of a rule that takes what a path finds first. -/
def ruleEntry (ruleSet path : String) : String × Value :=
  ("transform", .object [(ruleSet, .object
    [("from", .array [.object [("jsonPath", .string path)]])])])

variable {trail : List Selector} {i j inner : Instance} {d : Declared} {ps : List Instance}

namespace Instance

/-- Induction over an instance and everything below it. -/
@[elab_as_elim]
theorem induction {motive : Instance → Prop} (scalar : ∀ d k, motive (.scalar d k))
    (object : ∀ d ps, (∀ i ∈ ps, motive i) → motive (.object d ps))
    (array : ∀ d items, motive items → motive (.array d items)) (i : Instance) : motive i := by
  refine @Instance.rec motive (fun ps => ∀ i ∈ ps, motive i) scalar object array ?_ ?_ i
  · intro i hi
    cases hi
  · intro i ps hi hps j hj
    rcases List.mem_cons.mp hj with rfl | hj
    · exact hi
    · exact hps j hj

/-- The name of a property. -/
def key (i : Instance) : String := i.declared.name.getD ""

/-! ## Everything below an instance -/

theorem self_mem_all (i : Instance) : i ∈ i.all := by
  unfold all
  exact List.mem_cons_self

theorem mem_allOf : j ∈ allOf ps ↔ ∃ i ∈ ps, j ∈ i.all := by
  induction ps with
  | nil => simp [allOf]
  | cons i ps ih => simp [allOf, ih]

theorem mem_all_scalar {k : Scalar} : j ∈ (scalar d k).all ↔ j = scalar d k := by
  simp [all]

theorem mem_all_object : j ∈ (object d ps).all ↔ j = object d ps ∨ ∃ i ∈ ps, j ∈ i.all := by
  simp [all, mem_allOf]

theorem mem_all_array : j ∈ (array d inner).all ↔ j = array d inner ∨ j ∈ inner.all := by
  simp [all]

/-- The property holds of the instance and everything below it. -/
def Everywhere (P : Instance → Prop) (i : Instance) : Prop := ∀ j ∈ i.all, P j

section Everywhere

variable {P : Instance → Prop}

instance [DecidablePred P] (i : Instance) : Decidable (i.Everywhere P) :=
  inferInstanceAs (Decidable (∀ j ∈ i.all, P j))

theorem Everywhere.self (h : i.Everywhere P) : P i := h i (self_mem_all i)

theorem Everywhere.property (h : (object d ps).Everywhere P) (hi : i ∈ ps) : i.Everywhere P :=
  fun j hj => h j (mem_all_object.mpr (Or.inr ⟨i, hi, hj⟩))

theorem Everywhere.items (h : (array d inner).Everywhere P) : inner.Everywhere P :=
  fun j hj => h j (mem_all_array.mpr (Or.inr hj))

end Everywhere

end Instance

/-! ## Addresses -/

/-- What is declared at a trail: its path is that of the trail, and every source has a path that can
be read. -/
structure Declared.At (d : Declared) (trail : List Selector) : Prop where
  path_eq : d.path = written trail
  readable : ∀ rule ∈ d.rules, ∀ s ∈ rule.2.sources, ∀ path ∈ s.path, ∃ sels, Denotes path sels

/-- Everything below the instance is at its place of the schema. -/
inductive Instance.Addressed : List Selector → Instance → Prop where
  | scalar {trail : List Selector} {d : Declared} {k : Scalar} (h : d.At trail) :
      Addressed trail (.scalar d k)
  | object {trail : List Selector} {d : Declared} {ps : List Instance} (h : d.At trail)
      (name_eq : ∀ i ∈ ps, i.declared.name = some i.key)
      (below : ∀ i ∈ ps, Addressed (trail ++ [.child i.key]) i) : Addressed trail (.object d ps)
  | array {trail : List Selector} {d : Declared} {items : Instance} (h : d.At trail)
      (below : Addressed (trail ++ [.wildcard]) items) : Addressed trail (.array d items)

theorem Instance.Addressed.at (h : i.Addressed trail) : i.declared.At trail := by
  cases h <;> assumption

/-- Every source of an active rule has a path that can be read. -/
theorem Declared.At.readable_of_rule (h : i.declared.At trail) {ruleSet : String} {rule : Rule}
    (hr : i.rule? ruleSet = some rule) :
    ∀ s ∈ rule.sources, ∀ path ∈ s.path, ∃ sels, Denotes path sels := by
  obtain ⟨before, after, hrules, _⟩ := List.lookup_eq_some_iff.mp hr
  exact h.readable (ruleSet, rule) (by simp [hrules])

/-! ## Reading -/

theorem enclosing_written (trail parent : List Selector) :
    enclosing (written trail) (written parent) = written trail ∨
      enclosing (written trail) (written parent) = written parent := by
  unfold enclosing
  split
  · exact Or.inl rfl
  · exact Or.inr rfl

theorem isItemPath_iff {path : String} :
    isItemPath path = true ↔ ∃ rest, path.toList = rest ++ "[*]".toList := by
  rw [isItemPath, Text.dropEnd?, Option.isSome_map, Option.isSome_iff_exists]
  simp only [Text.dropStart?_eq_some_iff, List.reverse_eq_iff, List.reverse_append,
    List.reverse_reverse]
  constructor
  · rintro ⟨rest, h⟩
    exact ⟨rest.reverse, h⟩
  · rintro ⟨rest, h⟩
    exact ⟨rest.reverse, by simpa using h⟩

theorem isItemPath_itemPath (parent : String) : isItemPath (Path.itemPath parent) = true :=
  isItemPath_iff.mpr ⟨parent.toList, String.toList_append⟩

/-- The brackets of a name that is written in quotes are no step to items. -/
theorem isItemPath_childPath (parent name : String) :
    isItemPath (Path.childPath parent name) = false := by
  rw [Bool.eq_false_iff]
  intro h
  obtain ⟨rest, h⟩ := isItemPath_iff.mp h
  have hlast := congrArg List.reverse h
  unfold Path.childPath Path.childStep at hlast
  split at hlast
  · rename_i hplain
    have hname := Path.name_of_isPlain hplain
    obtain ⟨front, c, hsplit⟩ := (List.eq_nil_or_concat name.toList).resolve_left hname.ne_nil
    have hc := hname.chars c (by rw [hsplit]; simp)
    simp [hsplit] at hlast
    rw [hlast.1] at hc
    cases hc
  · simp at hlast

theorem isItemPath_written (ht : ∀ s ∈ trail, s.IsStep) :
    isItemPath (written (trail ++ [.wildcard])) = true := by
  rw [← Path.itemPath_written ht]
  exact isItemPath_itemPath _

theorem readRules_readable {parent : List Selector} {kind : Kind} {fields : Fields}
    {rules : List (String × Rule)} (ht : ∀ s ∈ trail, IsTrailStep s)
    (hp : ∀ s ∈ parent, IsTrailStep s)
    (h : readRules (written trail) (written parent) kind fields = .ok rules) :
    ∀ rule ∈ rules, ∀ s ∈ rule.2.sources, ∀ path ∈ s.path, ∃ sels, Denotes path sels := by
  unfold readRules at h
  split at h
  · cases h
    simp
  · intro rule hrule
    obtain ⟨⟨ruleSet, block⟩, _, hb⟩ := mem_of_mapM h hrule
    dsimp only at hb
    split at hb
    · rename_i r hr
      cases hb
      rcases enclosing_written trail parent with he | he <;> rw [he] at hr
      · exact Rule.build_denotes (fun s hs => (ht s hs).isStep) hr
      · exact Rule.build_denotes (fun s hs => (hp s hs).isStep) hr
    · cases hb
  · cases h

/-- What is read from the fragment of an instance. -/
theorem Declared.read_eq_ok {path parent : String} {name : Option String} {fields : Fields}
    {kind : Kind} (h : Declared.read path parent name fields = .ok (d, kind)) :
    readKind path fields = .ok kind ∧ readRules path parent kind fields = .ok d.rules ∧
      d.path = path ∧ d.name = name := by
  unfold Declared.read at h
  obtain ⟨k, hkind, h⟩ := bind_eq_ok h
  obtain ⟨rules, hrules, h⟩ := bind_eq_ok h
  cases h
  exact ⟨hkind, hrules, rfl, rfl⟩

theorem Declared.read_at {parent : List Selector} {name : Option String} {fields : Fields}
    {kind : Kind} (ht : ∀ s ∈ trail, IsTrailStep s) (hp : ∀ s ∈ parent, IsTrailStep s)
    (h : Declared.read (written trail) (written parent) name fields = .ok (d, kind)) :
    d.At trail := by
  obtain ⟨_, hrules, hpath, _⟩ := Declared.read_eq_ok h
  exact ⟨hpath, readRules_readable ht hp hrules⟩

theorem Declared.read_name {path parent : String} {name : Option String} {fields : Fields}
    {kind : Kind} (h : Declared.read path parent name fields = .ok (d, kind)) : d.name = name :=
  (Declared.read_eq_ok h).2.2.2

namespace Instance

mutual

/-- The fragment describes the instance: the keyword of its kind gives what is below it. -/
inductive Describes : String → String → Option String → Value → Instance → Prop where
  | scalar {path parent : String} {name : Option String} {fields : Fields} {d : Declared}
      {k : Scalar} (hd : Declared.read path parent name fields = .ok (d, .scalar k)) :
      Describes path parent name (.object fields) (.scalar d k)
  | object {path parent : String} {name : Option String} {fields properties : Fields}
      {d : Declared} {ps : List Instance}
      (hd : Declared.read path parent name fields = .ok (d, .object))
      (hget : Fields.get? "properties" fields = some (.object properties))
      (h : DescribesEach path properties ps) :
      Describes path parent name (.object fields) (.object d ps)
  | array {path parent : String} {name : Option String} {fields : Fields} {v : Value}
      {d : Declared} {items : Instance}
      (hd : Declared.read path parent name fields = .ok (d, .array))
      (hget : Fields.get? "items" fields = some v)
      (h : Describes (Path.itemPath path) path none v items) :
      Describes path parent name (.object fields) (.array d items)

inductive DescribesEach : String → Fields → List Instance → Prop where
  | nil {path : String} : DescribesEach path [] []
  | cons {path name : String} {v : Value} {rest : Fields} {i : Instance} {ps : List Instance}
      (h : Describes (Path.childPath path name) path (some name) v i)
      (hps : DescribesEach path rest ps) : DescribesEach path ((name, v) :: rest) (i :: ps)

end

mutual

/-- A fragment describes what is read from it. -/
theorem describes_of_read : ∀ (fragment : Value) {path parent : String} {name : Option String}
    {i : Instance}, read path parent name fragment = .ok i → Describes path parent name fragment i
  | .object fields, path, parent, name, i, h => by
      unfold read at h
      obtain ⟨⟨d, kind⟩, hd, h⟩ := bind_eq_ok h
      cases kind with
      | scalar k =>
          cases h
          exact .scalar hd
      | object =>
          obtain ⟨ps, hps, h⟩ := bind_eq_ok h
          cases h
          obtain ⟨properties, hget, hps⟩ := describes_of_readProperties fields hps
          exact .object hd hget hps
      | array =>
          obtain ⟨items, hitems, h⟩ := bind_eq_ok h
          cases h
          obtain ⟨v, hget, hv⟩ := describes_of_readItems fields hitems
          exact .array hd hget hv
  | .null, _, _, _, _, h => by cases h
  | .bool _, _, _, _, _, h => by cases h
  | .number _, _, _, _, _, h => by cases h
  | .string _, _, _, _, _, h => by cases h
  | .array _, _, _, _, _, h => by cases h
termination_by structural fragment => fragment

theorem describes_of_readProperties : ∀ (fields : List (String × Value)) {path : String}
    {ps : List Instance}, readProperties path fields = .ok ps →
      ∃ properties, Fields.get? "properties" fields = some (.object properties) ∧
        DescribesEach path properties ps
  | [], _, _, h => by cases h
  | (key, v) :: rest, path, ps, h => by
      unfold readProperties at h
      split at h
      · rename_i hkey
        cases v with
        | object properties =>
            exact ⟨properties, by simp [Fields.get?, hkey], describes_of_readEach properties h⟩
        | _ => cases h
      · rename_i hkey
        obtain ⟨properties, hget, hps⟩ := describes_of_readProperties rest h
        exact ⟨properties, by simp [Fields.get?, hkey, hget], hps⟩
termination_by structural fields => fields

theorem describes_of_readItems : ∀ (fields : List (String × Value)) {path : String}
    {items : Instance}, readItems path fields = .ok items →
      ∃ v, Fields.get? "items" fields = some v ∧
        Describes (Path.itemPath path) path none v items
  | [], _, _, h => by cases h
  | (key, v) :: rest, path, items, h => by
      have hv := @describes_of_read v (Path.itemPath path) path none items
      unfold readItems at h
      split at h
      · rename_i hkey
        split at h
        · exact ⟨_, by simp [Fields.get?, hkey], hv h⟩
        · cases h
      · rename_i hkey
        obtain ⟨w, hget, hw⟩ := describes_of_readItems rest h
        exact ⟨w, by simp [Fields.get?, hkey, hget], hw⟩
termination_by structural fields => fields

theorem describes_of_readEach : ∀ (properties : List (String × Value)) {path : String}
    {ps : List Instance}, readEach path properties = .ok ps → DescribesEach path properties ps
  | [], _, _, h => by
      cases h
      exact .nil
  | (name, v) :: rest, path, ps, h => by
      unfold readEach at h
      obtain ⟨first, hf, h⟩ := bind_eq_ok h
      obtain ⟨others, ho, h⟩ := bind_eq_ok h
      cases h
      exact .cons (describes_of_read v hf) (describes_of_readEach rest ho)
termination_by structural properties => properties

end

/-- Only the first member of a name counts. -/
theorem readProperties_eq (path : String) (fields : Fields) :
    readProperties path fields =
      match Fields.get? "properties" fields with
      | some (.object properties) => readEach path properties
      | _ => walkFault .missingProperties path := by
  induction fields with
  | nil => rfl
  | cons field fields ih =>
      obtain ⟨key, v⟩ := field
      unfold readProperties Fields.get?
      split
      · cases v <;> rfl
      · exact ih

theorem readItems_eq (path : String) (fields : Fields) :
    readItems path fields =
      match Fields.get? "items" fields with
      | some (.object items) => read (Path.itemPath path) path none (.object items)
      | _ => walkFault .missingItems path := by
  induction fields with
  | nil => rfl
  | cons field fields ih =>
      obtain ⟨key, v⟩ := field
      unfold readItems Fields.get?
      split
      · cases v <;> rfl
      · exact ih

theorem readItems_eq_ok {path : String} {fields : Fields} {items : Instance}
    (h : readItems path fields = .ok items) :
    ∃ v, Fields.get? "items" fields = some v ∧ read (Path.itemPath path) path none v = .ok items := by
  rw [readItems_eq] at h
  split at h
  · rename_i v hget
    exact ⟨_, hget, h⟩
  · cases h

theorem Describes.name_eq {path parent : String} {name : Option String} {fragment : Value}
    (h : Describes path parent name fragment i) : i.declared.name = name := by
  cases h with
  | scalar hd => exact Declared.read_name hd
  | object hd => exact Declared.read_name hd
  | array hd => exact Declared.read_name hd

theorem Describes.key_eq {path parent name : String} {fragment : Value}
    (h : Describes path parent (some name) fragment i) : i.key = name := by
  rw [key, h.name_eq, Option.getD_some]

theorem isTrailStep_append (ht : ∀ s ∈ trail, IsTrailStep s) (sel : Selector)
    (hs : IsTrailStep sel) : ∀ s ∈ trail ++ [sel], IsTrailStep s := by
  intro s hmem
  rcases List.mem_append.mp hmem with hmem | hmem
  · exact ht s hmem
  · cases List.mem_singleton.mp hmem
    exact hs

theorem childPath_eq {path name : String} (h : path = written trail)
    (ht : ∀ s ∈ trail, IsTrailStep s) :
    Path.childPath path name = written (trail ++ [.child name]) := by
  rw [h, Path.childPath_written fun s hs => (ht s hs).isStep]

theorem itemPath_eq {path : String} (h : path = written trail) (ht : ∀ s ∈ trail, IsTrailStep s) :
    Path.itemPath path = written (trail ++ [.wildcard]) := by
  rw [h, Path.itemPath_written fun s hs => (ht s hs).isStep]

mutual

/-- What is described at a trail is addressed from there. -/
theorem Describes.addressed {path parentPath : String} {name : Option String} {fragment : Value}
    {i : Instance} (h : Describes path parentPath name fragment i) {trail parent : List Selector}
    (htrail : path = written trail) (hparent : parentPath = written parent)
    (ht : ∀ s ∈ trail, IsTrailStep s) (hp : ∀ s ∈ parent, IsTrailStep s) : i.Addressed trail := by
  match h with
  | .scalar hd =>
      subst htrail hparent
      exact .scalar (Declared.read_at ht hp hd)
  | .object hd _ h =>
      have hall := DescribesEach.addressed h htrail ht
      subst htrail hparent
      exact .object (Declared.read_at ht hp hd) (fun i hi => (hall i hi).1) fun i hi => (hall i hi).2
  | .array hd _ h =>
      have hbelow := h.addressed (itemPath_eq htrail ht) htrail
        (isTrailStep_append ht .wildcard trivial) ht
      subst htrail hparent
      exact .array (Declared.read_at ht hp hd) hbelow
termination_by structural h

theorem DescribesEach.addressed {path : String} {properties : Fields} {ps : List Instance}
    (h : DescribesEach path properties ps) {trail : List Selector}
    (htrail : path = written trail) (ht : ∀ s ∈ trail, IsTrailStep s) :
    ∀ i ∈ ps, i.declared.name = some i.key ∧ i.Addressed (trail ++ [.child i.key]) := by
  match h with
  | .nil => simp
  | .cons h hps =>
      have hbelow := h.addressed (childPath_eq htrail ht) htrail
        (isTrailStep_append ht (.child _) trivial) ht
      rw [← h.key_eq] at hbelow
      have hname := h.name_eq
      rw [← h.key_eq] at hname
      intro j hj
      rcases List.mem_cons.mp hj with hj | hj
      · exact hj ▸ ⟨hname, hbelow⟩
      · exact hps.addressed htrail ht j hj
termination_by structural h

end

/-- What is below an instance is addressed behind its trail. -/
theorem Addressed.of_mem_all (h : i.Addressed trail) (hj : j ∈ i.all) :
    ∃ more, (∀ s ∈ more, IsTrailStep s) ∧ j.Addressed (trail ++ more) := by
  induction i using Instance.induction generalizing trail with
  | scalar d k =>
      rw [mem_all_scalar.mp hj]
      exact ⟨[], by simp, by rwa [List.append_nil]⟩
  | object d ps ih =>
      rcases mem_all_object.mp hj with rfl | ⟨i, hi, hj⟩
      · exact ⟨[], by simp, by rwa [List.append_nil]⟩
      · cases h with
        | object _ _ below =>
            obtain ⟨more, hmore, ha⟩ := ih i hi (below i hi) hj
            rw [List.append_assoc, List.singleton_append] at ha
            exact ⟨.child i.key :: more, List.forall_mem_cons.mpr ⟨trivial, hmore⟩, ha⟩
  | array d items ih =>
      rcases mem_all_array.mp hj with rfl | hj
      · exact ⟨[], by simp, by rwa [List.append_nil]⟩
      · cases h with
        | array _ below =>
            obtain ⟨more, hmore, ha⟩ := ih below hj
            rw [List.append_assoc, List.singleton_append] at ha
            exact ⟨.wildcard :: more, List.forall_mem_cons.mpr ⟨trivial, hmore⟩, ha⟩

/-! ## Distinct names -/

/-- The properties of every object have different names. -/
def DistinctNames (i : Instance) : Prop := i.Everywhere fun j => (j.properties.map key).Nodup

theorem DescribesEach.keys_eq {path : String} {properties : Fields}
    (h : DescribesEach path properties ps) : ps.map key = Fields.keys properties := by
  induction properties generalizing ps with
  | nil =>
      cases h
      rfl
  | cons property properties ih =>
      cases h with
      | cons h hps => rw [List.map_cons, h.key_eq, ih hps, Fields.keys, Fields.keys, List.map_cons]

mutual

/-- A schema with distinct keys describes properties with different names. -/
theorem Describes.distinctNames {path parent : String} {name : Option String} {fragment : Value}
    {i : Instance} (h : Describes path parent name fragment i)
    (hk : fragment.hasDistinctKeys = true) : i.DistinctNames := by
  match h with
  | .scalar _ =>
      intro j hj
      rw [mem_all_scalar.mp hj]
      exact List.nodup_nil
  | .object _ hget h =>
      have hfields := (Value.hasDistinctKeys_object.mp hk).2
      have hps := Value.hasDistinctKeys_object.mp (Value.hasDistinctKeys_of_get? hfields hget)
      have hbelow := h.distinctNames hps.2
      intro j hj
      rcases mem_all_object.mp hj with rfl | ⟨i, hi, hj⟩
      · exact h.keys_eq ▸ hps.1
      · exact hbelow i hi j hj
  | .array _ hget h =>
      have hfields := (Value.hasDistinctKeys_object.mp hk).2
      have hbelow := h.distinctNames (Value.hasDistinctKeys_of_get? hfields hget)
      intro j hj
      rcases mem_all_array.mp hj with rfl | hj
      · exact List.nodup_nil
      · exact hbelow j hj
termination_by structural h

theorem DescribesEach.distinctNames {path : String} {properties : Fields} {ps : List Instance}
    (h : DescribesEach path properties ps) (hk : Value.fieldsDistinct properties = true) :
    ∀ i ∈ ps, i.DistinctNames := by
  match h with
  | .nil => simp
  | .cons h hps =>
      simp only [Value.fieldsDistinct, Bool.and_eq_true] at hk
      have hfirst := h.distinctNames hk.1
      intro j hj
      rcases List.mem_cons.mp hj with hj | hj
      · exact hj ▸ hfirst
      · exact hps.distinctNames hk.2 j hj
termination_by structural h

end

end Instance

/-! ## Descriptors -/

namespace Descriptor

variable {schema : Value} {d : Descriptor}

theorem read_root (h : read schema = .ok d) :
    Instance.read Path.rootPath Path.rootPath none schema = .ok d.root := by
  obtain ⟨root, hroot, h⟩ := bind_eq_ok h
  cases h
  exact hroot

theorem read_eq_error {fault : Fault} (h : read schema = .error fault) :
    Instance.read Path.rootPath Path.rootPath none schema = .error fault := by
  rcases bind_eq_error h with hroot | ⟨_, _, h⟩
  · exact hroot
  · cases h

theorem read_schema (h : read schema = .ok d) : d.schema = schema := by
  obtain ⟨root, _, h⟩ := bind_eq_ok h
  cases h
  rfl

theorem root_addressed (h : read schema = .ok d) : d.root.Addressed [] := by
  have hroot := read_root h
  rw [Path.rootPath_written] at hroot
  exact (Instance.describes_of_read schema hroot).addressed rfl rfl (by simp) (by simp)

theorem root_distinctNames (hk : schema.hasDistinctKeys = true) (h : read schema = .ok d) :
    d.root.DistinctNames := (Instance.describes_of_read schema (read_root h)).distinctNames hk

end Descriptor

end Recast.Schema
