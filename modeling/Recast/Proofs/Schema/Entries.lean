import Recast.Proofs.Schema.Instance

/-!
# Entries of instances

The walk of a schema that can be read comes across its instances in order: every entry has the
place of its instance, and the fragment that the instance was read from.
-/

namespace Recast.Schema

open Json (Value Fields)
open Recast.Path (IsTrailStep Selector written)

variable {trail : List Selector} {i : Instance} {ps : List Instance} {d : Declared} {kind : Kind}
variable {path parent : String} {name : Option String} {fields : Fields}

/-! ## Walking -/

theorem walkProperties_eq (path : String) (depth : Nat) (fields : Fields) :
    walkProperties path depth fields =
      match Fields.get? "properties" fields with
      | some (.object properties) => walkEach path depth properties
      | _ => .failed .missingProperties path := by
  induction fields with
  | nil => rfl
  | cons field fields ih =>
      obtain ⟨key, v⟩ := field
      unfold walkProperties Fields.get?
      split
      · cases v <;> rfl
      · exact ih

theorem walkItems_eq (path : String) (depth : Nat) (fields : Fields) :
    walkItems path depth fields =
      match Fields.get? "items" fields with
      | some (.object items) => walk (Path.itemPath path) (depth + 1) .items (.object items)
      | _ => .failed .missingItems path := by
  induction fields with
  | nil => rfl
  | cons field fields ih =>
      obtain ⟨key, v⟩ := field
      unfold walkItems Fields.get?
      split
      · cases v <;> rfl
      · exact ih

/-- The type name that a fragment of a kind declares. -/
theorem typeName?_of_readKind (h : readKind path fields = .ok kind) :
    ∃ type, typeName? fields = some type ∧ (kind = .object ↔ type = "object") ∧
      (kind = .array ↔ type = "array") := by
  unfold readKind at h
  split at h
  · cases h
  · rename_i type htype
    split at h
    · rename_i kind' hkind
      cases h
      refine ⟨type, htype, ?_⟩
      unfold Kind.ofName? at hkind
      split at hkind <;> cases hkind <;> simp_all
    · cases h

theorem typeName?_of_read (h : Declared.read path parent name fields = .ok (d, kind)) :
    ∃ type, typeName? fields = some type ∧ (kind = .object ↔ type = "object") ∧
      (kind = .array ↔ type = "array") :=
  typeName?_of_readKind (Declared.read_eq_ok h).1

/-- The walk of an object goes on with its properties. -/
theorem walk_object {properties : Fields} (htype : typeName? fields = some "object")
    (hget : Fields.get? "properties" fields = some (.object properties)) (path : String)
    (depth : Nat) (key : Key) :
    walk path depth key (.object fields) =
      ⟨⟨path, depth, key, .object fields⟩ :: (walkEach path depth properties).entries,
        (walkEach path depth properties).fault⟩ := by
  unfold walk
  rw [htype]
  dsimp only
  rw [walkProperties_eq, hget]
  rfl

/-- The walk of a list goes on with its items. -/
theorem walk_array {items : Fields} (htype : typeName? fields = some "array")
    (hget : Fields.get? "items" fields = some (.object items)) (path : String) (depth : Nat)
    (key : Key) :
    walk path depth key (.object fields) =
      ⟨⟨path, depth, key, .object fields⟩ ::
          (walk (Path.itemPath path) (depth + 1) .items (.object items)).entries,
        (walk (Path.itemPath path) (depth + 1) .items (.object items)).fault⟩ := by
  unfold walk
  rw [htype]
  dsimp only
  rw [walkItems_eq, hget]
  dsimp only
  unfold walk
  rfl

/-- The walk of a scalar ends there. -/
theorem walk_scalar {type : String} (htype : typeName? fields = some type)
    (hobject : type ≠ "object") (harray : type ≠ "array") (path : String) (depth : Nat)
    (key : Key) :
    walk path depth key (.object fields) = ⟨[⟨path, depth, key, .object fields⟩], none⟩ := by
  unfold walk
  rw [htype]
  split
  · rename_i he
    exact absurd (Option.some.inj he) hobject
  · rename_i he
    exact absurd (Option.some.inj he) harray
  · rfl

/-! ## Entries -/

/-- The entry at the trail is that of the instance: the instance declares what is read from its
fragment. -/
structure Entry.Of (trail : List Selector) (e : Entry) (i : Instance) : Prop where
  isTrailStep : ∀ s ∈ trail, IsTrailStep s
  path_eq : e.path = written trail
  depth_eq : e.depth = trail.length
  fragment_eq : ∃ name fields, e.fragment = .object fields ∧
    Declared.read (written trail) (written trail.dropLast) name fields = .ok (i.declared, i.kind)

theorem Entry.Of.instance_path {e : Entry} (h : e.Of trail i) : i.path = written trail := by
  obtain ⟨name, fields, _, hd⟩ := h.fragment_eq
  exact (Declared.read_eq_ok hd).2.2.1

/-- A walk that has no fault and comes across instances in order. -/
structure Walk.Covers (w : Walk) (is : List Instance) : Prop where
  fault_eq : w.fault = none
  entries : List.Forall₂ (fun e i => ∃ trail, Entry.Of trail e i) w.entries is

theorem Walk.Covers.nil : Walk.Covers ⟨[], none⟩ [] := ⟨rfl, .nil⟩

theorem Walk.Covers.cons {w : Walk} {is : List Instance} (h : w.Covers is) {e : Entry}
    (he : e.Of trail i) : Walk.Covers ⟨e :: w.entries, w.fault⟩ (i :: is) :=
  ⟨h.fault_eq, .cons ⟨trail, he⟩ h.entries⟩

theorem Walk.Covers.andThen {w w' : Walk} {is is' : List Instance} (h : w.Covers is)
    (h' : w'.Covers is') : (w.andThen w').Covers (is ++ is') := by
  unfold Walk.andThen
  rw [h.fault_eq]
  exact ⟨h'.fault_eq, List.rel_append h.entries h'.entries⟩

theorem Walk.Covers.exists_entry {w : Walk} {is : List Instance} (h : w.Covers is) (hi : i ∈ is) :
    ∃ e ∈ w.entries, ∃ trail, Entry.Of trail e i := by
  obtain ⟨k, hk, rfl⟩ := List.getElem_of_mem hi
  have hlen := h.entries.length_eq
  exact ⟨w.entries[k], List.getElem_mem _, h.entries.get (by omega) hk⟩

namespace Instance

theorem Describes.exists_fields {fragment : Value} (h : Describes path parent name fragment i) :
    ∃ fields, fragment = .object fields := by
  cases h <;> exact ⟨_, rfl⟩

mutual

/-- The walk of a fragment comes across the instances that it describes. -/
theorem Describes.covers {path parent : String} {name : Option String} {fragment : Value}
    {i : Instance} (h : Describes path parent name fragment i) {trail : List Selector}
    (htrail : path = written trail) (hparent : parent = written trail.dropLast)
    (ht : ∀ s ∈ trail, IsTrailStep s) (key : Key) :
    (walk path trail.length key fragment).Covers i.all := by
  match h with
  | .scalar hd =>
      obtain ⟨type, htype, hobject, harray⟩ := typeName?_of_read hd
      rw [walk_scalar htype (by simpa using hobject) (by simpa using harray), all]
      exact .cons .nil ⟨ht, htrail, rfl, _, _, rfl, htrail ▸ hparent ▸ hd⟩
  | .object hd hget h =>
      obtain ⟨type, htype, hobject, harray⟩ := typeName?_of_read hd
      have hbelow := h.covers htrail ht
      rw [walk_object (hobject.mp rfl ▸ htype) hget, all]
      exact .cons hbelow ⟨ht, htrail, rfl, _, _, rfl, htrail ▸ hparent ▸ hd⟩
  | .array hd hget h =>
      obtain ⟨type, htype, hobject, harray⟩ := typeName?_of_read hd
      have hbelow := h.covers (itemPath_eq htrail ht) (by rw [List.dropLast_concat, htrail])
        (isTrailStep_append ht .wildcard trivial) .items
      obtain ⟨items, rfl⟩ := h.exists_fields
      rw [List.length_append] at hbelow
      rw [walk_array (harray.mp rfl ▸ htype) hget, all]
      exact .cons hbelow ⟨ht, htrail, rfl, _, _, rfl, htrail ▸ hparent ▸ hd⟩
termination_by structural h

theorem DescribesEach.covers {path : String} {properties : Fields} {ps : List Instance}
    (h : DescribesEach path properties ps) {trail : List Selector} (htrail : path = written trail)
    (ht : ∀ s ∈ trail, IsTrailStep s) :
    (walkEach path trail.length properties).Covers (allOf ps) := by
  match h with
  | .nil => exact .nil
  | @DescribesEach.cons path name v rest i ps h hps =>
      have hfirst := h.covers (childPath_eq htrail ht) (by rw [List.dropLast_concat, htrail])
        (isTrailStep_append ht (.child name) trivial) (.property name)
      rw [List.length_append] at hfirst
      rw [walkEach, allOf]
      exact hfirst.andThen (hps.covers htrail ht)
termination_by structural h

end

end Instance

/-- The walk of a schema comes across all instances that were read from it. -/
theorem Descriptor.covers {schema : Value} {d : Descriptor} (h : Descriptor.read schema = .ok d) :
    (entries schema).Covers d.instances := by
  have hroot := Descriptor.read_root h
  have hd := Instance.describes_of_read schema hroot
  have hsteps : ∀ s ∈ ([] : List Selector), IsTrailStep s := by simp
  exact hd.covers Path.rootPath_written Path.rootPath_written hsteps .root

end Recast.Schema
