import Recast.Proofs.Schema.Preorder
import Recast.Proofs.Selection
import Recast.Schema.Assembly

/-!
# Schemas that are refused

A schema that cannot be read is refused for the first of its instances that is not acceptable, in the
order of the walk: nothing before it is refused, and the fault is the reason it is refused for.
-/

namespace Recast.Schema

open Json (Value Fields)
open Recast.Path (IsTrailStep Selector written)

variable {v fragment : Value} {outer trail : List Selector} {fault : Fault} {ps fields : Fields}
variable {d : Declared}

/-! ## Reasons -/

/-- Why the instance at a trail is refused, whatever is below it. -/
def refusal? (trail : List Selector) (fragment : Value) : Option Fault :=
  match fragment with
  | .object fields =>
    match Declared.read (written trail) (written trail.dropLast) (Key.ofTrail trail).name?
        fields with
    | .error fault => some fault
    | .ok (_, .scalar _) => none
    | .ok (_, .object) =>
      if (properties? fragment).isSome then none else some ⟨written trail, .walk .missingProperties⟩
    | .ok (_, .array) =>
      if (items? fragment).isSome then none else some ⟨written trail, .walk .missingItems⟩
  | _ => some ⟨written trail, .walk .notAnObject⟩

theorem readKind_failsOnly (path : String) (fields : Fields) :
    FailsOnly (fun fault => fault.path = path) (readKind path fields) := by
  unfold readKind
  split
  · exact .error rfl
  · split
    · exact .ok _
    · exact .error rfl

theorem readRules_failsOnly (path parent : String) (kind : Kind) (fields : Fields) :
    FailsOnly (fun fault => fault.path = path) (readRules path parent kind fields) := by
  unfold readRules
  split
  · exact .ok _
  · refine .mapM fun ⟨ruleSet, block⟩ _ => ?_
    dsimp only
    split
    · exact .ok _
    · exact .error rfl
  · exact .error rfl

theorem Declared.read_failsOnly (path parent : String) (name : Option String) (fields : Fields) :
    FailsOnly (fun fault => fault.path = path) (Declared.read path parent name fields) :=
  (readKind_failsOnly path fields).bind fun kind _ =>
    (readRules_failsOnly path parent kind fields).bind fun _ _ => .ok _

theorem refusal?_path (h : refusal? trail fragment = some fault) : fault.path = written trail := by
  unfold refusal? at h
  split at h
  · split at h
    · rename_i hread
      cases h
      exact Declared.read_failsOnly _ _ _ _ _ hread
    · cases h
    · split at h <;> cases h
      rfl
    · split at h <;> cases h
      rfl
  · cases h
    rfl

/-! ## The first refusal -/

/-- The fault is the refusal of an instance in a fragment at `outer`, and no instance before it is
refused. -/
def FirstRefusal (outer : List Selector) (fragment : Value) (fault : Fault) : Prop :=
  ∃ trail part, fragmentAt? trail fragment = some part ∧
    refusal? (outer ++ trail) part = some fault ∧
    ∀ earlier before, Precedes fragment earlier trail → fragmentAt? earlier fragment = some before →
      refusal? (outer ++ earlier) before = none

def Accepted (outer : List Selector) (fragment : Value) : Prop :=
  ∀ trail part, fragmentAt? trail fragment = some part → refusal? (outer ++ trail) part = none

/-- Reading the fragment, wherever it is, fails with the first refusal in it. -/
def Judged (fragment : Value) : Prop :=
  ∀ outer, (∀ s ∈ outer, IsTrailStep s) →
    match Instance.read (written outer) (written outer.dropLast) (Key.ofTrail outer).name?
        fragment with
    | .ok _ => Accepted outer fragment
    | .error fault => FirstRefusal outer fragment fault

theorem firstRefusal_root (h : refusal? outer fragment = some fault) :
    FirstRefusal outer fragment fault :=
  ⟨[], fragment, rfl, by rwa [List.append_nil], nofun⟩

theorem accepted_of_parts (h : refusal? outer fragment = none)
    (hparts : ∀ sel part, part? sel fragment = some part → Accepted (outer ++ [sel]) part) :
    Accepted outer fragment := by
  intro trail part hpart
  cases trail with
  | nil =>
      cases hpart
      rwa [List.append_nil]
  | cons sel trail =>
      obtain ⟨u, hu, hpart⟩ := Option.bind_eq_some_iff.mp hpart
      have haccepted := hparts sel u hu trail part hpart
      rwa [List.append_assoc, List.singleton_append] at haccepted

theorem FirstRefusal.within {sel : Selector} {part : Value}
    (h : FirstRefusal (outer ++ [sel]) part fault) (hpart : part? sel fragment = some part)
    (hroot : refusal? outer fragment = none)
    (hbefore : ∀ name name' ps, sel = .child name' → properties? fragment = some ps →
      [name, name'].Sublist (Fields.keys ps) → ∀ before, Fields.get? name ps = some before →
        Accepted (outer ++ [.child name]) before) :
    FirstRefusal outer fragment fault := by
  obtain ⟨trail, u, hu, hrefused, hfirst⟩ := h
  refine ⟨sel :: trail, u, ?_, ?_, fun earlier w hprecedes hw => ?_⟩
  · rw [fragmentAt?, hpart]
    exact hu
  · rwa [List.append_assoc, List.singleton_append] at hrefused
  · -- What comes before is the fragment itself, in the same part, or in an earlier property.
    cases hprecedes with
    | parent =>
        cases hw
        rwa [List.append_nil]
    | @within _ part' _ earlier _ hpart' hprecedes =>
        cases hpart.symm.trans hpart'
        rw [fragmentAt?, hpart] at hw
        have hnone := hfirst earlier w hprecedes hw
        rwa [List.append_assoc, List.singleton_append] at hnone
    | @earlier _ ps name name' hps hsublist earlier _ =>
        obtain ⟨before, hget, hw⟩ := Option.bind_eq_some_iff.mp hw
        rw [part?, hps, Option.bind_some] at hget
        have hnone := hbefore name name' ps rfl hps hsublist before hget earlier w hw
        rwa [List.append_assoc, List.singleton_append] at hnone

theorem Judged.child (h : Judged v) (ht : ∀ s ∈ outer, IsTrailStep s) (name : String) :
    match Instance.read (Path.childPath (written outer) name) (written outer) (some name) v with
    | .ok _ => Accepted (outer ++ [.child name]) v
    | .error fault => FirstRefusal (outer ++ [.child name]) v fault := by
  have hv := h (outer ++ [.child name]) (Instance.isTrailStep_append ht (.child name) trivial)
  rwa [← Instance.childPath_eq rfl ht, List.dropLast_concat, Key.ofTrail_concat_child] at hv

theorem Judged.items (h : Judged v) (ht : ∀ s ∈ outer, IsTrailStep s) :
    match Instance.read (Path.itemPath (written outer)) (written outer) none v with
    | .ok _ => Accepted (outer ++ [.wildcard]) v
    | .error fault => FirstRefusal (outer ++ [.wildcard]) v fault := by
  have hv := h (outer ++ [.wildcard]) (Instance.isTrailStep_append ht .wildcard trivial)
  rwa [← Instance.itemPath_eq rfl ht, List.dropLast_concat, Key.ofTrail_concat_wildcard] at hv

theorem mem_before {before rest : Fields} {earlier key : String} {w v : Value}
    (hk : (Fields.keys (before ++ (key, v) :: rest)).Nodup)
    (hsub : [earlier, key].Sublist (Fields.keys (before ++ (key, v) :: rest)))
    (hmem : (earlier, w) ∈ before ++ (key, v) :: rest) : (earlier, w) ∈ before := by
  rcases List.mem_append.mp hmem with hmem | hmem
  · exact hmem
  · rcases List.mem_cons.mp hmem with heq | hmem
    · cases heq
      exact absurd (hk.sublist hsub) (by simp)
    · have hkey : earlier ∈ Fields.keys rest := List.mem_map_of_mem hmem
      refine absurd hsub (Selection.not_sublist_swap hk ?_)
      rw [Fields.keys, List.map_append, List.map_cons]
      exact ((List.singleton_sublist.mpr hkey).cons_cons key).trans (List.sublist_append_right _ _)

/-- Of properties, the later ones of all that a fragment declares, the first that cannot be read is
refused, if those before them are accepted. -/
theorem readEach_judged {before properties : Fields}
    (hps : properties? fragment = some (before ++ properties))
    (hk : (Fields.keys (before ++ properties)).Nodup) (ht : ∀ s ∈ outer, IsTrailStep s)
    (hroot : refusal? outer fragment = none)
    (hbefore : ∀ p ∈ before, Accepted (outer ++ [.child p.1]) p.2)
    (h : ∀ p ∈ properties, Judged p.2) :
    match Instance.readEach (written outer) properties with
    | .ok _ => ∀ p ∈ properties, Accepted (outer ++ [.child p.1]) p.2
    | .error fault => FirstRefusal outer fragment fault := by
  induction properties generalizing before with
  | nil => exact List.forall_mem_nil _
  | cons property rest ih =>
      obtain ⟨name, v⟩ := property
      obtain ⟨hv, hrest⟩ := List.forall_mem_cons.mp h
      have hfirst := hv.child ht name
      have hget : Fields.get? name (before ++ (name, v) :: rest) = some v :=
        Fields.get?_of_mem hk (by simp)
      have hpart : part? (.child name) fragment = some v := by
        rw [part?, hps]
        exact hget
      rw [Instance.readEach]
      cases hread : Instance.read (Path.childPath (written outer) name) (written outer)
          (some name) v with
      | error fault =>
          rw [hread] at hfirst
          refine hfirst.within hpart hroot fun earlier name' ps hname hps' hsub w hw => ?_
          cases hname
          cases hps.symm.trans hps'
          exact hbefore (earlier, w) (mem_before hk hsub (Fields.mem_of_get? hw))
      | ok i =>
          rw [hread] at hfirst
          -- The property joins those that were read, and nothing in it is refused.
          have hsplit : before ++ (name, v) :: rest = (before ++ [(name, v)]) ++ rest := by simp
          have hdone : ∀ p ∈ before ++ [(name, v)], Accepted (outer ++ [.child p.1]) p.2 := by
            intro p hp
            rcases List.mem_append.mp hp with hp | hp
            · exact hbefore p hp
            · cases List.mem_singleton.mp hp
              exact hfirst
          have hlater := ih (hsplit ▸ hps) (hsplit ▸ hk) hdone hrest
          cases hmore : Instance.readEach (written outer) rest with
          | error fault =>
              rw [hmore] at hlater
              exact hlater
          | ok is =>
              rw [hmore] at hlater
              exact List.forall_mem_cons.mpr ⟨hfirst, hlater⟩

theorem readProperties_of_object (path : String) (htype : typeName? fields = some "object") :
    Instance.readProperties path fields =
      match properties? (.object fields) with
      | some ps => Instance.readEach path ps
      | none => Instance.walkFault .missingProperties path := by
  rw [Instance.readProperties_eq, properties?, if_pos htype]
  cases Fields.get? "properties" fields with
  | none => rfl
  | some u => cases u <;> rfl

theorem readItems_of_array (path : String) (htype : typeName? fields = some "array") :
    Instance.readItems path fields =
      match items? (.object fields) with
      | some w => Instance.read (Path.itemPath path) path none w
      | none => Instance.walkFault .missingItems path := by
  rw [Instance.readItems_eq, items?, if_pos htype]
  cases Fields.get? "items" fields with
  | none => rfl
  | some u => cases u <;> rfl

theorem readProperties_judged (hk : (Value.object fields).hasDistinctKeys = true)
    (ht : ∀ s ∈ outer, IsTrailStep s) (htype : typeName? fields = some "object")
    (hd : Declared.read (written outer) (written outer.dropLast) (Key.ofTrail outer).name? fields =
      .ok (d, .object))
    (h : ∀ ps, properties? (.object fields) = some ps → ∀ p ∈ ps, Judged p.2) :
    match Instance.readProperties (written outer) fields with
    | .ok _ => Accepted outer (.object fields)
    | .error fault => FirstRefusal outer (.object fields) fault := by
  rw [readProperties_of_object _ htype]
  cases hps : properties? (.object fields) with
  | none => exact firstRefusal_root (by simp [refusal?, hd, hps])
  | some ps =>
      have hroot : refusal? outer (.object fields) = none := by simp [refusal?, hd, hps]
      have hnodup := (Value.hasDistinctKeys_object.mp (hasDistinctKeys_properties? hk hps)).1
      have hjudged := @readEach_judged (.object fields) outer [] ps hps hnodup ht hroot
        (List.forall_mem_nil _) (h ps hps)
      dsimp only
      cases hread : Instance.readEach (written outer) ps with
      | error fault =>
          rw [hread] at hjudged
          exact hjudged
      | ok is =>
          rw [hread] at hjudged
          refine accepted_of_parts hroot fun sel part hpart => ?_
          rcases part?_eq_some hpart with ⟨name, ps', rfl, hps', hget⟩ | ⟨rfl, hitems⟩
          · cases hps.symm.trans hps'
            exact hjudged (name, part) (Fields.mem_of_get? hget)
          · exact absurd (typeName?_of_items? hitems) (by simp [htype])

theorem readItems_judged (ht : ∀ s ∈ outer, IsTrailStep s) (htype : typeName? fields = some "array")
    (hd : Declared.read (written outer) (written outer.dropLast) (Key.ofTrail outer).name? fields =
      .ok (d, .array))
    (h : ∀ w, items? (.object fields) = some w → Judged w) :
    match Instance.readItems (written outer) fields with
    | .ok _ => Accepted outer (.object fields)
    | .error fault => FirstRefusal outer (.object fields) fault := by
  rw [readItems_of_array _ htype]
  cases hitems : items? (.object fields) with
  | none => exact firstRefusal_root (by simp [refusal?, hd, hitems])
  | some items =>
      have hroot : refusal? outer (.object fields) = none := by simp [refusal?, hd, hitems]
      have hjudged := (h items hitems).items ht
      dsimp only
      cases hread : Instance.read (Path.itemPath (written outer)) (written outer) none items with
      | error fault =>
          rw [hread] at hjudged
          exact hjudged.within hitems hroot fun _ _ _ hname => by cases hname
      | ok i =>
          rw [hread] at hjudged
          refine accepted_of_parts hroot fun sel part hpart => ?_
          rcases part?_eq_some hpart with ⟨name, ps, rfl, hps, _⟩ | ⟨rfl, hpart⟩
          · exact absurd (typeName?_of_properties? hps) (by simp [htype])
          · cases hitems.symm.trans hpart
            exact hjudged

theorem Judged.of_parts (hk : v.hasDistinctKeys = true)
    (hproperties : ∀ ps, properties? v = some ps → ∀ p ∈ ps, Judged p.2)
    (hitems : ∀ w, items? v = some w → Judged w) : Judged v := by
  intro outer ht
  cases v with
  | object fields =>
      rw [Instance.read]
      cases hd : Declared.read (written outer) (written outer.dropLast) (Key.ofTrail outer).name?
          fields with
      | error fault => exact firstRefusal_root (by simp [refusal?, hd])
      | ok read =>
          obtain ⟨d, kind⟩ := read
          obtain ⟨type, htype, hobject, harray⟩ := typeName?_of_read hd
          cases kind with
          | scalar k =>
              refine accepted_of_parts (by simp [refusal?, hd]) fun sel part hpart => ?_
              rcases part?_eq_some hpart with ⟨_, _, _, hps, _⟩ | ⟨_, hpart⟩
              · cases hobject.mpr (Option.some.inj (htype.symm.trans (typeName?_of_properties? hps)))
              · cases harray.mpr (Option.some.inj (htype.symm.trans (typeName?_of_items? hpart)))
          | object =>
              have hjudged := readProperties_judged hk ht (hobject.mp rfl ▸ htype) hd hproperties
              cases hread : Instance.readProperties (written outer) fields <;>
                rw [hread] at hjudged <;> exact hjudged
          | array =>
              have hjudged := readItems_judged ht (harray.mp rfl ▸ htype) hd hitems
              cases hread : Instance.readItems (written outer) fields <;>
                rw [hread] at hjudged <;> exact hjudged
  | _ => exact firstRefusal_root rfl

theorem judged (hk : v.hasDistinctKeys = true) : Judged v :=
  parts_induction (fun _ hk hproperties hitems => .of_parts hk hproperties hitems) hk

theorem accepted_of_read {i : Instance} (hk : v.hasDistinctKeys = true)
    (h : Instance.read Path.rootPath Path.rootPath none v = .ok i) : Accepted [] v := by
  have hjudged := judged hk [] (by simp)
  rwa [← Path.rootPath_written, List.dropLast_nil, ← Path.rootPath_written, Key.ofTrail,
    List.getLast?_nil, Key.name?, h] at hjudged

theorem firstRefusal_of_read (hk : v.hasDistinctKeys = true)
    (h : Instance.read Path.rootPath Path.rootPath none v = .error fault) :
    FirstRefusal [] v fault := by
  have hjudged := judged hk [] (by simp)
  rwa [← Path.rootPath_written, List.dropLast_nil, ← Path.rootPath_written, Key.ofTrail,
    List.getLast?_nil, Key.name?, h] at hjudged

end Recast.Schema
