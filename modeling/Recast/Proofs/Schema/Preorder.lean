import Recast.Proofs.Path.Locations
import Recast.Proofs.Schema.Entries

/-!
# The order of entries

A trail leads from a schema through properties and items to a fragment. The walk lists exactly the
fragments that trails lead to, each one before what it describes and properties in the order of
their declarations, and the path of an entry reads as the trail that leads to its fragment.
-/

namespace Recast.Schema

open Json (Value Fields)
open Recast.Path (IsTrailStep Selector children written)

variable {fragment v w : Value} {sel : Selector} {outer trail : List Selector}
variable {trails : List (List Selector)} {properties ps : Fields} {name : String}

/-! ## Fragments -/

/-- The properties that a fragment of an object declares. -/
def properties? : Value → Option Fields
  | .object fields =>
    if typeName? fields = some "object" then
      (Fields.get? "properties" fields).bind Value.object?
    else none
  | _ => none

/-- The fragment that a fragment of a list declares for the items. -/
def items? : Value → Option Value
  | .object fields =>
    if typeName? fields = some "array" then
      (Fields.get? "items" fields).filter Value.isObject
    else none
  | _ => none

/-- The fragment that one step leads to. -/
def part? : Selector → Value → Option Value
  | .child name, fragment => (properties? fragment).bind (Fields.get? name)
  | .wildcard, fragment => items? fragment
  | _, _ => none

/-- The fragment that a trail leads to. -/
def fragmentAt? : List Selector → Value → Option Value
  | [], fragment => some fragment
  | sel :: trail, fragment => (part? sel fragment).bind (fragmentAt? trail)

theorem properties?_eq_some {v : Value} (h : properties? v = some ps) :
    ∃ fields, v = .object fields ∧ typeName? fields = some "object" ∧
      Fields.get? "properties" fields = some (.object ps) := by
  unfold properties? at h
  split at h
  · rename_i fields
    split at h
    · rename_i htype
      obtain ⟨u, hu, hps⟩ := Option.bind_eq_some_iff.mp h
      cases u with
      | object properties =>
          cases hps
          exact ⟨fields, rfl, htype, hu⟩
      | _ => cases hps
    · cases h
  · cases h

theorem items?_eq_some (h : items? v = some w) :
    ∃ fields, v = .object fields ∧ typeName? fields = some "array" ∧
      Fields.get? "items" fields = some w ∧ w.isObject = true := by
  unfold items? at h
  split at h
  · rename_i fields
    split at h
    · rename_i htype
      obtain ⟨hw, hobject⟩ := Option.filter_eq_some_iff.mp h
      exact ⟨fields, rfl, htype, hw, hobject⟩
    · cases h
  · cases h

theorem typeName?_of_properties? {fields : Fields} (h : properties? (.object fields) = some ps) :
    typeName? fields = some "object" := by
  obtain ⟨_, hv, htype, _⟩ := properties?_eq_some h
  cases hv
  exact htype

theorem typeName?_of_items? {fields : Fields} (h : items? (.object fields) = some w) :
    typeName? fields = some "array" := by
  obtain ⟨_, hv, htype, _⟩ := items?_eq_some h
  cases hv
  exact htype

theorem isTrailStep_of_part? (h : part? sel v = some w) : IsTrailStep sel := by
  cases sel with
  | child => trivial
  | wildcard => trivial
  | _ => cases h

theorem isTrailStep_of_fragmentAt? (h : fragmentAt? trail v = some w) :
    ∀ s ∈ trail, IsTrailStep s := by
  induction trail generalizing v with
  | nil => simp
  | cons sel trail ih =>
      obtain ⟨u, hu, hw⟩ := Option.bind_eq_some_iff.mp h
      exact List.forall_mem_cons.mpr ⟨isTrailStep_of_part? hu, ih hw⟩

/-- A trail with a step leads through the properties of an object or the items of a list. -/
theorem part?_eq_some (h : part? sel v = some w) :
    (∃ name ps, sel = .child name ∧ properties? v = some ps ∧ Fields.get? name ps = some w) ∨
      sel = .wildcard ∧ items? v = some w := by
  cases sel with
  | child name =>
      obtain ⟨ps, hps, hw⟩ := Option.bind_eq_some_iff.mp h
      exact Or.inl ⟨name, ps, rfl, hps, hw⟩
  | wildcard => exact Or.inr ⟨rfl, h⟩
  | _ => cases h

/-! ## Keys -/

theorem hasDistinctKeys_properties? (hk : v.hasDistinctKeys = true) (h : properties? v = some ps) :
    (Value.object ps).hasDistinctKeys = true := by
  obtain ⟨fields, rfl, _, hget⟩ := properties?_eq_some h
  exact Value.hasDistinctKeys_of_get? (Value.hasDistinctKeys_object.mp hk).2 hget

theorem hasDistinctKeys_part? (hk : v.hasDistinctKeys = true) (h : part? sel v = some w) :
    w.hasDistinctKeys = true := by
  rcases part?_eq_some h with ⟨name, ps, rfl, hps, hw⟩ | ⟨rfl, hw⟩
  · have hps := hasDistinctKeys_properties? hk hps
    exact Value.hasDistinctKeys_of_get? (Value.hasDistinctKeys_object.mp hps).2 hw
  · obtain ⟨fields, rfl, _, hget, _⟩ := items?_eq_some hw
    exact Value.hasDistinctKeys_of_get? (Value.hasDistinctKeys_object.mp hk).2 hget

/-- Induction from the parts of a fragment to it. The properties of an object are two levels
down, so the induction says the same of what is right in the fragment. -/
theorem parts_induction {P : Value → Prop}
    (step : ∀ v, v.hasDistinctKeys = true →
      (∀ ps, properties? v = some ps → ∀ p ∈ ps, P p.2) → (∀ w, items? v = some w → P w) → P v)
    (hk : v.hasDistinctKeys = true) : P v := by
  suffices h : P v ∧ ∀ u ∈ children v, P u from h.1
  revert hk
  refine Path.children_induction (fun v ih hk => ?_) v
  have hbelow : ∀ u ∈ children v, P u ∧ ∀ w ∈ children u, P w := by
    intro u hu
    obtain ⟨s, hs⟩ := (Path.mem_children hk).mp hu
    exact ih u hu (Value.hasDistinctKeys_child? hk hs)
  refine ⟨step v hk ?_ ?_, fun u hu => (hbelow u hu).1⟩
  · intro ps hps p hp
    obtain ⟨fields, rfl, _, hget⟩ := properties?_eq_some hps
    have hmem := List.mem_map_of_mem (f := Prod.snd) (Fields.mem_of_get? hget)
    exact (hbelow _ hmem).2 p.2 (List.mem_map_of_mem hp)
  · intro w hw
    obtain ⟨fields, rfl, _, hget, _⟩ := items?_eq_some hw
    exact (hbelow w (List.mem_map_of_mem (f := Prod.snd) (Fields.mem_of_get? hget))).1

/-! ## Order -/

/-- One trail comes before another from a fragment: an instance before what it describes, and an
earlier property, with everything below it, before a later one. -/
inductive Precedes : Value → List Selector → List Selector → Prop where
  | parent (fragment : Value) (sel : Selector) (trail : List Selector) :
      Precedes fragment [] (sel :: trail)
  | within {fragment part : Value} {sel : Selector} {trail later : List Selector}
      (hpart : part? sel fragment = some part) (h : Precedes part trail later) :
      Precedes fragment (sel :: trail) (sel :: later)
  | earlier {fragment : Value} {ps : Fields} {name name' : String}
      (hps : properties? fragment = some ps) (h : [name, name'].Sublist (Fields.keys ps))
      (trail later : List Selector) :
      Precedes fragment (.child name :: trail) (.child name' :: later)

theorem Precedes.irrefl (hk : v.hasDistinctKeys = true) : ¬ Precedes v trail trail := by
  induction trail generalizing v with
  | nil => nofun
  | cons sel trail ih =>
      intro h
      cases h with
      | within hpart h => exact ih (hasDistinctKeys_part? hk hpart) h
      | earlier hps h =>
          have hnodup := (Value.hasDistinctKeys_object.mp (hasDistinctKeys_properties? hk hps)).1
          simpa using hnodup.sublist h

/-! ## Entries along trails -/

/-- How an instance hangs off its parent, by its trail. -/
def Key.ofTrail (trail : List Selector) : Key :=
  match trail.getLast? with
  | none => .root
  | some (.child name) => .property name
  | some _ => .items

@[simp] theorem Key.ofTrail_concat_child (trail : List Selector) (name : String) :
    ofTrail (trail ++ [.child name]) = .property name := by
  simp [ofTrail]

@[simp] theorem Key.ofTrail_concat_wildcard (trail : List Selector) :
    ofTrail (trail ++ [.wildcard]) = .items := by
  simp [ofTrail]

/-- The entry of what a trail leads to, from a fragment at `outer`. -/
structure Entry.At (outer : List Selector) (fragment : Value) (trail : List Selector) (e : Entry) :
    Prop where
  path_eq : e.path = written (outer ++ trail)
  depth_eq : e.depth = outer.length + trail.length
  key_eq : e.key = Key.ofTrail (outer ++ trail)
  fragment_eq : fragmentAt? trail fragment = some e.fragment

/-- A walk from a fragment at `outer` comes along trails, in order. -/
structure Walk.Along (w : Walk) (outer : List Selector) (fragment : Value)
    (trails : List (List Selector)) : Prop where
  entries : List.Forall₂ (Entry.At outer fragment) trails w.entries
  ordered : trails.Pairwise (Precedes fragment)

/-- A walk comes along all trails from a fragment, if it has no fault. -/
structure Walk.Lists (w : Walk) (outer : List Selector) (fragment : Value)
    (trails : List (List Selector)) : Prop extends Walk.Along w outer fragment trails where
  complete : w.fault = none → ∀ trail, (fragmentAt? trail fragment).isSome = true → trail ∈ trails

/-- A walk comes along all trails that begin with some of the steps, if it has no fault. -/
structure Walk.ListsBelow (w : Walk) (outer : List Selector) (fragment : Value)
    (sels : List Selector) (trails : List (List Selector)) : Prop
    extends Walk.Along w outer fragment trails where
  starts : ∀ trail ∈ trails, ∃ sel ∈ sels, ∃ later, trail = sel :: later
  complete : w.fault = none → ∀ sel ∈ sels, ∀ trail,
    (fragmentAt? (sel :: trail) fragment).isSome = true → sel :: trail ∈ trails

theorem Walk.Along.within {w : Walk} (h : w.Along (outer ++ [sel]) v trails)
    (hpart : part? sel fragment = some v) : w.Along outer fragment (trails.map (sel :: ·)) where
  entries := by
    rw [List.forall₂_map_left_iff]
    refine h.entries.imp fun trail e he => ⟨?_, ?_, ?_, ?_⟩
    · simpa using he.path_eq
    · have hdepth := he.depth_eq
      simp only [List.length_append, List.length_cons, List.length_nil] at hdepth ⊢
      omega
    · simpa using he.key_eq
    · rw [fragmentAt?, hpart]
      exact he.fragment_eq
  ordered := List.pairwise_map.mpr (h.ordered.imp fun h => .within hpart h)

theorem Walk.Along.append {w w' : Walk} {trails' : List (List Selector)}
    (h : w.Along outer fragment trails) (h' : w'.Along outer fragment trails')
    (hcross : ∀ trail ∈ trails, ∀ later ∈ trails', Precedes fragment trail later)
    (fault : Option WalkFault) :
    Walk.Along ⟨w.entries ++ w'.entries, fault⟩ outer fragment (trails ++ trails') where
  entries := List.rel_append h.entries h'.entries
  ordered := List.pairwise_append.mpr ⟨h.ordered, h'.ordered, hcross⟩

/-! ## Walks -/

/-- Wherever it begins, the walk of the fragment lists what is described by it. -/
def Listed (fragment : Value) : Prop :=
  ∀ outer, (∀ s ∈ outer, IsTrailStep s) → ∃ trails,
    (walk (written outer) outer.length (Key.ofTrail outer) fragment).Lists outer fragment trails

theorem Listed.child (h : Listed v) (ht : ∀ s ∈ outer, IsTrailStep s) (name : String) :
    ∃ trails,
      (walk (Path.childPath (written outer) name) (outer.length + 1) (.property name) v).Lists
        (outer ++ [.child name]) v trails := by
  have hv := h (outer ++ [.child name]) (Instance.isTrailStep_append ht (.child name) trivial)
  rwa [← Instance.childPath_eq rfl ht, Key.ofTrail_concat_child, List.length_append] at hv

theorem Listed.items (h : Listed v) (ht : ∀ s ∈ outer, IsTrailStep s) :
    ∃ trails, (walk (Path.itemPath (written outer)) (outer.length + 1) .items v).Lists
      (outer ++ [.wildcard]) v trails := by
  have hv := h (outer ++ [.wildcard]) (Instance.isTrailStep_append ht .wildcard trivial)
  rwa [← Instance.itemPath_eq rfl ht, Key.ofTrail_concat_wildcard, List.length_append] at hv

theorem Walk.Lists.below {w : Walk} (h : w.Lists (outer ++ [sel]) v trails)
    (hpart : part? sel fragment = some v) :
    w.ListsBelow outer fragment [sel] (trails.map (sel :: ·)) where
  toAlong := h.toAlong.within hpart
  starts := by
    intro trail htrail
    obtain ⟨later, _, rfl⟩ := List.mem_map.mp htrail
    exact ⟨sel, List.mem_singleton_self sel, later, rfl⟩
  complete := by
    intro hnone sel' hsel trail hsome
    obtain rfl := List.mem_singleton.mp hsel
    rw [fragmentAt?, hpart] at hsome
    exact List.mem_map_of_mem (h.complete hnone trail hsome)

/-- The walk of properties, the later ones of all that the fragment declares. -/
theorem walkEach_lists {before : Fields} (hps : properties? fragment = some (before ++ properties))
    (hk : (Fields.keys (before ++ properties)).Nodup) (ht : ∀ s ∈ outer, IsTrailStep s)
    (h : ∀ p ∈ properties, Listed p.2) :
    ∃ trails, (walkEach (written outer) outer.length properties).ListsBelow outer fragment
      (Path.members (Fields.keys properties)) trails := by
  induction properties generalizing before with
  | nil => exact ⟨[], ⟨.nil, .nil⟩, by simp, by simp [Fields.keys, Path.members]⟩
  | cons property rest ih =>
      obtain ⟨name, v⟩ := property
      obtain ⟨hv, hrest⟩ := List.forall_mem_cons.mp h
      have hsplit : before ++ (name, v) :: rest = (before ++ [(name, v)]) ++ rest := by simp
      have hget : Fields.get? name (before ++ (name, v) :: rest) = some v :=
        Fields.get?_of_mem hk (by simp)
      have hpart : part? (.child name) fragment = some v := by
        rw [part?, hps]
        exact hget
      obtain ⟨first, hfirst⟩ := hv.child ht name
      obtain ⟨later, hlater⟩ := ih (hsplit ▸ hps) (hsplit ▸ hk) hrest
      have hbelow := hfirst.below hpart
      have hstarts : ∀ trail ∈ first.map (Selector.child name :: ·),
          ∃ sel ∈ Path.members (Fields.keys ((name, v) :: rest)), ∃ t, trail = sel :: t := by
        intro trail htrail
        obtain ⟨t, _, rfl⟩ := List.mem_map.mp htrail
        exact ⟨.child name, List.mem_cons_self, t, rfl⟩
      rw [walkEach, Walk.andThen]
      split
      -- After a fault nothing is walked, and nothing is claimed of the properties that are left.
      · rename_i fault hfault
        exact ⟨_, hbelow.toAlong, hstarts, fun hnone => by rw [hfault] at hnone; cases hnone⟩
      · rename_i hnone
        refine ⟨first.map (.child name :: ·) ++ later, ?_, ?_, ?_⟩
        · refine hbelow.toAlong.append hlater.toAlong ?_ _
          intro trail htrail trail' htrail'
          obtain ⟨t, _, rfl⟩ := List.mem_map.mp htrail
          obtain ⟨sel', hsel', t', rfl⟩ := hlater.starts trail' htrail'
          obtain ⟨name', hname', rfl⟩ := List.mem_map.mp hsel'
          refine .earlier hps ?_ t t'
          simp only [Fields.keys, List.map_append, List.map_cons]
          exact (List.cons_sublist_cons.mpr (List.singleton_sublist.mpr hname')).trans
            (List.sublist_append_right _ _)
        · intro trail htrail
          rcases List.mem_append.mp htrail with htrail | htrail
          · exact hstarts trail htrail
          · obtain ⟨sel', hsel', t, rfl⟩ := hlater.starts trail htrail
            exact ⟨sel', List.mem_cons_of_mem _ hsel', t, rfl⟩
        · intro hdone sel' hsel' t hsome
          rcases List.mem_cons.mp hsel' with rfl | hsel'
          · exact List.mem_append_left _ (hbelow.complete hnone _ (by simp) t hsome)
          · exact List.mem_append_right _ (hlater.complete hdone sel' hsel' t hsome)

theorem Walk.ListsBelow.cons {w : Walk} {sels : List Selector}
    (h : w.ListsBelow outer fragment sels trails)
    (hall : w.fault = none → ∀ sel u, part? sel fragment = some u → sel ∈ sels) :
    Walk.Lists ⟨⟨written outer, outer.length, Key.ofTrail outer, fragment⟩ :: w.entries, w.fault⟩
      outer fragment ([] :: trails) where
  entries := .cons ⟨by simp, by simp, by simp, rfl⟩ h.entries
  ordered := by
    refine List.pairwise_cons.mpr ⟨?_, h.ordered⟩
    intro trail htrail
    obtain ⟨sel, _, later, rfl⟩ := h.starts trail htrail
    exact .parent fragment sel later
  complete := by
    intro hnone trail hsome
    cases trail with
    | nil => exact List.mem_cons_self
    | cons sel trail =>
        obtain ⟨w, hw⟩ := Option.isSome_iff_exists.mp hsome
        obtain ⟨u, hu, _⟩ := Option.bind_eq_some_iff.mp hw
        exact List.mem_cons_of_mem _ (h.complete hnone sel (hall hnone sel u hu) trail hsome)

theorem Walk.listsBelow_nil (fault : Option WalkFault) :
    Walk.ListsBelow ⟨[], fault⟩ outer fragment [] [] where
  entries := .nil
  ordered := .nil
  starts := by simp
  complete := by simp

/-- A fragment is listed when all that it describes is. -/
theorem Listed.of_parts (hk : v.hasDistinctKeys = true)
    (hproperties : ∀ ps, properties? v = some ps → ∀ p ∈ ps, Listed p.2)
    (hitems : ∀ w, items? v = some w → Listed w) : Listed v := by
  intro outer ht
  cases v with
  | object fields =>
      unfold walk
      split
      · rename_i htype
        rw [walkProperties_eq]
        split
        · rename_i ps hget
          have hps : properties? (.object fields) = some ([] ++ ps) := by
            rw [properties?, if_pos htype, hget]
            rfl
          have hnodup := (Value.hasDistinctKeys_object.mp (hasDistinctKeys_properties? hk hps)).1
          obtain ⟨trails, h⟩ := walkEach_lists hps hnodup ht (hproperties ps hps)
          refine ⟨_, h.cons fun _ sel u hu => ?_⟩
          rcases part?_eq_some hu with ⟨name, ps', rfl, hps', hw⟩ | ⟨rfl, hw⟩
          · obtain rfl := Option.some.inj (hps.symm.trans hps')
            exact List.mem_map_of_mem (List.mem_map_of_mem (Fields.mem_of_get? hw))
          · exact absurd (typeName?_of_items? hw) (by simp [htype])
        · exact ⟨_, (Walk.listsBelow_nil _).cons fun hnone => by cases hnone⟩
      · rename_i htype
        rw [walkItems_eq]
        split
        · rename_i items hget
          have hpart : part? .wildcard (.object fields) = some (.object items) := by
            rw [part?, items?, if_pos htype, hget]
            rfl
          obtain ⟨trails, h⟩ := (hitems _ hpart).items ht
          refine ⟨_, (h.below hpart).cons fun _ sel u hu => ?_⟩
          rcases part?_eq_some hu with ⟨name, ps, rfl, hps, _⟩ | ⟨rfl, _⟩
          · exact absurd (typeName?_of_properties? hps) (by simp [htype])
          · exact List.mem_singleton_self _
        · exact ⟨_, (Walk.listsBelow_nil _).cons fun hnone => by cases hnone⟩
      · rename_i hobject harray
        refine ⟨_, (Walk.listsBelow_nil _).cons fun _ sel u hu => ?_⟩
        rcases part?_eq_some hu with ⟨name, ps, rfl, hps, _⟩ | ⟨rfl, hw⟩
        · exact absurd (typeName?_of_properties? hps) hobject
        · exact absurd (typeName?_of_items? hw) harray
  | _ => exact ⟨[], ⟨.nil, .nil⟩, fun hnone => by cases hnone⟩

theorem listed (hk : v.hasDistinctKeys = true) : Listed v :=
  parts_induction (fun _ hk hproperties hitems => .of_parts hk hproperties hitems) hk

theorem entries_lists (hk : v.hasDistinctKeys = true) :
    ∃ trails, (entries v).Lists [] v trails :=
  listed hk [] (by simp)

/-! ## Entries and their trails -/

section Along

variable {walk : Walk}

theorem Walk.Along.isSome_fragmentAt? (h : walk.Along outer v trails) (ht : trail ∈ trails) :
    (fragmentAt? trail v).isSome = true := by
  obtain ⟨i, hi, rfl⟩ := List.getElem_of_mem ht
  have hlen := h.entries.length_eq
  exact Option.isSome_iff_exists.mpr ⟨_, (h.entries.get hi (by omega)).fragment_eq⟩

theorem Walk.Along.nodup (h : walk.Along outer v trails) (hk : v.hasDistinctKeys = true) :
    trails.Nodup := by
  refine List.Pairwise.imp ?_ h.ordered
  rintro trail _ hprecedes rfl
  exact Precedes.irrefl hk hprecedes

theorem Walk.Along.map_path (h : walk.Along [] v trails) :
    walk.entries.map Entry.path = trails.map written := by
  rw [← List.forall₂_eq_eq_eq, List.forall₂_map_left_iff, List.forall₂_map_right_iff]
  exact h.entries.flip.imp fun e trail he => he.path_eq

theorem Walk.Along.nodup_paths (h : walk.Along [] v trails) (hk : v.hasDistinctKeys = true) :
    (walk.entries.map Entry.path).Nodup := by
  rw [h.map_path]
  have hsteps : ∀ trail ∈ trails, ∀ s ∈ trail, s.IsStep := by
    intro trail ht s hs
    obtain ⟨w, hw⟩ := Option.isSome_iff_exists.mp (h.isSome_fragmentAt? ht)
    exact (isTrailStep_of_fragmentAt? hw s hs).isStep
  refine List.pairwise_map.mpr (List.Pairwise.imp_of_mem ?_ (h.nodup hk))
  intro trail later ht hlater hne heq
  exact hne (Path.written_injective (hsteps trail ht) (hsteps later hlater) heq)

end Along

end Recast.Schema
