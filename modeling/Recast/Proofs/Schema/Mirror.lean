import Mathlib.Data.List.TakeWhile
import Recast.Proofs.Schema.Assembly
import Recast.Proofs.Schema.Refusal

/-!
# Instances and the entries of the walk

The tree that is read from a schema has the shape of the walk. The entries and the instances come in
the same order; below an entry, those one level deeper are the parts of its instance, and the paths
in their rules start at the object or list around them. A tree is read if and only if nothing in the
schema is refused.
-/

namespace Recast.Schema

open Json (Value Fields)
open Recast.Path (Selector written)

variable {e c : Entry} {i j : Instance} {ps : List Instance} {d : Declared} {kind : Kind}
variable {path parent place : String} {name : Option String} {fragment : Value} {fields : Fields}
variable {depth : Nat}

/-! ## What an entry says of its instance -/

def declaredKind? : Value → Option Kind
  | .object fields =>
    (typeName? fields).bind (Kind.ofName? · ((Fields.get? "format" fields).bind Value.string?))
  | _ => none

def ruleBlocks (fragment : Value) : Fields :=
  ((fragment.field? "transform").bind Value.object?).getD []

def declaredParts (fragment : Value) : List (Key × Value) :=
  ((properties? fragment).getD []).map (fun p => (.property p.1, p.2)) ++
    (items? fragment).toList.map fun items => (.items, items)

/-- The rule is the one that a block declares, with the place in its paths for a leading at sign. -/
structure Rule.Placed (place : String) (kind : Kind) (block : Value) (rule : Rule) : Prop where
  build_eq : Rule.build place kind block = .ok rule
  paths : ∃ d sources, RuleDeclaration.decode block = .ok d ∧ d.sources = some sources ∧
    List.Forall₂ (fun source kept => kept.path = source.path.map (expand · place))
      sources rule.sources

structure Entry.Lists (e : Entry) (i : Instance) : Prop where
  path_eq : i.path = e.path
  name_eq : i.declared.name = e.key.name?
  kind_eq : declaredKind? e.fragment = some i.kind

/-- The rules of the instance are those that the entry declares, and they are in the place. -/
def Entry.RulesAt (place : String) (e : Entry) (i : Instance) : Prop :=
  List.Forall₂ (fun block rule => rule.1 = block.1 ∧ Rule.Placed place i.kind block.2 rule.2)
    (ruleBlocks e.fragment) i.declared.rules

def Instance.parts : Instance → List Instance
  | .scalar .. => []
  | .object _ properties => properties
  | .array _ items => [items]

/-- The place around a part: the instance that has it, but items are themselves that place. -/
def placeOf (e c : Entry) : String :=
  match c.key with
  | .items => c.path
  | _ => e.path

theorem declaredKind?_of_readKind (h : readKind path fields = .ok kind) :
    declaredKind? (.object fields) = some kind := by
  unfold readKind at h
  split at h
  · cases h
  · rename_i type htype
    rw [declaredKind?, htype, Option.bind_some]
    split at h
    · rename_i hkind
      cases h
      exact hkind
    · cases h

theorem placed_of_build {block : Value} {rule : Rule} (h : Rule.build place kind block = .ok rule) :
    Rule.Placed place kind block rule := by
  obtain ⟨d, sources, hd, hsources, hbuilt, _, _⟩ := Rule.build_eq_ok h
  refine ⟨h, d, sources, hd, hsources, ?_⟩
  refine (forall₂_of_mapM_eq_ok hbuilt).imp fun source kept hbuild => ?_
  obtain ⟨hpath, _, _⟩ := Source.build_eq_ok hbuild
  cases hsource : source.path with
  | none =>
      rw [hsource] at hpath
      exact (Except.ok.inj hpath).symm
  | some declared =>
      rw [hsource] at hpath
      obtain ⟨stored, hstored, hstore⟩ := mapM_some_eq_ok hpath
      rw [hstored, (buildPath_eq_ok hstore).1, Option.map_some]

theorem placed_of_readRules {rules : List (String × Rule)}
    (h : readRules path parent kind fields = .ok rules) :
    List.Forall₂
      (fun block rule => rule.1 = block.1 ∧ Rule.Placed (enclosing path parent) kind block.2 rule.2)
      (ruleBlocks (.object fields)) rules := by
  rw [ruleBlocks, Value.field?]
  unfold readRules at h
  split at h
  · rename_i hget
    cases h
    rw [hget]
    exact .nil
  · rename_i blocks hget
    rw [hget]
    refine (forall₂_of_mapM_eq_ok h).imp fun block rule hrule => ?_
    dsimp only at hrule
    split at hrule
    · rename_i hbuild
      cases hrule
      exact ⟨rfl, placed_of_build hbuild⟩
    · cases hrule
  · cases h

theorem lists_of_read {key : Key} (hi : i.declared = d) (hkind : i.kind = kind)
    (hkey : key.name? = name) (h : Declared.read path parent name fields = .ok (d, kind)) :
    Entry.Lists ⟨path, depth, key, .object fields⟩ i := by
  obtain ⟨hreadKind, _, hpath, hname⟩ := Declared.read_eq_ok h
  refine ⟨?_, ?_, ?_⟩
  · rw [Instance.path, hi, hpath]
  · rw [hi, hname, hkey]
  · rw [hkind]
    exact declaredKind?_of_readKind hreadKind

theorem rulesAt_of_read {key : Key} (hi : i.declared = d) (hkind : i.kind = kind)
    (h : Declared.read path parent name fields = .ok (d, kind)) :
    Entry.RulesAt (enclosing path parent) ⟨path, depth, key, .object fields⟩ i := by
  obtain ⟨_, hrules, _, _⟩ := Declared.read_eq_ok h
  rw [Entry.RulesAt, hi, hkind]
  exact placed_of_readRules hrules

theorem enclosing_itemPath (parent around : String) :
    enclosing (Path.itemPath parent) around = Path.itemPath parent := by
  rw [enclosing, if_pos (isItemPath_itemPath parent)]

theorem enclosing_childPath (parent name around : String) :
    enclosing (Path.childPath parent name) around = around := by
  rw [enclosing, isItemPath_childPath]
  rfl

/-! ## Entries paired with instances -/

def onLevel (depth : Nat) (pairs : List (Entry × Instance)) : List (Entry × Instance) :=
  pairs.filter fun p => p.1.depth = depth

/-- Of what comes after an entry, the pairs one level deeper that are below it: they end with the
first that is no deeper than the entry. -/
def pairsBelow (e : Entry) (later : List (Entry × Instance)) : List (Entry × Instance) :=
  onLevel (e.depth + 1) (later.takeWhile fun p => e.depth < p.1.depth)

/-- The pairs are those of the parts `ps`, which are declared in the order of `declared`. -/
structure PartsOf (e : Entry) (declared : List (Key × Value)) (ps : List Instance)
    (pairs : List (Entry × Instance)) : Prop where
  instances : pairs.map Prod.snd = ps
  declared : pairs.map (fun p => (p.1.key, p.1.fragment)) = declared
  rules : ∀ p ∈ pairs, p.1.RulesAt (placeOf e p.1) p.2

/-- One level below every entry are the parts of its instance. -/
def Nested (pairs : List (Entry × Instance)) : Prop :=
  ∀ before e i later, pairs = before ++ (e, i) :: later →
    PartsOf e (declaredParts e.fragment) i.parts (pairsBelow e later)

structure Walk.Pairs (w : Walk) (is : List Instance) (pairs : List (Entry × Instance)) : Prop where
  fault_eq : w.fault = none
  entries_eq : w.entries = pairs.map Prod.fst
  instances_eq : is = pairs.map Prod.snd
  lists : ∀ p ∈ pairs, p.1.Lists p.2
  nested : Nested pairs

variable {pairs more later below : List (Entry × Instance)} {w w' : Walk}
variable {is is' : List Instance} {declared : List (Key × Value)}

theorem onLevel_append (depth : Nat) (pairs more : List (Entry × Instance)) :
    onLevel depth (pairs ++ more) = onLevel depth pairs ++ onLevel depth more :=
  List.filter_append ..

theorem onLevel_block {key : Key} (hbelow : ∀ p ∈ below, depth < p.1.depth) :
    onLevel depth ((⟨path, depth, key, fragment⟩, i) :: below) =
      [(⟨path, depth, key, fragment⟩, i)] := by
  have hnone : onLevel depth below = [] := by
    rw [onLevel, List.filter_eq_nil_iff]
    intro p hp
    have hdeeper := hbelow p hp
    rw [decide_eq_true_iff]
    omega
  rw [onLevel, List.filter_cons_of_pos (by simp)]
  exact congrArg _ hnone

theorem pairsBelow_append (h : ∀ q ∈ more.head?, q.1.depth ≤ e.depth) :
    pairsBelow e (later ++ more) = pairsBelow e later := by
  refine congrArg (onLevel _) ?_
  induction later with
  | nil =>
      cases more with
      | nil => rfl
      | cons q more =>
          have hq := h q rfl
          exact List.takeWhile_cons_of_neg (by simpa using hq)
  | cons p later ih =>
      rw [List.cons_append, List.takeWhile_cons, List.takeWhile_cons, ih]

theorem pairsBelow_eq_onLevel (h : ∀ p ∈ later, e.depth < p.1.depth) :
    pairsBelow e later = onLevel (e.depth + 1) later := by
  rw [pairsBelow, List.takeWhile_eq_self_iff.mpr (by simpa using h)]

theorem Nested.cons (h : Nested below) (hdeeper : ∀ p ∈ below, e.depth < p.1.depth)
    (hparts : PartsOf e (declaredParts e.fragment) i.parts (onLevel (e.depth + 1) below)) :
    Nested ((e, i) :: below) := by
  intro before e' i' later hsplit
  rcases List.cons_eq_append_iff.mp hsplit with ⟨rfl, heq⟩ | ⟨front, rfl, hbelow⟩
  · cases heq
    rwa [pairsBelow_eq_onLevel hdeeper]
  · exact h front e' i' later hbelow

theorem Nested.append (h : Nested pairs) (h' : Nested more)
    (hends : ∀ p ∈ pairs, ∀ q ∈ more.head?, q.1.depth ≤ p.1.depth) : Nested (pairs ++ more) := by
  intro before e i later hsplit
  rcases List.append_eq_append_iff.mp hsplit with ⟨middle, rfl, hmore⟩ | ⟨middle, rfl, hlater⟩
  · exact h' middle e i later hmore
  -- What is below a pair of the first list ends there: the second one begins no deeper.
  · rcases List.cons_eq_append_iff.mp hlater with ⟨rfl, hmore⟩ | ⟨behind, rfl, rfl⟩
    · exact h' [] e i later hmore
    · rw [pairsBelow_append (hends (e, i) (by simp))]
      exact h before e i behind rfl

theorem Walk.Pairs.cons (h : w.Pairs is below) (hlists : e.Lists i)
    (hdeeper : ∀ p ∈ below, e.depth < p.1.depth)
    (hparts : PartsOf e (declaredParts e.fragment) i.parts (onLevel (e.depth + 1) below)) :
    Walk.Pairs ⟨e :: w.entries, w.fault⟩ (i :: is) ((e, i) :: below) where
  fault_eq := h.fault_eq
  entries_eq := congrArg _ h.entries_eq
  instances_eq := congrArg _ h.instances_eq
  lists := List.forall_mem_cons.mpr ⟨hlists, h.lists⟩
  nested := h.nested.cons hdeeper hparts

theorem Walk.Pairs.andThen (h : w.Pairs is pairs) (h' : w'.Pairs is' more)
    (hends : ∀ p ∈ pairs, ∀ q ∈ more.head?, q.1.depth ≤ p.1.depth) :
    (w.andThen w').Pairs (is ++ is') (pairs ++ more) := by
  unfold Walk.andThen
  rw [h.fault_eq]
  refine ⟨h'.fault_eq, ?_, ?_, ?_, h.nested.append h'.nested hends⟩
  · rw [h.entries_eq, h'.entries_eq, List.map_append]
  · rw [h.instances_eq, h'.instances_eq, List.map_append]
  · exact List.forall_mem_append.mpr ⟨h.lists, h'.lists⟩

theorem Walk.Pairs.nil : Walk.Pairs ⟨[], none⟩ [] [] where
  fault_eq := rfl
  entries_eq := rfl
  instances_eq := rfl
  lists := List.forall_mem_nil _
  nested before e i later hsplit := by simp at hsplit

theorem PartsOf.nil : PartsOf e [] [] [] := ⟨rfl, rfl, List.forall_mem_nil _⟩

theorem PartsOf.cons (h : PartsOf e declared ps pairs) (hc : c.RulesAt place j)
    (hplace : placeOf e c = place) :
    PartsOf e ((c.key, c.fragment) :: declared) (j :: ps) ((c, j) :: pairs) where
  instances := congrArg _ h.instances
  declared := congrArg _ h.declared
  rules := List.forall_mem_cons.mpr ⟨hplace ▸ hc, h.rules⟩

/-! ## Parts that are declared -/

theorem declaredParts_object {properties : Fields} (htype : typeName? fields = some "object")
    (hget : Fields.get? "properties" fields = some (.object properties)) :
    declaredParts (.object fields) = properties.map fun p => (.property p.1, p.2) := by
  simp [declaredParts, properties?, items?, htype, hget, Value.object?]

theorem declaredParts_array {items : Fields} (htype : typeName? fields = some "array")
    (hget : Fields.get? "items" fields = some (.object items)) :
    declaredParts (.object fields) = [(.items, .object items)] := by
  simp [declaredParts, properties?, items?, htype, hget, Value.isObject]

theorem declaredParts_scalar {type : String} (htype : typeName? fields = some type)
    (hobject : type ≠ "object") (harray : type ≠ "array") :
    declaredParts (.object fields) = [] := by
  simp [declaredParts, properties?, items?, htype, hobject, harray]

namespace Instance

mutual

/-- The walk of a fragment pairs its entry with the instance that it describes, and what is below the
entry with what is below the instance. -/
theorem Describes.pairs {path parent : String} {name : Option String} {fragment : Value}
    {i : Instance} (h : Describes path parent name fragment i) (depth : Nat) (key : Key)
    (hkey : key.name? = name) :
    ∃ below,
      (walk path depth key fragment).Pairs i.all ((⟨path, depth, key, fragment⟩, i) :: below) ∧
      (∀ p ∈ below, depth < p.1.depth) ∧
      Entry.RulesAt (enclosing path parent) ⟨path, depth, key, fragment⟩ i := by
  match h with
  | .scalar hd =>
      obtain ⟨type, htype, hobject, harray⟩ := typeName?_of_read hd
      have hscalar : type ≠ "object" ∧ type ≠ "array" :=
        ⟨by simpa using hobject, by simpa using harray⟩
      refine ⟨[], ?_, List.forall_mem_nil _, rulesAt_of_read rfl rfl hd⟩
      rw [walk_scalar htype hscalar.1 hscalar.2, all]
      refine .cons .nil (lists_of_read rfl rfl hkey hd) (List.forall_mem_nil _) ?_
      rw [declaredParts_scalar htype hscalar.1 hscalar.2]
      exact .nil
  | @Describes.object path parent name fields properties d ps hd hget h =>
      obtain ⟨type, htype, hobject, _⟩ := typeName?_of_read hd
      obtain rfl := hobject.mp rfl
      obtain ⟨below, hbelow, hdeeper, _, hparts⟩ := h.pairs ⟨path, depth, key, .object fields⟩ rfl
      refine ⟨below, ?_, hdeeper, rulesAt_of_read rfl rfl hd⟩
      rw [walk_object htype hget, all]
      refine hbelow.cons (lists_of_read rfl rfl hkey hd) hdeeper ?_
      rw [declaredParts_object htype hget]
      exact hparts
  | @Describes.array path parent name fields v d items hd hget h =>
      obtain ⟨type, htype, _, harray⟩ := typeName?_of_read hd
      obtain rfl := harray.mp rfl
      obtain ⟨below, hbelow, hdeeper, hrules⟩ := h.pairs (depth + 1) .items rfl
      obtain ⟨inner, rfl⟩ := h.exists_fields
      have hitems : ∀ p ∈ (⟨Path.itemPath path, depth + 1, .items, .object inner⟩, items) :: below,
          depth < p.1.depth :=
        List.forall_mem_cons.mpr
          ⟨Nat.lt_succ_self depth, fun p hp => Nat.lt_of_succ_lt (hdeeper p hp)⟩
      refine ⟨_, ?_, hitems, rulesAt_of_read rfl rfl hd⟩
      rw [walk_array htype hget, all]
      refine hbelow.cons (lists_of_read rfl rfl hkey hd) hitems ?_
      -- The path of items ends in brackets, so their rules are in their own place.
      rw [declaredParts_array htype hget, onLevel_block hdeeper]
      rw [enclosing_itemPath] at hrules
      exact .cons .nil hrules rfl
termination_by structural h

theorem DescribesEach.pairs {path : String} {properties : Fields} {ps : List Instance}
    (h : DescribesEach path properties ps) (e : Entry) (he : e.path = path) :
    ∃ pairs, (walkEach path e.depth properties).Pairs (allOf ps) pairs ∧
      (∀ p ∈ pairs, e.depth < p.1.depth) ∧ (∀ p ∈ pairs.head?, p.1.depth = e.depth + 1) ∧
      PartsOf e (properties.map fun p => (.property p.1, p.2)) ps (onLevel (e.depth + 1) pairs) := by
  match h with
  | .nil => exact ⟨[], .nil, List.forall_mem_nil _, by simp, .nil⟩
  | @DescribesEach.cons path name v rest i ps h hps =>
      obtain ⟨below, hbelow, hdeeper, hrules⟩ := h.pairs (e.depth + 1) (.property name) rfl
      obtain ⟨pairs, hpairs, hdeeper', hhead, hparts⟩ := hps.pairs e he
      have hfirst : ∀ p ∈ (⟨Path.childPath path name, e.depth + 1, .property name, v⟩, i) :: below,
          e.depth < p.1.depth :=
        List.forall_mem_cons.mpr
          ⟨Nat.lt_succ_self e.depth, fun p hp => Nat.lt_of_succ_lt (hdeeper p hp)⟩
      refine ⟨_ ++ pairs, ?_, List.forall_mem_append.mpr ⟨hfirst, hdeeper'⟩, ?_, ?_⟩
      · rw [walkEach, allOf]
        refine hbelow.andThen hpairs fun p hp q hq => ?_
        rw [hhead q hq]
        exact hfirst p hp
      · intro p hp
        cases hp
        rfl
      · rw [enclosing_childPath] at hrules
        rw [onLevel_append, onLevel_block hdeeper]
        exact hparts.cons hrules he
termination_by structural h

end

end Instance

/-! ## Descriptors -/

structure Descriptor.Mirrors (d : Descriptor) (w : Walk) : Prop where
  fault_eq : w.fault = none
  listed : List.Forall₂ Entry.Lists w.entries d.instances
  root_rules : ∀ e ∈ w.entries.head?, e.RulesAt Path.rootPath d.root
  parts : Nested (w.entries.zip d.instances)

theorem Descriptor.mirrors {schema : Value} {d : Descriptor} (h : Descriptor.read schema = .ok d) :
    d.Mirrors (entries schema) := by
  have hroot := Instance.describes_of_read schema (Descriptor.read_root h)
  obtain ⟨below, hpairs, _, hrules⟩ := hroot.pairs 0 .root rfl
  have hinstances : d.instances = d.root.all := rfl
  refine ⟨hpairs.fault_eq, ?_, ?_, ?_⟩
  · rw [entries, hpairs.entries_eq, hinstances, hpairs.instances_eq, List.forall₂_map_left_iff,
      List.forall₂_map_right_iff, List.forall₂_same]
    exact hpairs.lists
  · intro e he
    rw [entries, hpairs.entries_eq] at he
    cases he
    exact hrules
  · rw [entries, hpairs.entries_eq, hinstances, hpairs.instances_eq, List.zip_map']
    simpa using hpairs.nested

/-- What is read from a schema is put together along its walk and has its shape. If nothing can be
read, the fault is that of the first instance that is refused. -/
theorem Descriptor.read_mirrors (schema : Value) (hk : schema.hasDistinctKeys = true) :
    assemble schema = (Descriptor.read schema).map (fun d => some (.ofInstance d.root)) ∧
      match Descriptor.read schema with
      | .ok d => d.Mirrors (entries schema) ∧ Accepted [] schema
      | .error fault => ∃ trail part, fragmentAt? trail schema = some part ∧
          refusal? trail part = some fault ∧ fault.path = written trail ∧
          ∀ earlier before, Precedes schema earlier trail →
            fragmentAt? earlier schema = some before → refusal? earlier before = none := by
  refine ⟨assemble_eq schema, ?_⟩
  cases hread : Descriptor.read schema with
  | ok d => exact ⟨Descriptor.mirrors hread, accepted_of_read hk (Descriptor.read_root hread)⟩
  | error fault =>
      obtain ⟨trail, part, hpart, hrefused, hfirst⟩ :=
        firstRefusal_of_read hk (Descriptor.read_eq_error hread)
      exact ⟨trail, part, hpart, hrefused, refusal?_path hrefused, hfirst⟩

def cartSchema : Value := objectFragment
  [("lines", listFragment (.object [("properties", .object
    [("sku", extended [ruleEntry "shop" "@.code"] (scalarFragment "string"))])])),
   ("note", scalarFragment "string")]

def typelessSchema : Value := .object [("properties", .object
  [("lines", listFragment (.object [])), ("note", scalarFragment "text")])]

theorem Descriptor.read_mirrors_cart :
    (∃ d, Descriptor.read cartSchema = .ok d ∧ d.Mirrors (entries cartSchema) ∧
      d.instances.map Instance.path = ["$", "$.lines", "$.lines[*]", "$.lines[*].sku", "$.note"]) ∧
      ∃ fault trail part, Descriptor.read typelessSchema = .error fault ∧
        fragmentAt? trail typelessSchema = some part ∧ refusal? trail part = some fault ∧
        fault.path = "$.lines[*]" := by
  refine ⟨⟨_, rfl, (read_mirrors cartSchema rfl).2.1, rfl⟩, ?_⟩
  obtain ⟨trail, part, hpart, hrefused, _⟩ := (read_mirrors typelessSchema rfl).2
  exact ⟨_, trail, part, rfl, hpart, hrefused, rfl⟩

end Recast.Schema
