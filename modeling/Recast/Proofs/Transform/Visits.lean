import Recast.Proofs.Outcome
import Recast.Proofs.Transform.Elements

/-!
# Visits of instances

While a document is transformed, an instance is visited inside some elements of the lists around it.
Its path is made concrete by the positions of these elements, and so is every path of a source that
begins with the path of their items.
-/

namespace Recast.Transform

open Input (BeginsAt Document Finding Scope below?_eq_none_of_not)
open Recast.Path
open Schema (Declared Descriptor Instance listFragment objectFragment scalarFragment)

variable {p : Place} {outer sels o trail : List Selector} {indices : List Nat} {names : List String}
variable {root i : Instance} {ruleSet path : String} {document : Document}

/-- The instance is walked at the place, inside the elements at the positions `indices`, the
outermost first. Positions wrap. -/
inductive Visits (root : Instance) (ruleSet : String) (document : Document) :
    Instance → Place → List Nat → Prop where
  | root : Visits root ruleSet document root (.start ruleSet document) []
  | property {d : Declared} {ps : List Instance} {i : Instance} {p : Place} {indices : List Nat}
      (h : Visits root ruleSet document (.object d ps) p indices) (hi : i ∈ ps) :
      Visits root ruleSet document i p indices
  | element {d : Declared} {items : Instance} {p : Place} {indices : List Nat}
      {base seed : Finding} {k : Nat} (h : Visits root ruleSet document (.array d items) p indices)
      (hbase : resolve p (.array d items) = .ok (some base)) (hseed : base.seeds[k]? = some seed) :
      Visits root ruleSet document items
        (p.enter items.path (elementPath (p.concrete d.path) (k % indexLimit)) seed)
        (indices ++ [k % indexLimit])

theorem Visits.within (hroot : root.Addressed []) (h : Visits root ruleSet document i p indices) :
    ∃ outer names, p.Within outer indices ∧ i.Addressed (outer ++ members names) := by
  induction h with
  | root => exact ⟨[], [], .outside ruleSet document, hroot⟩
  | @property d ps i p indices h hi ih =>
      obtain ⟨outer, names, hp, ho⟩ := ih
      cases ho with
      | object hd name_eq below =>
          refine ⟨outer, names ++ [i.key], hp, ?_⟩
          rw [members_append, ← List.append_assoc]
          exact below i hi
  | @element d items p indices base seed k h hbase hseed ih =>
      obtain ⟨outer, names, hp, ha⟩ := ih
      cases ha with
      | array hd below =>
          have hk : k % indexLimit < indexLimit := Nat.mod_lt k (by decide)
          refine ⟨_, [], hp.enter_items hd below.at seed hk, ?_⟩
          rw [append_members_nil]
          exact below

/-! ## Concrete paths -/

/-- The place is inside the elements at the positions `indices`, and every path of the instance at
the trail is made concrete by them. -/
structure ConcreteAt (trail : List Selector) (indices : List Nat) (i : Instance) (p : Place) : Prop
    where
  general : Denotes i.path trail
  /-- There is one position for every wildcard. -/
  depth_eq : depth trail = indices.length
  /-- The wildcards are replaced by the positions, in order. -/
  concrete : Denotes (p.concrete i.path) (fill trail indices)
  definite : ∀ s ∈ fill trail indices, (∃ name, s = .child name) ∨ ∃ k, s = .index k
  elements : p.elements = (itemTrails trail).reverse.map (Element.ofTrail indices)
  scopes : p.input.scopes.map Scope.path = p.elements.map Element.concrete
  /-- Every scope continues those around it; the innermost comes first. -/
  nested : p.input.scopes.Pairwise fun inner outer =>
    ∃ rest : String, rest ≠ "" ∧ inner.path = outer.path ++ rest ∧ AtBreak rest.toList
  /-- A path that begins with the path of items of a list around the instance is filled in along
  the longest such path, and its other steps are kept. -/
  sources : ∀ path sels, Denotes path sels → ∀ o ∈ itemTrails trail, BeginsAt path o →
    (∀ o' ∈ itemTrails trail, BeginsAt path o' → o'.length ≤ o.length) →
    ∃ later, sels = o ++ later ∧ Denotes (p.concrete path) (fill o indices ++ later)
  /-- Any other path stays as it is. -/
  others : ∀ path, (∀ o ∈ itemTrails trail, ¬ BeginsAt path o) → p.concrete path = path
  /-- Every path of a source of the instance can be read. -/
  readable : ∀ rule ∈ i.declared.rules, ∀ s ∈ rule.2.sources, ∀ path ∈ s.path,
    ∃ sels, Denotes path sels

namespace Place.Within

theorem concrete_source (h : p.Within outer indices) (hp : Denotes path sels)
    (ho : o ∈ itemTrails outer) (hb : BeginsAt path o)
    (hlongest : ∀ o' ∈ itemTrails outer, BeginsAt path o' → o'.length ≤ o.length) :
    ∃ later, sels = o ++ later ∧ Denotes (p.concrete path) (fill o indices ++ later) := by
  obtain ⟨o', left, hl⟩ := h.exists_leavesAt hp
  have hle : o'.length ≤ o.length := by
    rcases hl.trail with rfl | ho'
    · exact Nat.zero_le _
    · exact hlongest o' ho' ⟨left, hl.path_eq, hl.atBreak⟩
  obtain rfl : o = o' := (hl.longest o ho hb).eq_of_length_le hle
  exact hl.denotes_concrete h hp

/-- The element at the end of a longer trail of items is written behind that of a shorter one. -/
theorem concrete_append (h : p.Within outer indices) {more : List Selector}
    (ho : o ++ more ∈ itemTrails outer) (hne : more ≠ []) :
    ∃ rest : String, rest ≠ "" ∧
      (Element.ofTrail indices (o ++ more)).concrete =
        (Element.ofTrail indices o).concrete ++ rest ∧ AtBreak rest.toList := by
  have hc := h.isConcrete_fill_of_mem ho
  rw [fill_append_drop] at hc
  have hmore : ∀ s ∈ fill more (indices.drop (depth o)), s.IsStep :=
    fun s hs => (hc s (List.mem_append_right _ hs)).1
  refine ⟨selectorsText false (fill more (indices.drop (depth o))), ?_, ?_, ?_⟩
  · cases hf : fill more (indices.drop (depth o)) with
    | nil =>
        have hlen := length_fill more (indices.drop (depth o))
        rw [hf] at hlen
        exact absurd (List.length_eq_zero_iff.mp hlen.symm) hne
    | cons sel sels =>
        rw [hf] at hmore
        obtain ⟨c, hc, _⟩ := getLast?_text (hmore sel (by simp))
        rw [selectorsText_cons (hmore sel (by simp))]
        intro he
        have htext := congrArg String.toList he
        rw [String.toList_append, String.toList_empty, List.append_eq_nil_iff] at htext
        rw [htext.1] at hc
        cases hc
  · show written (fill (o ++ more) indices) = written (fill o indices) ++ _
    rw [fill_append_drop]
    exact Path.written_append (fun s hs => (hc s (List.mem_append_left _ hs)).1) _
  · simpa using atBreak_selectorsText hmore AtBreak.nil

theorem scopes_nested (h : p.Within outer indices) : p.input.scopes.Pairwise fun inner outer =>
    ∃ rest : String, rest ≠ "" ∧ inner.path = outer.path ++ rest ∧ AtBreak rest.toList := by
  have key : (p.input.scopes.map Scope.path).Pairwise fun inner outer : String =>
      ∃ rest : String, rest ≠ "" ∧ inner = outer ++ rest ∧ AtBreak rest.toList := by
    rw [h.scopes_path, h.elements_eq_ofTrail, List.map_map, List.pairwise_map,
      List.pairwise_reverse]
    refine (itemTrails_pairwise outer).imp_of_mem ?_
    rintro o o' ho ho' ⟨more, hne, rfl⟩
    exact h.concrete_append ho' hne
  exact List.pairwise_map.mp key

theorem concreteAt (h : p.Within outer indices) (hi : i.declared.At (outer ++ members names)) :
    ConcreteAt (outer ++ members names) indices i p := by
  have hms := isConcrete_members names
  have hsteps : ∀ s ∈ outer ++ members names, s.IsStep := by
    intro s hs
    rcases List.mem_append.mp hs with hs | hs
    · exact h.isStep s hs
    · exact (hms s hs).1
  have hfill : fill (outer ++ members names) indices = fill outer indices ++ members names := by
    have hf := fill_append h.depth_eq (members names) []
    rwa [List.append_nil, fill_nil] at hf
  have hconcrete := h.isConcrete_fill_append names
  refine
    { general := ?general, depth_eq := ?depth, concrete := ?concrete, definite := ?definite,
      elements := ?elements, scopes := h.scopes_path, nested := h.scopes_nested,
      sources := ?sources, others := ?others, readable := hi.readable }
  case general =>
    rw [Instance.path, hi.path_eq]
    exact denotes_written hsteps
  case depth => rw [depth_append, depth_members, Nat.add_zero, h.depth_eq]
  case concrete =>
    rw [Instance.path, hi.path_eq, h.concrete_written, hfill]
    exact denotes_written fun s hs => (hconcrete s hs).1
  case definite =>
    rw [hfill]
    intro s hs
    have hsome := (hconcrete s hs).2
    cases s with
    | child name => exact Or.inl ⟨name, rfl⟩
    | index k => exact Or.inr ⟨k, rfl⟩
    | _ => cases hsome
  case elements => rw [itemTrails_append_members, h.elements_eq_ofTrail]
  case sources =>
    rw [itemTrails_append_members]
    exact fun path sels hp o ho hb hlongest => h.concrete_source hp ho hb hlongest
  case others =>
    rw [itemTrails_append_members]
    exact fun path hnone => h.concrete_of_none fun o ho => below?_eq_none_of_not (hnone o ho)

end Place.Within

/-- Whenever an instance of a schema is visited, its path and the paths of sources are made concrete
by the positions of the elements around it. -/
theorem visits_concreteAt (schema : Json.Value) {d : Descriptor}
    (hread : Descriptor.read schema = .ok d) (ruleSet : String) (document : Document)
    (h : Visits d.root ruleSet document i p indices) :
    ∃ trail, i.Addressed trail ∧ ConcreteAt trail indices i p := by
  obtain ⟨outer, names, hp, hi⟩ := h.within (Descriptor.root_addressed hread)
  exact ⟨outer ++ members names, hi, hp.concreteAt hi.at⟩

/-- The items of lists in a list, below a property whose name looks like the step to items. -/
theorem visits_concreteAt_nested :
    let schema : Json.Value :=
      objectFragment [("[*]", listFragment (listFragment (scalarFragment "string")))]
    let document : Document := .json (.object
      [("[*]", .array [.array [], .array [.string "a", .string "b", .string "c"]])])
    let cell : Instance := .scalar ⟨"$['[*]'][*][*]", none, none, [], []⟩ .string
    let row : Instance := .array ⟨"$['[*]'][*]", none, none, [], []⟩ cell
    let rows : Instance := .array ⟨"$['[*]']", some "[*]", none, [], []⟩ row
    let root : Instance := .object ⟨"$", none, none, [], []⟩ [rows]
    ∃ p, Descriptor.read schema = .ok ⟨root, schema⟩ ∧
      Visits root "main" document cell p [1, 2] ∧ p.concrete cell.path = "$['[*]'][1][2]" ∧
      ∃ trail, cell.Addressed trail ∧ ConcreteAt trail [1, 2] cell p := by
  intro schema document cell row rows root
  have hrows : Visits root "main" document rows _ [] :=
    .property .root (List.mem_singleton.mpr rfl)
  have hrow : Visits root "main" document row _ ([] ++ [1 % indexLimit]) :=
    .element hrows (by dsimp only [document, rows, row, cell]; rfl) (by rfl)
  have hcell : Visits root "main" document cell _ ([1] ++ [2 % indexLimit]) :=
    .element hrow (by dsimp only [document, rows, row, cell]; rfl) (by rfl)
  exact ⟨_, rfl, hcell, by decide +kernel, visits_concreteAt schema rfl "main" document hcell⟩

end Recast.Transform
