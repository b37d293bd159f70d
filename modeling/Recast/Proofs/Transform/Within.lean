import Recast.Proofs.Input.Lookup
import Recast.Proofs.Schema.Instance
import Recast.Transform.Resolve

/-!
# Places inside lists

A place inside lists has the canonical path of the items of every list around it, and the same path
with the indices of the elements. So the path of an instance is made concrete exactly, every path of
a source stays readable, and an instance is looked up in the innermost element.
-/

namespace Recast.Transform

open Input (Context Finding LookupFault Scope below? below?_denotes below?_eq_some_iff below?_written)
open Recast.Path
open Schema (Declared Instance)

variable {p : Place} {outer sels : List Selector} {indices : List Nat} {names : List String}

/-! ## Places -/

/-- The place is inside elements of lists: `outer` leads to the items of the innermost list, and
`indices` are the positions of the elements, the outermost first. -/
inductive Place.Within : Place → List Selector → List Nat → Prop where
  | outside (ruleSet : String) (document : Input.Document) :
      Place.Within (.start ruleSet document) [] []
  | element {p : Place} {outer : List Selector} {indices : List Nat} (names : List String)
      {i : Nat} (seed : Finding) (h : Place.Within p outer indices) (hi : i < indexLimit) :
      Place.Within
        (p.enter (written (outer ++ members names ++ [.wildcard]))
          (written (fill outer indices ++ members names ++ [.index i])) seed)
        (outer ++ members names ++ [.wildcard]) (indices ++ [i])

/-- How some steps are looked up in the innermost element, or in the document outside of lists. -/
def lookupNearest (c : Context) (sels : List Selector) : Except LookupFault (Option Finding) :=
  match c.scopes with
  | [] => Context.inDocument ⟨.document, sels⟩ c.document
  | s :: _ => Context.inSeed ⟨.document, sels⟩ s.seed

/-- What some steps find there. -/
def nearest (c : Context) (sels : List Selector) : Option Finding :=
  (lookupNearest c sels).toOption.join

theorem nearest_eq {c : Context} {found : Option Finding} (h : lookupNearest c sels = .ok found) :
    nearest c sels = found := by
  rw [nearest, h]
  rfl

theorem lookupNearest_members (c : Context) (names : List String) :
    lookupNearest c (members names) = .ok (nearest c (members names)) := by
  obtain ⟨found, h⟩ : ∃ found, lookupNearest c (members names) = .ok found := by
    unfold lookupNearest
    split
    · exact Context.inDocument_members_ok names _
    · exact Context.inSeed_members_ok names _
  rw [nearest_eq h, h]

/-- Paths below the innermost element, or of the document, are looked up in the value. -/
def HasBase (c : Context) (base : Json.Value) : Prop :=
  ∀ sels, nearest c sels = Context.inValue ⟨.document, sels⟩ base

namespace Place.Within

theorem isTrailStep (h : p.Within outer indices) : ∀ s ∈ outer, IsTrailStep s := by
  induction h with
  | outside => simp
  | element names seed h hi ih =>
      intro s hs
      simp only [List.mem_append, List.mem_singleton] at hs
      rcases hs with (hs | hs) | rfl
      · exact ih s hs
      · exact isTrailStep_members names s hs
      · trivial

theorem isStep (h : p.Within outer indices) : ∀ s ∈ outer, s.IsStep :=
  fun s hs => (h.isTrailStep s hs).isStep

theorem depth_eq (h : p.Within outer indices) : depth outer = indices.length := by
  induction h with
  | outside => rfl
  | element names seed h hi ih =>
      have hm := depth_members names
      simp only [depth] at ih hm
      simp [depth, ih, hm]

theorem index_lt (h : p.Within outer indices) : ∀ k ∈ indices, k < indexLimit := by
  induction h with
  | outside => simp
  | element names seed h hi ih =>
      intro k hk
      rcases List.mem_append.mp hk with hk | hk
      · exact ih k hk
      · exact List.mem_singleton.mp hk ▸ hi

/-- The path of the element, as the wildcards of the path of the items are filled in. -/
theorem fill_element (h : p.Within outer indices) (names : List String) (i : Nat) :
    fill (outer ++ members names ++ [.wildcard]) (indices ++ [i]) =
      fill outer indices ++ members names ++ [.index i] := by
  have hd : depth (outer ++ members names) = indices.length := by
    have hm := depth_members names
    have ho := h.depth_eq
    simp only [depth] at ho hm
    simp [depth, ho, hm]
  have hf := fill_append h.depth_eq (members names) []
  rw [List.append_nil, fill_nil] at hf
  rw [fill_append hd, hf]
  rfl

theorem isConcrete_fill (h : p.Within outer indices) : ∀ s ∈ fill outer indices, IsConcrete s := by
  induction h with
  | outside => simp [fill]
  | element names seed h hi ih =>
      intro s hs
      rw [h.fill_element] at hs
      simp only [List.mem_append, List.mem_singleton] at hs
      rcases hs with (hs | hs) | rfl
      · exact ih s hs
      · exact isConcrete_members names s hs
      · exact ⟨hi, rfl⟩

theorem isConcrete_fill_append (h : p.Within outer indices) (names : List String) :
    ∀ s ∈ fill outer indices ++ members names, IsConcrete s := by
  intro s hs
  rcases List.mem_append.mp hs with hs | hs
  · exact h.isConcrete_fill s hs
  · exact isConcrete_members names s hs

theorem isStep_fill (h : p.Within outer indices) : ∀ s ∈ fill outer indices, s.IsStep :=
  fun s hs => (h.isConcrete_fill s hs).1

/-! ## Concrete paths -/

/-- The innermost element, if there is one, stands for the whole trail. -/
theorem elements_eq (h : p.Within outer indices) :
    (p.elements = [] ∧ outer = [] ∧ indices = []) ∨
      ∃ rest, p.elements = ⟨written outer, written (fill outer indices)⟩ :: rest := by
  cases h with
  | outside => exact Or.inl ⟨rfl, rfl, rfl⟩
  | element names seed h hi =>
      rw [h.fill_element]
      exact Or.inr ⟨_, rfl⟩

theorem general_eq (h : p.Within outer indices) : ∀ e ∈ p.elements,
    ∃ sels, e.general = written sels ∧ (∀ s ∈ sels, s.IsStep) ∧ .wildcard ∈ sels := by
  induction h with
  | outside => simp [Place.start]
  | element names seed h hi ih =>
      intro e he
      rcases List.mem_cons.mp he with rfl | he
      · exact ⟨_, rfl, (Within.element names seed h hi).isStep, by simp⟩
      · exact ih e he

theorem concrete_eq (h : p.Within outer indices) : ∀ e ∈ p.elements,
    ∃ sels, e.concrete = written sels ∧ ∀ s ∈ sels, IsConcrete s := by
  induction h with
  | outside => simp [Place.start]
  | element names seed h hi ih =>
      intro e he
      rcases List.mem_cons.mp he with rfl | he
      · refine ⟨_, rfl, ?_⟩
        rw [← h.fill_element]
        exact (Within.element names seed h hi).isConcrete_fill
      · exact ih e he

/-- No path without wildcards is at or below the items of a list. -/
theorem substitute_eq_self {path : String} {e : Element} (hg : e.general = written outer)
    (ho : ∀ s ∈ outer, s.IsStep) (hw : .wildcard ∈ outer) (hp : Denotes path sels)
    (hs : ∀ s ∈ sels, IsConcrete s) : substitute path e = path := by
  unfold substitute
  split
  · rename_i rest hb
    rw [hg] at hb
    obtain ⟨later, rfl, _⟩ := below?_denotes ho hp hb
    have hc := hs .wildcard (List.mem_append_left _ hw)
    cases hc.2
  · rfl

theorem foldl_substitute_eq_self {path : String} {es : List Element}
    (he : ∀ e ∈ es, ∃ outer, e.general = written outer ∧ (∀ s ∈ outer, s.IsStep) ∧ .wildcard ∈ outer)
    (hp : Denotes path sels) (hs : ∀ s ∈ sels, IsConcrete s) : es.foldl substitute path = path := by
  induction es with
  | nil => rfl
  | cons e es ih =>
      obtain ⟨outer, hg, ho, hw⟩ := he e (by simp)
      rw [List.foldl_cons, substitute_eq_self hg ho hw hp hs]
      exact ih fun e' he' => he e' (by simp [he'])

/-- The path of an instance, below the items of the innermost list, becomes the path of the
element with the same steps below it. -/
theorem concrete_written (h : p.Within outer indices) (names : List String) :
    p.concrete (written (outer ++ members names)) =
      written (fill outer indices ++ members names) := by
  have hm := isConcrete_members names
  have hms : ∀ s ∈ members names, s.IsStep := fun s hs => (hm s hs).1
  have hc := h.isConcrete_fill_append names
  rcases h.elements_eq with ⟨he, rfl, rfl⟩ | ⟨rest, he⟩
  · simp [Place.concrete, he, fill]
  · have hsub : substitute (written (outer ++ members names))
        ⟨written outer, written (fill outer indices)⟩ =
          written (fill outer indices ++ members names) := by
      simp only [substitute, below?_written h.isStep hms]
      exact (Path.written_append h.isStep_fill _).symm
    -- The path is concrete after the innermost element, so that no element further out applies.
    rw [Place.concrete, he, List.foldl_cons, hsub]
    refine foldl_substitute_eq_self (fun e hrest => ?_) (denotes_written fun s hs => (hc s hs).1) hc
    exact h.general_eq e (by rw [he]; exact List.mem_cons_of_mem _ hrest)

/-- Where an instance is written. -/
theorem segments_eq (h : p.Within outer indices) {d : Declared}
    (hd : d.At (outer ++ members names)) :
    Tree.segments (p.concrete d.path) = .ok (treeSteps (fill outer indices ++ members names)) := by
  rw [hd.path_eq, h.concrete_written]
  exact segments_written (h.isConcrete_fill_append names)

/-- The place inside an element. -/
theorem enter_items (h : p.Within outer indices) {d d' : Declared}
    (hd : d.At (outer ++ members names)) (hd' : d'.At (outer ++ members names ++ [.wildcard]))
    (seed : Finding) {i : Nat} (hi : i < indexLimit) :
    (p.enter d'.path (elementPath (p.concrete d.path) i) seed).Within
      (outer ++ members names ++ [.wildcard]) (indices ++ [i]) := by
  have hsteps : ∀ s ∈ fill outer indices ++ members names, s.IsStep :=
    fun s hs => (h.isConcrete_fill_append names s hs).1
  rw [hd.path_eq, hd'.path_eq, h.concrete_written, elementPath_written hsteps]
  exact .element names seed h hi

/-- Where the value of an element is written. -/
theorem segments_element (h : p.Within outer indices) {d : Declared}
    (hd : d.At (outer ++ members names)) {i : Nat} (hi : i < indexLimit) :
    Tree.segments (elementPath (p.concrete d.path) i) =
      .ok (treeSteps (fill (outer ++ members names ++ [.wildcard]) (indices ++ [i]))) := by
  have hsteps : ∀ s ∈ fill outer indices ++ members names, s.IsStep :=
    fun s hs => (h.isConcrete_fill_append names s hs).1
  rw [hd.path_eq, h.concrete_written, elementPath_written hsteps, h.fill_element]
  refine segments_written fun s hs => ?_
  rcases List.mem_append.mp hs with hs | hs
  · exact h.isConcrete_fill_append names s hs
  · cases List.mem_singleton.mp hs
    exact ⟨hi, rfl⟩

/-- Inside an element the path of the items stands for the element. -/
theorem enter_concrete (h : p.Within outer indices) {d d' : Declared}
    (hd : d.At (outer ++ members names)) (hd' : d'.At (outer ++ members names ++ [.wildcard]))
    (seed : Finding) {i : Nat} (hi : i < indexLimit) :
    (p.enter d'.path (elementPath (p.concrete d.path) i) seed).concrete d'.path =
      elementPath (p.concrete d.path) i := by
  have hsteps : ∀ s ∈ fill outer indices ++ members names, s.IsStep :=
    fun s hs => (h.isConcrete_fill_append names s hs).1
  have hc := (h.enter_items hd hd' seed hi).concrete_written []
  rw [append_members_nil, append_members_nil, ← hd'.path_eq, h.fill_element] at hc
  rw [hc, hd.path_eq, h.concrete_written, elementPath_written hsteps]

theorem substitute_denotes {path : String} {e : Element} (hg : e.general = written outer)
    (ho : ∀ s ∈ outer, s.IsStep) {inner : List Selector} (hc : e.concrete = written inner)
    (hi : ∀ s ∈ inner, s.IsStep) (hp : Denotes path sels) :
    ∃ more, Denotes (substitute path e) more := by
  unfold substitute
  split
  · rename_i rest hb
    rw [hg] at hb
    obtain ⟨later, _, hl⟩ := below?_denotes ho hp hb
    have hbreak := (below?_eq_some_iff.mp hb).2
    exact ⟨inner ++ later, hc ▸ (Path.denotes_append_iff hi hbreak).mpr ⟨later, rfl, hl⟩⟩
  · exact ⟨sels, hp⟩

/-- A path that can be read can still be read when it is made concrete. -/
theorem concrete_denotes (h : p.Within outer indices) {path : String} (hp : Denotes path sels) :
    ∃ more, Denotes (p.concrete path) more := by
  -- Any elements of the place will do, since each of them leaves a path that can be read.
  have key : ∀ es : List Element, (∀ e ∈ es, e ∈ p.elements) → ∀ {path sels}, Denotes path sels →
      ∃ more, Denotes (es.foldl substitute path) more := by
    intro es
    induction es with
    | nil => exact fun _ path sels hp => ⟨sels, hp⟩
    | cons e es ih =>
        intro he path sels hp
        obtain ⟨outer, hg, ho, _⟩ := h.general_eq e (he e (by simp))
        obtain ⟨inner, hc, hi⟩ := h.concrete_eq e (he e (by simp))
        obtain ⟨more, hm⟩ := substitute_denotes hg ho hc (fun s hs => (hi s hs).1) hp
        exact ih (fun e' he' => he e' (by simp [he'])) hm
  exact key p.elements (fun _ he => he) hp

/-! ## Lookups -/

/-- The scopes of the input are the elements around the place. -/
theorem scopes_path (h : p.Within outer indices) :
    p.input.scopes.map Scope.path = p.elements.map Element.concrete := by
  induction h with
  | outside => rfl
  | element names seed h hi ih => simpa [Place.enter, Context.narrow] using ih

/-- An instance is looked up in the innermost element, at its path below the items. -/
theorem lookup_written (h : p.Within outer indices) (names : List String) :
    p.input.lookup (written (fill outer indices ++ members names)) =
      .ok (nearest p.input (members names)) := by
  have hms : ∀ s ∈ members names, s.IsStep := fun s hs => (isConcrete_members names s hs).1
  rw [← lookupNearest_members]
  cases h with
  | outside ruleSet document =>
      have hp := Context.readPath_eq_ok_iff.mpr (denotes_written hms).parse_eq
      simp only [fill, List.nil_append, Context.lookup, Place.start, Context.ofDocument,
        Context.scopeOf?, hp]
      rfl
  | element names' seed h hi =>
      have hw := Within.element names' seed h hi
      have hsteps := hw.isStep_fill
      rw [h.fill_element] at hsteps ⊢
      have hb := below?_written hsteps hms
      have hp : Context.readPath ("$" ++ selectorsText false (members names)) =
          .ok ⟨.document, members names⟩ :=
        Context.readPath_eq_ok_iff.mpr (denotes_written hms).parse_eq
      simp only [Place.enter, Context.narrow, Context.lookup, Context.scopeOf?, hb, hp]
      rfl

/-! ## Induction -/

/-- Induction over an instance, along the places that it and everything below it are resolved at. -/
@[elab_as_elim]
theorem induction
    {motive : Place → List Selector → List Nat → List String → Instance → Prop}
    (scalar : ∀ {p : Place} {outer : List Selector} {indices : List Nat} {names : List String}
      (d : Declared) (k : Scalar), p.Within outer indices → d.At (outer ++ members names) →
        motive p outer indices names (.scalar d k))
    (object : ∀ {p : Place} {outer : List Selector} {indices : List Nat} {names : List String}
      (d : Declared) (ps : List Instance), p.Within outer indices → d.At (outer ++ members names) →
        (∀ i ∈ ps, motive p outer indices (names ++ [i.key]) i) →
        motive p outer indices names (.object d ps))
    (array : ∀ {p : Place} {outer : List Selector} {indices : List Nat} {names : List String}
      (d : Declared) (items : Instance), p.Within outer indices → d.At (outer ++ members names) →
        (∀ (k : Nat) (seed : Finding), k < indexLimit →
          motive (p.enter items.path (elementPath (p.concrete d.path) k) seed)
            (outer ++ members names ++ [.wildcard]) (indices ++ [k]) [] items) →
        motive p outer indices names (.array d items))
    {i : Instance} (hp : p.Within outer indices) (hi : i.Addressed (outer ++ members names)) :
    motive p outer indices names i := by
  induction i using Instance.induction generalizing p outer indices names with
  | scalar d k => exact scalar d k hp hi.at
  | object d ps ih =>
      cases hi with
      | object hd name_eq below =>
          refine object d ps hp hd fun i hi => ih i hi hp ?_
          rw [members_append, ← List.append_assoc]
          exact below i hi
  | array d items ih =>
      cases hi with
      | array hd below =>
          refine array d items hp hd fun k seed hk => ih (hp.enter_items hd below.at seed hk) ?_
          rw [append_members_nil]
          exact below

end Place.Within

end Recast.Transform
