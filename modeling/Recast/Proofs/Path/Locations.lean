import Recast.Proofs.Json.Location
import Recast.Proofs.Path.Select

/-!
# The locations that paths describe

A location leads through keys and indices to one place of a value. The selectors of a path describe
locations, and the path finds what stands at the locations that they describe.
-/

namespace Recast.Path

open Json (Fields Location Step Value)

variable {sel : Selector} {sels : List Selector} {v w : Value} {loc : Location}

/-! ## Locations that selectors describe -/

/-- The selector describes the step from a value; positions from the end are counted in the list
that the value is. -/
inductive Selector.Takes : Selector → Value → Step → Prop where
  | child (name : String) (v : Value) : Takes (.child name) v (.key name)
  | index (i : Nat) (v : Value) : Takes (.index i) v (.index i)
  | fromEnd {i : Nat} {items : List Value} (h : i ≤ items.length) :
      Takes (.fromEnd i) (.array items) (.index (items.length - i))
  | wildcard (v : Value) (s : Step) : Takes .wildcard v s

/-- The selectors describe the location in a value: each one a step, a descent any steps. -/
inductive Describes : List Selector → Value → Location → Prop where
  | nil (v : Value) : Describes [] v []
  | step {sel : Selector} {sels : List Selector} {v w : Value} {s : Step} {loc : Location}
      (h : sel.Takes v s) (hw : v.child? s = some w) (hrest : Describes sels w loc) :
      Describes (sel :: sels) v (s :: loc)
  | descent {sels : List Selector} {v w : Value} {front back : Location}
      (hw : v.at? front = some w) (hrest : Describes sels w back) :
      Describes (.descent :: sels) v (front ++ back)

/-! ## What is in a value -/

theorem mem_children (hk : v.hasDistinctKeys = true) :
    w ∈ children v ↔ ∃ s, v.child? s = some w := by
  constructor
  · intro h
    cases v with
    | array items =>
        obtain ⟨i, hi⟩ := List.mem_iff_getElem?.mp h
        exact ⟨.index i, hi⟩
    | object fields =>
        obtain ⟨⟨name, u⟩, hmem, rfl⟩ := List.mem_map.mp h
        exact ⟨.key name, Fields.get?_of_mem (Value.hasDistinctKeys_object.mp hk).1 hmem⟩
    | _ => cases h
  · rintro ⟨s, hs⟩
    cases s with
    | key name =>
        cases v with
        | object fields => exact List.mem_map.mpr ⟨_, Fields.mem_of_get? hs, rfl⟩
        | _ => cases hs
    | index i =>
        cases v with
        | array items => exact List.mem_of_getElem? hs
        | _ => cases hs

/-- Induction from what is in a value to the value. -/
@[elab_as_elim]
theorem children_induction {motive : Value → Prop}
    (step : ∀ v, (∀ u ∈ children v, motive u) → motive v) (v : Value) : motive v := by
  have hscalar : ∀ {v}, children v = [] → motive v := by
    intro v hv
    apply step
    simp [hv]
  refine @Value.rec motive (fun items => ∀ v ∈ items, motive v)
    (fun fields => ∀ field ∈ fields, motive field.2) (fun field => motive field.2)
    (hscalar rfl) (fun _ => hscalar rfl) (fun _ => hscalar rfl) (fun _ => hscalar rfl)
    ?array ?object ?nil ?cons ?noFields ?consFields (fun _ _ h => h) v
  case array =>
    intro items ih
    exact step _ ih
  case object =>
    intro fields ih
    refine step _ fun u hu => ?_
    obtain ⟨field, hfield, rfl⟩ := List.mem_map.mp hu
    exact ih field hfield
  case nil => simp
  case noFields => simp
  case cons =>
    intro v items hv hitems
    exact List.forall_mem_cons.mpr ⟨hv, hitems⟩
  case consFields =>
    intro field fields hfield hfields
    exact List.forall_mem_cons.mpr ⟨hfield, hfields⟩

theorem mem_descendants_iff :
    w ∈ descendants v ↔ w = v ∨ ∃ u ∈ children v, w ∈ descendants u := by
  cases v with
  | array items => simp [descendants, children, mem_itemDescendants]
  | object fields =>
      rw [descendants, List.mem_cons, mem_fieldDescendants, children]
      simp only [List.mem_map, exists_exists_and_eq_and]
  | _ => simp [descendants, children]

/-- A value and everything below it are what stands at its locations. -/
theorem mem_descendants (hk : v.hasDistinctKeys = true) :
    w ∈ descendants v ↔ ∃ loc, v.at? loc = some w := by
  induction v using children_induction with
  | step v ih =>
      rw [mem_descendants_iff]
      constructor
      · rintro (rfl | ⟨u, hu, hw⟩)
        · exact ⟨[], rfl⟩
        · obtain ⟨s, hs⟩ := (mem_children hk).mp hu
          obtain ⟨loc, hloc⟩ := (ih u hu (Value.hasDistinctKeys_child? hk hs)).mp hw
          exact ⟨s :: loc, Option.bind_eq_some_iff.mpr ⟨u, hs, hloc⟩⟩
      · rintro ⟨loc, hloc⟩
        cases loc with
        | nil => exact Or.inl (Option.some.inj hloc).symm
        | cons s loc =>
            obtain ⟨u, hs, hloc⟩ := Option.bind_eq_some_iff.mp hloc
            have hu := (mem_children hk).mpr ⟨s, hs⟩
            exact Or.inr ⟨u, hu, (ih u hu (Value.hasDistinctKeys_child? hk hs)).mpr ⟨loc, hloc⟩⟩

/-! ## What selectors find -/

/-- A selector other than a descent finds what the steps that it describes lead to. -/
theorem mem_select_step (hk : v.hasDistinctKeys = true) (hsel : sel ≠ .descent) :
    w ∈ sel.select v ↔ ∃ s, sel.Takes v s ∧ v.child? s = some w := by
  cases sel with
  | child name =>
      constructor
      · intro h
        refine ⟨.key name, .child name v, ?_⟩
        rw [Value.child?_key]
        exact Option.mem_toList.mp h
      · rintro ⟨s, ht, hw⟩
        cases ht with
        | child =>
            rw [Value.child?_key] at hw
            exact Option.mem_toList.mpr hw
  | index i =>
      constructor
      · intro h
        cases v with
        | array items => exact ⟨.index i, .index i _, Option.mem_toList.mp h⟩
        | _ => cases h
      · rintro ⟨s, ht, hw⟩
        cases ht with
        | index =>
            cases v with
            | array items => exact Option.mem_toList.mpr hw
            | _ => cases hw
  | fromEnd i =>
      constructor
      · intro h
        cases v with
        | array items =>
            rw [Selector.select] at h
            split at h
            · rename_i hi
              exact ⟨_, .fromEnd hi, Option.mem_toList.mp h⟩
            · cases h
        | _ => cases h
      · rintro ⟨s, ht, hw⟩
        cases ht with
        | fromEnd hi =>
            rw [Selector.select, if_pos hi]
            exact Option.mem_toList.mpr hw
  | wildcard =>
      rw [Selector.select, mem_children hk]
      constructor
      · rintro ⟨s, hs⟩
        exact ⟨s, .wildcard v s, hs⟩
      · rintro ⟨s, _, hs⟩
        exact ⟨s, hs⟩
  | descent => contradiction

/-- Selectors find what stands at the locations that they describe. -/
theorem mem_selectAll (hk : v.hasDistinctKeys = true) :
    w ∈ selectAll sels v ↔ ∃ loc, Describes sels v loc ∧ v.at? loc = some w := by
  induction sels generalizing v with
  | nil =>
      rw [stepwise.nil, List.mem_singleton]
      constructor
      · rintro rfl
        exact ⟨[], .nil w, rfl⟩
      · rintro ⟨loc, hd, hw⟩
        cases hd
        exact (Option.some.inj hw).symm
  | cons sel sels ih =>
      rw [stepwise.cons, List.mem_flatMap]
      -- A descent takes many steps at once, every other selector takes one.
      by_cases hsel : sel = .descent
      · subst hsel
        constructor
        · rintro ⟨u, hu, hw⟩
          obtain ⟨front, hfront⟩ := (mem_descendants hk).mp hu
          obtain ⟨back, hd, hback⟩ := (ih (Value.hasDistinctKeys_at? hk hfront)).mp hw
          refine ⟨front ++ back, .descent hfront hd, ?_⟩
          rw [Value.at?_append, hfront]
          exact hback
        · rintro ⟨loc, hd, hw⟩
          cases hd with
          | step ht => cases ht
          | @descent _ _ u front back hfront hd =>
              rw [Value.at?_append, hfront] at hw
              exact ⟨u, (mem_descendants hk).mpr ⟨front, hfront⟩,
                (ih (Value.hasDistinctKeys_at? hk hfront)).mpr ⟨back, hd, hw⟩⟩
      · constructor
        · rintro ⟨u, hu, hw⟩
          obtain ⟨s, ht, hs⟩ := (mem_select_step hk hsel).mp hu
          obtain ⟨loc, hd, hloc⟩ := (ih (Value.hasDistinctKeys_child? hk hs)).mp hw
          exact ⟨s :: loc, .step ht hs hd, Option.bind_eq_some_iff.mpr ⟨u, hs, hloc⟩⟩
        · rintro ⟨loc, hd, hw⟩
          cases hd with
          | @step _ _ _ u s loc ht hs hd =>
              obtain ⟨u', hs', hloc⟩ := Option.bind_eq_some_iff.mp hw
              obtain rfl := Option.some.inj (hs.symm.trans hs')
              exact ⟨u, (mem_select_step hk hsel).mpr ⟨s, ht, hs⟩,
                (ih (Value.hasDistinctKeys_child? hk hs)).mpr ⟨loc, hd, hloc⟩⟩
          | descent => exact absurd rfl hsel

/-- A definite selector finds one value or none. -/
theorem select_eq_toList (h : sel.isDefinite = true) (v : Value) :
    ∃ found : Option Value, sel.select v = found.toList := by
  cases sel with
  | child name => exact ⟨_, rfl⟩
  | index i =>
      cases v with
      | array items => exact ⟨_, rfl⟩
      | _ => exact ⟨none, rfl⟩
  | fromEnd i =>
      cases v with
      | array items =>
          rw [Selector.select]
          split
          · exact ⟨_, rfl⟩
          · exact ⟨none, rfl⟩
      | _ => exact ⟨none, rfl⟩
  | _ => cases h

theorem selectAll_eq_toList (h : sels.all Selector.isDefinite = true) (v : Value) :
    ∃ found : Option Value, selectAll sels v = found.toList := by
  induction sels generalizing v with
  | nil => exact ⟨some v, rfl⟩
  | cons sel sels ih =>
      rw [List.all_cons, Bool.and_eq_true] at h
      obtain ⟨first, hfirst⟩ := select_eq_toList h.1 v
      rw [stepwise.cons, hfirst]
      cases first with
      | none => exact ⟨none, rfl⟩
      | some u =>
          obtain ⟨found, hfound⟩ := ih h.2 u
          exact ⟨found, by simpa using hfound⟩

/-- A path finds exactly what stands at the locations that it describes; a definite one finds one
value at most. -/
theorem mem_select_iff :
    (∀ (p : Path) (v w : Value), v.hasDistinctKeys = true →
      (w ∈ p.select v ↔ ∃ loc, Describes p.selectors v loc ∧ v.at? loc = some w)) ∧
      ∀ (p : Path) (v : Value), p.isDefinite = true → (p.select v).length ≤ 1 := by
  refine ⟨fun p v w hk => mem_selectAll hk, fun p v h => ?_⟩
  obtain ⟨found, hfound⟩ := selectAll_eq_toList h v
  rw [select, hfound]
  exact Option.length_toList_le

/-- A list with a list in it, both below the same key. -/
def nestedLists : Value :=
  .object [("a", .array [.bool true, .object [("a", .array [.string "x", .null])]])]

theorem mem_select_iff_nested :
    nestedLists.hasDistinctKeys = true ∧
      parse "$..a[-2]" = .ok ⟨.document, [.descent, .child "a", .fromEnd 2]⟩ ∧
      (.string "x" ∈ select ⟨.document, [.descent, .child "a", .fromEnd 2]⟩ nestedLists ↔
        ∃ loc, Describes [.descent, .child "a", .fromEnd 2] nestedLists loc ∧
          nestedLists.at? loc = some (.string "x")) ∧
      Describes [.descent, .child "a", .fromEnd 2] nestedLists
        [.key "a", .index 1, .key "a", .index 0] ∧
      isDefinite ⟨.document, [.child "a", .fromEnd 2]⟩ = true ∧
      (select ⟨.document, [.child "a", .fromEnd 2]⟩ nestedLists).length ≤ 1 := by
  have hk : nestedLists.hasDistinctKeys = true := by decide
  have hdescribes : Describes [.descent, .child "a", .fromEnd 2] nestedLists
      ([.key "a", .index 1] ++ [.key "a", .index (2 - 2)]) :=
    .descent rfl (.step (.child _ _) rfl (.step (.fromEnd (by decide)) rfl (.nil _)))
  exact ⟨hk, rfl, mem_select_iff.1 _ _ _ hk, hdescribes, rfl, mem_select_iff.2 _ _ rfl⟩

end Recast.Path
