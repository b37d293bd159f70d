import Mathlib.Data.List.Perm.Basic
import Recast.Proofs.Transform.Writes

/-!
# Independent writes

Two writes whose paths part somewhere can change places: the trees are the same but for the order of
members. The one thing in the way is padding. A list that grows gets empty objects, and an empty
object is no list: a write that has to go on with an index in such a place can only come first.
-/

namespace Recast

open Json (Fields Location Step Value)

/-! ## Values with their members in another order -/

namespace Json

namespace Fields

variable {name other : String} {v w : Value}

theorem keys_put (name : String) (v : Value) (fields : Fields) :
    keys (put name v fields) = if name ∈ keys fields then keys fields else keys fields ++ [name] := by
  split
  · rename_i h
    exact keys_put_of_mem h
  · rename_i h
    rw [put_of_not_mem h]
    simp [keys]

theorem get?_put_comm (h : name ≠ other) (key : String) (fields : Fields) :
    get? key (put name v (put other w fields)) = get? key (put other w (put name v fields)) := by
  by_cases hn : key = name
  · subst hn
    rw [get?_put_self, get?_put_of_ne h, get?_put_self]
  · rw [get?_put_of_ne hn]
    by_cases ho : key = other
    · subst ho
      rw [get?_put_self, get?_put_self]
    · rw [get?_put_of_ne ho, get?_put_of_ne ho, get?_put_of_ne hn]

theorem keys_put_perm (h : name ≠ other) (fields : Fields) :
    (keys (put name v (put other w fields))).Perm (keys (put other w (put name v fields))) := by
  by_cases hn : name ∈ keys fields
  · by_cases ho : other ∈ keys fields <;> simp [keys_put, hn, ho]
  · by_cases ho : other ∈ keys fields
    · simp [keys_put, hn, ho]
    · have hswap := (List.Perm.swap name other []).append_left (keys fields)
      simpa [keys_put, hn, ho, h, h.symm] using hswap

end Fields

/-- The same value, but for the order of the members of its objects. -/
inductive Value.Reordered : Value → Value → Prop where
  | refl (v : Value) : Reordered v v
  | array {items items' : List Value} (hlength : items.length = items'.length)
      (h : ∀ (i : Nat) (v w : Value), items[i]? = some v → items'[i]? = some w → Reordered v w) :
      Reordered (.array items) (.array items')
  | object {fields fields' : Fields} (hkeys : (Fields.keys fields).Perm (Fields.keys fields'))
      (h : ∀ (name : String) (v w : Value), Fields.get? name fields = some v →
        Fields.get? name fields' = some w → Reordered v w) :
      Reordered (.object fields) (.object fields')

end Json

namespace Tree

variable {v w x y child : Value} {s t segment : Step} {front steps rest below place : Location}
  {tree tree' tree'' : Value} {p q : String}

/-! ## One step -/

/-- Whether two steps lead into containers of one kind. -/
def SameKind : Step → Step → Prop
  | .key _, .key _ => True
  | .index _, .index _ => True
  | _, _ => False

theorem SameKind.symm (h : SameKind s t) : SameKind t s := by
  cases s <;> cases t <;> exact h

/-- A step leads on from a tree that another step was made in, if they are of one kind. -/
theorem isSome_descend_ascend_iff (h : descend s tree = some x) (v : Value) :
    (descend t (ascend s v tree)).isSome = true ↔ SameKind s t := by
  rcases descend_eq_some h with ⟨name, fields, rfl, ho, _⟩ | ⟨i, items, rfl, ho, _⟩
  all_goals
    simp only [ascend, ho]
    cases t <;> simp [descend, opened, SameKind]

theorem isSome_descend (h : descend s tree = some x) (hkind : SameKind s t) :
    (descend t tree).isSome = true := by
  cases s <;> cases t <;> first | contradiction | (cases tree <;> simp_all [descend, opened])

theorem eq_child? (h : descend s tree = some x) : x = (tree.child? s).getD .null := by
  cases hc : tree.child? s with
  | some u => exact Option.some.inj (h.symm.trans (descend_of_child? hc))
  | none => exact descend_of_child?_none hc h

/-- Whether a step into a list makes an empty object in the place that another one leads to. -/
def Fills (s t : Step) (tree : Value) : Prop :=
  ∃ i j, s = .index i ∧ t = .index j ∧ j < i ∧ tree.child? t = none

/-- What another step finds after the first one: what it would have found, or a new empty object. -/
theorem descend_ascend_apart (h : descend s tree = some x) (hne : s ≠ t) (hkind : SameKind s t)
    (v : Value) :
    (¬ Fills s t tree ∧ descend t (ascend s v tree) = descend t tree) ∨
      (Fills s t tree ∧ descend t tree = some .null ∧
        descend t (ascend s v tree) = some (.object [])) := by
  obtain ⟨y, hy⟩ := Option.isSome_iff_exists.mp (isSome_descend h hkind)
  obtain ⟨y', hy'⟩ := Option.isSome_iff_exists.mp ((isSome_descend_ascend_iff h v).mpr hkind)
  rw [hy, hy', eq_child? hy, eq_child? hy']
  by_cases hfills : Fills s t tree
  · refine Or.inr ⟨hfills, ?_⟩
    obtain ⟨i, j, rfl, rfl, hj, hnew⟩ := hfills
    rw [child?_ascend_padding h hj hnew, hnew]
    exact ⟨rfl, rfl⟩
  · refine Or.inl ⟨hfills, ?_⟩
    rw [child?_ascend_of_ne h hne fun i j hi hj hlt hnew => hfills ⟨i, j, hi, hj, hlt, hnew⟩]

theorem getElem?_set_padded (i k : Nat) (v : Value) (items : List Value) :
    ((padded i items).set i v)[k]? =
      if k = i then some v
      else if items.length ≤ k ∧ k < i then some (.object []) else items[k]? := by
  by_cases hk : k = i
  · rw [if_pos hk, hk, List.getElem?_set_self (length_padded i items)]
  · rw [if_neg hk, List.getElem?_set_ne (Ne.symm hk), getElem?_padded_of_ne hk]

theorem length_set_padded (i : Nat) (v : Value) (items : List Value) :
    ((padded i items).set i v).length = max (i + 1) items.length := by
  unfold padded
  split
  · rw [List.length_set]
    omega
  · simp
    omega

theorem set_padded_comm {i j : Nat} (h : i ≠ j) (items : List Value) :
    (padded i ((padded j items).set j w)).set i v = (padded j ((padded i items).set i v)).set j w := by
  refine List.ext_getElem? fun k => ?_
  rw [getElem?_set_padded, getElem?_set_padded, getElem?_set_padded, getElem?_set_padded,
    length_set_padded, length_set_padded]
  split_ifs <;> first | rfl | omega

theorem ascend_key {name : String} {fields : Fields}
    (h : opened (.key name) tree = .object fields) (v : Value) :
    ascend (.key name) v tree = .object (Fields.put name v fields) := by
  simp only [ascend, h]

theorem ascend_index {i : Nat} {items : List Value} (h : opened (.index i) tree = .array items)
    (v : Value) : ascend (.index i) v tree = .array ((padded i items).set i v) := by
  simp only [ascend, h]

theorem ascend_comm (h : descend s tree = some x) (hne : s ≠ t) (hkind : SameKind s t) :
    (ascend t w (ascend s v tree)).Reordered (ascend s v (ascend t w tree)) := by
  rcases descend_eq_some h with ⟨name, fields, rfl, ho, _⟩ | ⟨i, items, rfl, ho, _⟩
  · cases t with
    | index i => exact absurd hkind id
    | key other =>
        have ho' : opened (.key other) tree = .object fields := by
          cases tree <;> exact ho
        have hname : other ≠ name := fun he => hne (he ▸ rfl)
        rw [ascend_key ho, ascend_key ho', ascend_key rfl, ascend_key rfl]
        refine .object (Fields.keys_put_perm hname fields) fun key u u' hu hu' => ?_
        rw [Fields.get?_put_comm hname, hu'] at hu
        cases hu
        exact .refl u
  · cases t with
    | key other => exact absurd hkind id
    | index j =>
        have ho' : opened (.index j) tree = .array items := by
          cases tree <;> exact ho
        have hi : j ≠ i := fun he => hne (he ▸ rfl)
        rw [ascend_index ho, ascend_index ho', ascend_index rfl, ascend_index rfl,
          set_padded_comm hi]
        exact .refl _

/-- Other members and elements are the same whatever is put in one place. -/
theorem reordered_ascend (h : v.Reordered w) (hd : descend s tree = some x) :
    (ascend s v tree).Reordered (ascend s w tree) := by
  rcases descend_eq_some hd with ⟨name, fields, rfl, ho, _⟩ | ⟨i, items, rfl, ho, _⟩
  · rw [ascend_key ho, ascend_key ho]
    refine .object (by rw [Fields.keys_put, Fields.keys_put]) fun key u u' hu hu' => ?_
    by_cases hk : key = name
    · subst hk
      rw [Fields.get?_put_self] at hu hu'
      cases hu
      cases hu'
      exact h
    · rw [Fields.get?_put_of_ne hk] at hu hu'
      cases hu.symm.trans hu'
      exact .refl u
  · rw [ascend_index ho, ascend_index ho]
    refine .array (by rw [List.length_set, List.length_set]) fun k u u' hu hu' => ?_
    rw [getElem?_set_padded] at hu hu'
    split at hu
    · rename_i hk
      rw [if_pos hk] at hu'
      cases hu
      cases hu'
      exact h
    · rename_i hk
      rw [if_neg hk] at hu'
      cases hu.symm.trans hu'
      exact .refl u

/-! ## Many steps -/

theorem reordered_put (h : v.Reordered w) (hv : put v steps tree = some tree')
    (hw : put w steps tree = some tree'') : tree'.Reordered tree'' := by
  induction steps generalizing tree tree' tree'' with
  | nil =>
      cases hv
      cases hw
      exact h
  | cons s rest ih =>
      simp only [put, Option.bind_eq_some_iff, Option.map_eq_some_iff] at hv hw
      obtain ⟨child, hd, u, hu, rfl⟩ := hv
      obtain ⟨child', hd', u', hu', rfl⟩ := hw
      cases hd.symm.trans hd'
      exact reordered_ascend (ih hu hu') hd

/-- In an empty object a write goes on like in an empty place, unless it needs a list. -/
theorem put_emptyObject (h : ∀ k below, rest ≠ .index k :: below) (v : Value) :
    put v rest (.object []) = put v rest .null := by
  cases rest with
  | nil => rfl
  | cons s below =>
      cases s with
      | key name => rfl
      | index k => exact absurd rfl (h k below)

theorem put_null_of_emptyObject (h : put v rest (.object []) = some tree) :
    put v rest .null = some tree := by
  rw [← put_emptyObject (fun k below he => ?_), h]
  rw [he] at h
  cases h

/-- Two writes below one place change what stands there. -/
theorem put_both_iff {a b : Location} :
    (∃ tree', put v (front ++ a) tree = some tree' ∧ put w (front ++ b) tree' = some tree'') ↔
      ∃ child x y, reach front tree = some child ∧ put v a child = some x ∧ put w b x = some y ∧
        put y front tree = some tree'' := by
  constructor
  · rintro ⟨tree', hv, hw⟩
    rw [put_append] at hv hw
    simp only [Option.bind_eq_some_iff] at hv hw
    obtain ⟨x, ⟨child, hchild, hx⟩, hput⟩ := hv
    obtain ⟨y, ⟨child', hchild', hy⟩, hput'⟩ := hw
    cases (reach_put hput).symm.trans hchild'
    exact ⟨child, x, y, hchild, hx, hy, (put_put hput y).symm.trans hput'⟩
  · rintro ⟨child, x, y, hchild, hx, hy, hput⟩
    have hsome : (put x front tree).isSome = true := by
      rw [put_isSome, hchild]
      rfl
    obtain ⟨tree', hput'⟩ := Option.isSome_iff_exists.mp hsome
    refine ⟨tree', ?_, ?_⟩
    · rw [put_append, hchild, Option.bind_some, hx, Option.bind_some, hput']
    · rw [put_append, reach_put hput', Option.bind_some, hy, Option.bind_some, put_put hput', hput]

theorem put_cons_eq_some : put v (s :: rest) tree = some x ↔
    ∃ a u, descend s tree = some a ∧ put v rest a = some u ∧ ascend s u tree = x := by
  simp only [put, Option.bind_eq_some_iff, Option.map_eq_some_iff, exists_and_left]

theorem sameKind_of_put (hv : put v (s :: rest) tree = some x)
    (hw : put w (t :: below) x = some y) : SameKind s t := by
  obtain ⟨a, u, ha, _, rfl⟩ := put_cons_eq_some.mp hv
  obtain ⟨b, u', hb, _, rfl⟩ := put_cons_eq_some.mp hw
  rw [← isSome_descend_ascend_iff ha u, hb]
  rfl

/-- A place that is filled has no list for the write that comes second. -/
theorem not_fills_of_put (hne : s ≠ t) (hv : put v (s :: rest) tree = some x)
    (hw : put w (t :: below) x = some y) :
    ¬ (Fills s t tree ∧ ∃ k later, below = .index k :: later) := by
  rintro ⟨hfills, k, later, rfl⟩
  have hkind := sameKind_of_put hv hw
  obtain ⟨a, u, ha, _, rfl⟩ := put_cons_eq_some.mp hv
  obtain ⟨b, u', hb, hu', _⟩ := put_cons_eq_some.mp hw
  rcases descend_ascend_apart ha hne hkind u with ⟨hkept, _⟩ | ⟨_, _, he⟩
  · exact hkept hfills
  · cases he.symm.trans hb
    cases hu'

/-- Where the paths part, the write that came second can come first. -/
theorem put_first (hne : s ≠ t) (hv : put v (s :: rest) tree = some x)
    (hw : put w (t :: below) x = some y) :
    ∃ a b u u', descend s tree = some a ∧ put v rest a = some u ∧
      descend t tree = some b ∧ put w below b = some u' ∧ y = ascend t u' (ascend s u tree) := by
  have hkind := sameKind_of_put hv hw
  obtain ⟨a, u, ha, hu, rfl⟩ := put_cons_eq_some.mp hv
  obtain ⟨b, u', hb, hu', rfl⟩ := put_cons_eq_some.mp hw
  rcases descend_ascend_apart ha hne hkind u with ⟨_, he⟩ | ⟨_, hnull, he⟩
  · exact ⟨a, b, u, u', ha, hu, he ▸ hb, hu', rfl⟩
  · cases he.symm.trans hb
    exact ⟨a, .null, u, u', ha, hu, hnull, put_null_of_emptyObject hu', rfl⟩

/-- Where the paths part, two writes can change places, unless the one that comes second then needs
a list in a place that was filled. -/
theorem put_parted (hne : s ≠ t) (hv : put v (s :: rest) tree = some x)
    (hw : put w (t :: below) x = some y)
    (hfree : ¬ (Fills t s tree ∧ ∃ k later, rest = .index k :: later)) :
    ∃ x' y', put w (t :: below) tree = some x' ∧ put v (s :: rest) x' = some y' ∧
      y.Reordered y' := by
  have hkind := sameKind_of_put hv hw
  obtain ⟨a, b, u, u', ha, hu, hb, hu', rfl⟩ := put_first hne hv hw
  refine ⟨ascend t u' tree, ascend s u (ascend t u' tree), put_cons_eq_some.mpr ⟨b, u', hb, hu', rfl⟩,
    put_cons_eq_some.mpr ?_, ascend_comm ha hne hkind⟩
  rcases descend_ascend_apart hb hne.symm hkind.symm u' with ⟨_, he⟩ | ⟨hfills, hnull, he⟩
  · exact ⟨a, u, he.trans ha, hu, rfl⟩
  · cases hnull.symm.trans ha
    refine ⟨.object [], u, he, ?_, rfl⟩
    rw [put_emptyObject fun k later hk => hfree ⟨hfills, k, later, hk⟩, hu]

/-! ## Blocked writes -/

/-- Whether a write along `steps` leaves an empty object where another path goes on with an index. -/
def Blocks (steps other : Location) (tree : Value) : Prop :=
  ∃ place k later, other = place ++ .index k :: later ∧ Pads steps place tree

theorem parting_unique {front' rest' below' : Location} {s' t' : Step} (hne : s ≠ t)
    (hne' : s' ≠ t') (hs : front ++ s :: rest = front' ++ s' :: rest')
    (ht : front ++ t :: below = front' ++ t' :: below') :
    front = front' ∧ s = s' ∧ t = t' ∧ rest = rest' ∧ below = below' := by
  induction front generalizing front' with
  | nil =>
      cases front' with
      | nil => simp_all
      | cons => simp_all
  | cons u front ih =>
      cases front' with
      | nil => simp_all
      | cons u' front' =>
          simp only [List.cons_append, List.cons.injEq] at hs ht
          obtain ⟨rfl, h⟩ := ih hs.2 ht.2
          exact ⟨by rw [hs.1], h⟩

/-- The place that a blocked write cannot use is where the paths part. -/
theorem blocks_iff (hchild : reach front tree = some child) (hne : s ≠ t) :
    Blocks (front ++ t :: below) (front ++ s :: rest) tree ↔
      Fills t s child ∧ ∃ k later, rest = .index k :: later := by
  have hslot (j : Nat) : tree.at? (front ++ [.index j]) = child.child? (.index j) := by
    rw [at?_append_of_reach hchild (List.cons_ne_nil _ _), Value.at?_cons]
    cases child.child? (.index j) <;> rfl
  constructor
  · rintro ⟨place, k, later, hs, front', i, j, rest', ht, rfl, hj, hnone⟩
    rw [List.append_assoc, List.singleton_append] at hs
    have hne' : Step.index j ≠ .index i := by simp; omega
    obtain ⟨rfl, rfl, rfl, rfl, rfl⟩ := parting_unique hne hne' hs ht
    rw [hslot] at hnone
    exact ⟨⟨i, j, rfl, rfl, hj, hnone⟩, k, later, rfl⟩
  · rintro ⟨⟨i, j, rfl, rfl, hj, hnone⟩, k, later, rfl⟩
    exact ⟨front ++ [.index j], k, later, by simp, front, i, j, below, rfl, rfl, hj,
      (hslot j).trans hnone⟩

/-- The second of two writes can come first, and then the other one follows unless it is blocked. -/
theorem put_swapped (h : ¬ steps <+: place) (h' : ¬ place <+: steps)
    (hfree : ¬ Blocks place steps tree)
    (hboth : ∃ tree', put v steps tree = some tree' ∧ put w place tree' = some tree'') :
    ∃ tree₁ tree₂, put w place tree = some tree₁ ∧ put v steps tree₁ = some tree₂ ∧
      tree''.Reordered tree₂ := by
  obtain ⟨front, s, t, rest, below, rfl, rfl, hne⟩ := exists_parting h h'
  obtain ⟨child, x, y, hchild, hx, hy, hput⟩ := put_both_iff.mp hboth
  rw [blocks_iff hchild hne] at hfree
  obtain ⟨x', y', hx', hy', hsame⟩ := put_parted hne hx hy hfree
  have hsome : (put y' front tree).isSome = true := by
    rw [put_isSome, hchild]
    rfl
  obtain ⟨tree₂, hput'⟩ := Option.isSome_iff_exists.mp hsome
  obtain ⟨tree₁, h₁, h₂⟩ := put_both_iff.mpr ⟨child, x', y', hchild, hx', hy', hput'⟩
  exact ⟨tree₁, tree₂, h₁, h₂, reordered_put hsame hput hput'⟩

/-- Writes in the order in which the second one is blocked do not both succeed. -/
theorem not_blocks_of_put (h : ¬ steps <+: place) (h' : ¬ place <+: steps)
    (hboth : ∃ tree', put v steps tree = some tree' ∧ put w place tree' = some tree'') :
    ¬ Blocks steps place tree := by
  obtain ⟨front, s, t, rest, below, rfl, rfl, hne⟩ := exists_parting h h'
  obtain ⟨child, x, y, hchild, hx, hy, _⟩ := put_both_iff.mp hboth
  rw [blocks_iff hchild hne.symm]
  exact not_fills_of_put hne hx hy

/-! ## Writing at two paths -/

/-- Whether `tree''` is the tree after writing `v` at `p` and then `w` at `q`. -/
def WrittenBoth (p : String) (v : Value) (q : String) (w tree tree'' : Value) : Prop :=
  ∃ tree', write p (some v) tree = (tree', .ok ()) ∧ write q (some w) tree' = (tree'', .ok ())

theorem writtenBoth_iff (hp : segments p = .ok steps) (hq : segments q = .ok place) :
    WrittenBoth p v q w tree tree'' ↔
      ∃ tree', put v steps tree = some tree' ∧ put w place tree' = some tree'' := by
  simp only [WrittenBoth, write_eq_ok_iff hp, write_eq_ok_iff hq]

/-- Two writes at paths that part can be made in any order if none of them leaves an empty object
where the other path goes on with an index; otherwise the order that leaves it first fails. Where both
orders succeed, the trees are the same but for the order of members. -/
theorem write_comm (hp : segments p = .ok steps) (hq : segments q = .ok place)
    (h : ¬ steps <+: place) (h' : ¬ place <+: steps) (v w tree : Value) :
    (¬ Blocks steps place tree → ¬ Blocks place steps tree →
        ((∃ tree', WrittenBoth p v q w tree tree') ↔ ∃ tree', WrittenBoth q w p v tree tree')) ∧
      (Blocks steps place tree → ¬ ∃ tree', WrittenBoth p v q w tree tree') ∧
      (Blocks place steps tree → ¬ ∃ tree', WrittenBoth q w p v tree tree') ∧
      ∀ tree' tree'', WrittenBoth p v q w tree tree' → WrittenBoth q w p v tree tree'' →
        tree'.Reordered tree'' := by
  simp only [writtenBoth_iff hp hq, writtenBoth_iff hq hp]
  refine ⟨fun hfree hfree' => ⟨?forth, ?back⟩, ?blocked, ?blocked', ?same⟩
  case forth =>
    rintro ⟨tree', hboth⟩
    obtain ⟨tree₁, tree₂, h₁, h₂, _⟩ := put_swapped h h' hfree' hboth
    exact ⟨tree₂, tree₁, h₁, h₂⟩
  case back =>
    rintro ⟨tree', hboth⟩
    obtain ⟨tree₁, tree₂, h₁, h₂, _⟩ := put_swapped h' h hfree hboth
    exact ⟨tree₂, tree₁, h₁, h₂⟩
  case blocked =>
    rintro hblocks ⟨tree', hboth⟩
    exact not_blocks_of_put h h' hboth hblocks
  case blocked' =>
    rintro hblocks ⟨tree', hboth⟩
    exact not_blocks_of_put h' h hboth hblocks
  case same =>
    rintro tree' tree'' hboth ⟨tree₁', h₁', h₂'⟩
    have hfree := not_blocks_of_put h' h ⟨tree₁', h₁', h₂'⟩
    obtain ⟨tree₁, tree₂, h₁, h₂, hsame⟩ := put_swapped h h' hfree hboth
    cases h₁.symm.trans h₁'
    cases h₂.symm.trans h₂'
    exact hsame

theorem write_comm_members :
    segments "$.rows[1].id" = .ok [.key "rows", .index 1, .key "id"] ∧
      segments "$.rows[1].name" = .ok [.key "rows", .index 1, .key "name"] ∧
      WrittenBoth "$.rows[1].id" (.ofNat 7) "$.rows[1].name" (.string "x") .null
        (.object [("rows", .array [.object [], .object [("id", .ofNat 7), ("name", .string "x")]])]) ∧
      ∃ tree', WrittenBoth "$.rows[1].name" (.string "x") "$.rows[1].id" (.ofNat 7) .null tree' ∧
        (Value.object [("rows", .array [.object [],
          .object [("id", .ofNat 7), ("name", .string "x")]])]).Reordered tree' := by
  have hp : segments "$.rows[1].id" = .ok [.key "rows", .index 1, .key "id"] := rfl
  have hq : segments "$.rows[1].name" = .ok [.key "rows", .index 1, .key "name"] := rfl
  have hboth : WrittenBoth "$.rows[1].id" (.ofNat 7) "$.rows[1].name" (.string "x") .null
      (.object [("rows", .array [.object [],
        .object [("id", .ofNat 7), ("name", .string "x")]])]) := ⟨_, rfl, rfl⟩
  have hfree {name other : String} (hne : name ≠ other) :
      ¬ Blocks [.key "rows", .index 1, .key name] [.key "rows", .index 1, .key other] .null := by
    have hblocks : Blocks ([.key "rows", .index 1] ++ [.key name])
        ([.key "rows", .index 1] ++ [.key other]) .null ↔
        Fills (.key name) (.key other) .null ∧ ∃ k later, [] = Step.index k :: later :=
      blocks_iff rfl (by simpa using hne.symm)
    intro h
    obtain ⟨_, k, later, he⟩ := hblocks.mp h
    cases he
  obtain ⟨hiff, _, _, hsame⟩ :=
    write_comm hp hq (by decide) (by decide) (.ofNat 7) (.string "x") .null
  obtain ⟨tree', hboth'⟩ := (hiff (hfree (by decide)) (hfree (by decide))).mp ⟨_, hboth⟩
  exact ⟨hp, hq, hboth, tree', hboth', hsame _ _ hboth hboth'⟩

/-- A write behind the end of a list leaves an empty object where the other write needs a list. -/
theorem write_padding_first :
    segments "$[0][1]" = .ok [.index 0, .index 1] ∧ segments "$[2]" = .ok [.index 2] ∧
      ¬ [Step.index 0, .index 1] <+: [.index 2] ∧ ¬ [Step.index 2] <+: [.index 0, .index 1] ∧
      (∃ tree', WrittenBoth "$[0][1]" (.bool true) "$[2]" (.bool false) .null tree') ∧
      ¬ ∃ tree', WrittenBoth "$[2]" (.bool false) "$[0][1]" (.bool true) .null tree' := by
  refine ⟨rfl, rfl, by decide, by decide, ⟨_, _, rfl, rfl⟩, ?_⟩
  rintro ⟨tree'', tree', hfirst, hsecond⟩
  have hpadded : write "$[2]" (some (.bool false)) .null =
      (.array [.object [], .object [], .bool false], .ok ()) := rfl
  cases hpadded.symm.trans hfirst
  cases hsecond

end Tree

end Recast
