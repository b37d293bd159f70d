import Mathlib.Data.List.Nodup
import Mathlib.Logic.Relation
import Recast.Proofs.Path.Select
import Recast.Proofs.Transform.Pairs
import Recast.Transform.Transformer

/-!
# What a schema does not declare

Without rules, objects are only asked for the members that the schema declares, one by one. Members
that it does not declare, and the order of members, leave no trace in what a document is transformed
into, although the elements of lists are looked up with everything that they have.
-/

namespace Recast

open Input (Context Finding)
open Json (Value Fields)
open Recast.Path (follow follow_append inValue_members members)
open Schema (Declared Descriptor Instance listFragment objectFragment scalarFragment)

namespace Transform

variable {names : List String} {name : String} {i items : Instance} {d : Declared}
variable {ps : List Instance} {v w : Value} {c c' : Context}

/-! ## Edits -/

/-- One edit of a value at an instance: in an object, a member that the schema does not declare comes
or goes, or the members change places. The object may be anywhere below, also where a single object
stands for a list. -/
inductive Edit : Instance → Value → Value → Prop where
  | insert {d : Declared} {ps : List Instance} {before after : Fields} {name : String} (v : Value)
      (h : name ∉ ps.map Instance.key) :
      Edit (.object d ps) (.object (before ++ after)) (.object (before ++ (name, v) :: after))
  | delete {d : Declared} {ps : List Instance} {before after : Fields} {name : String} (v : Value)
      (h : name ∉ ps.map Instance.key) :
      Edit (.object d ps) (.object (before ++ (name, v) :: after)) (.object (before ++ after))
  | reorder {d : Declared} {ps : List Instance} {fields fields' : Fields}
      (hkeys : (Fields.keys fields).Nodup) (h : fields.Perm fields') :
      Edit (.object d ps) (.object fields) (.object fields')
  | member {d : Declared} {ps : List Instance} {before after : Fields} {i : Instance} {v w : Value}
      (hi : i ∈ ps) (h : Edit i v w) :
      Edit (.object d ps) (.object (before ++ (i.key, v) :: after))
        (.object (before ++ (i.key, w) :: after))
  | element {d : Declared} {items : Instance} {before after : List Value} {v w : Value}
      (h : Edit items v w) :
      Edit (.array d items) (.array (before ++ v :: after)) (.array (before ++ w :: after))
  | single {d : Declared} {items : Instance} {fields fields' : Fields}
      (h : Edit items (.object fields) (.object fields')) :
      Edit (.array d items) (.object fields) (.object fields')

/-- At most one edit apart. -/
def Unseen (i : Instance) (v w : Value) : Prop := v = w ∨ Edit i v w

theorem Unseen.refl (i : Instance) (v : Value) : Unseen i v v := Or.inl rfl

theorem Edit.ofJson?_eq (h : Edit i v w) :
    Finding.ofJson? v = some (.json v) ∧ Finding.ofJson? w = some (.json w) := by
  cases h <;> exact ⟨rfl, rfl⟩

/-- An undeclared member is in nobody's way. -/
theorem get?_undeclared (h : name ∉ ps.map Instance.key) (hi : i ∈ ps) (before after : Fields) :
    Fields.get? i.key (before ++ (name, v) :: after) = Fields.get? i.key (before ++ after) := by
  have hne : name ≠ i.key := by
    rintro rfl
    exact h (List.mem_map_of_mem hi)
  simp [Fields.get?_append, Fields.get?, hne]

/-- An edit of an object is one edit of one of its properties at most. -/
theorem Edit.field? (h : Edit (.object d ps) v w) (hnames : (ps.map Instance.key).Nodup)
    (hi : i ∈ ps) : Option.Rel (Unseen i) (v.field? i.key) (w.field? i.key) := by
  have hsame : ∀ {fields fields' : Fields}, Fields.get? i.key fields = Fields.get? i.key fields' →
      Option.Rel (Unseen i) (Fields.get? i.key fields) (Fields.get? i.key fields') := by
    intro fields fields' hget
    rw [hget]
    exact optionRel_refl (Unseen.refl i)
  cases h with
  | insert u h => exact hsame (get?_undeclared h hi _ _).symm
  | delete u h => exact hsame (get?_undeclared h hi _ _)
  | reorder hkeys h => exact hsame (Fields.get?_perm hkeys h)
  | @member _ _ before after j v w hj h =>
      show Option.Rel (Unseen i) (Fields.get? i.key _) (Fields.get? i.key _)
      -- Of several members of one name only the first is seen, edited or not.
      by_cases hkey : j.key = i.key
      · obtain rfl : j = i := List.inj_on_of_nodup_map hnames hj hi hkey
        rw [Fields.get?_append, Fields.get?_append]
        cases hbefore : Fields.get? j.key before with
        | some u => exact .some (.refl j u)
        | none =>
            have hhere : ∀ u : Value, (none <|> Fields.get? j.key ((j.key, u) :: after)) = some u := by
              intro u
              simp [Fields.get?]
            rw [hhere, hhere]
            exact .some (Or.inr h)
      · apply hsame
        simp [Fields.get?_append, Fields.get?, hkey]

/-- Seeds of elements that are values, one edit apart at most. -/
def SeedsUnseen (i : Instance) (f f' : Finding) : Prop :=
  i.DistinctNames ∧ ∃ v w, f = .json v ∧ f' = .json w ∧ Unseen i v w

theorem seedsUnseen_json (hn : items.DistinctNames) (v : Value) :
    List.Forall₂ (SeedsUnseen items) (Finding.json v).seeds (Finding.json v).seeds := by
  have hseed : ∀ u, SeedsUnseen items (.json u) (.json u) := fun u => ⟨hn, u, u, rfl, rfl, .refl _ u⟩
  cases v with
  | array vs =>
      show List.Forall₂ _ (vs.map Finding.json) (vs.map Finding.json)
      rw [List.forall₂_map_left_iff, List.forall₂_map_right_iff]
      exact List.forall₂_same.mpr fun u _ => hseed u
  | _ => exact .cons (hseed _) .nil

theorem Edit.seeds (h : Edit (.array d items) v w) (hn : items.DistinctNames) :
    List.Forall₂ (SeedsUnseen items) (Finding.json v).seeds (Finding.json w).seeds := by
  cases h with
  | single h => exact .cons ⟨hn, _, _, rfl, rfl, Or.inr h⟩ .nil
  | @element _ _ before after v w h =>
      show List.Forall₂ _ ((before ++ v :: after).map Finding.json)
        ((before ++ w :: after).map Finding.json)
      rw [List.map_append, List.map_append, List.map_cons, List.map_cons]
      have hseeds := fun vs : List Value => seedsUnseen_json hn (.array vs)
      exact List.rel_append (hseeds before) (.cons ⟨hn, _, _, rfl, rfl, Or.inr h⟩ (hseeds after))

/-! ## Lookups -/

/-- The contexts look up in values, and what these have for the instance is one edit apart at
most. -/
def ContextsUnseen (names : List String) (i : Instance) (c c' : Context) : Prop :=
  i.DistinctNames ∧ ∃ base base', HasBase c base ∧ HasBase c' base' ∧
    Option.Rel (Unseen i) (follow names base) (follow names base')

namespace ContextsUnseen

theorem lookups (h : ContextsUnseen names i c c') :
    ∃ o o', Option.Rel (Unseen i) o o' ∧ nearest c (members names) = o.bind Finding.ofJson? ∧
      nearest c' (members names) = o'.bind Finding.ofJson? := by
  obtain ⟨_, base, base', hbase, hbase', hfollow⟩ := h
  exact ⟨_, _, hfollow, by rw [hbase, inValue_members], by rw [hbase', inValue_members]⟩

theorem scalar {k : Scalar} (h : ContextsUnseen names (.scalar d k) c c') :
    nearest c (members names) = nearest c' (members names) := by
  obtain ⟨o, o', hunseen, ho, ho'⟩ := h.lookups
  rw [ho, ho']
  cases hunseen with
  | none => rfl
  | some h =>
      rcases h with rfl | h
      · rfl
      · cases h

theorem property (h : ContextsUnseen names (.object d ps) c c') (hi : i ∈ ps) :
    ContextsUnseen (names ++ [i.key]) i c c' := by
  obtain ⟨hn, base, base', hbase, hbase', hfollow⟩ := h
  refine ⟨hn.property hi, base, base', hbase, hbase', ?_⟩
  rw [follow_append, follow_append]
  generalize follow names base = o at hfollow ⊢
  generalize follow names base' = o' at hfollow ⊢
  cases hfollow with
  | none => exact .none
  | some h =>
      rcases h with rfl | h
      · exact optionRel_refl (Unseen.refl i)
      · exact h.field? hn.self hi

theorem array (h : ContextsUnseen names (.array d items) c c') :
    Option.Rel (fun f f' => List.Forall₂ (SeedsUnseen items) f.seeds f'.seeds)
      (nearest c (members names)) (nearest c' (members names)) := by
  obtain ⟨o, o', hunseen, ho, ho'⟩ := h.lookups
  have hn := h.1
  rw [ho, ho']
  cases hunseen with
  | none => exact .none
  | @some v w h =>
      show Option.Rel _ (Finding.ofJson? v) (Finding.ofJson? w)
      rcases h with rfl | h
      · unfold Finding.ofJson?
        split
        · exact .none
        · exact .some (seedsUnseen_json hn.items v)
      · obtain ⟨hv, hw⟩ := h.ofJson?_eq
        rw [hv, hw]
        exact .some (h.seeds hn.items)

theorem narrow {f f' : Finding} (h : SeedsUnseen i f f') (c c' : Context) (path : String) :
    ContextsUnseen [] i (c.narrow path f) (c'.narrow path f') := by
  obtain ⟨hn, v, w, rfl, rfl, h⟩ := h
  exact ⟨hn, v, w, fun _ => rfl, fun _ => rfl, .some h⟩

theorem pairing : Pairing ContextsUnseen SeedsUnseen where
  scalar h := by rw [h.scalar]
  property h hi _ := h.property hi
  array h := h.array
  default h v := seedsUnseen_json h.1.items v
  narrow h c c' path := .narrow h c c' path

end ContextsUnseen

end Transform

namespace Transformer

open Transform

/-- Without rules, edits of what the schema does not declare change nothing. -/
theorem transformValue_edited (t : Transformer) (schema : Value)
    (hk : schema.hasDistinctKeys = true) (h : Descriptor.read schema = .ok t.descriptor)
    (hfree : t.descriptor.root.Everywhere fun i => i.rule? t.ruleSet = none) {v w : Value}
    (hedits : Relation.ReflTransGen (Edit t.descriptor.root) v w) :
    t.transformValue v = t.transformValue w := by
  induction hedits with
  | refl => rfl
  | @tail u w _ hedit ih =>
      have hbases : ContextsUnseen [] t.descriptor.root (.ofDocument (.json u))
          (.ofDocument (.json w)) :=
        ⟨Descriptor.root_distinctNames hk h, u, w, fun _ => rfl, fun _ => rfl, .some (Or.inr hedit)⟩
      have hrun := ContextsUnseen.pairing.run_eq (Descriptor.root_addressed h) hfree hbases
      rw [ih, transformValue, transformValue, transformDocument, transformDocument, hrun]

/-- Edits in an element of a list, and in an object that stands for a list. -/
theorem transformValue_edited_rows :
    let schema : Value := objectFragment [("rows", listFragment (objectFragment
      [("id", scalarFragment "integer"),
        ("marks", listFragment (objectFragment [("at", scalarFragment "integer")]))]))]
    let place : Instance := .scalar ⟨"$.rows[*].marks[*].at", some "at", none, [], []⟩ .integer
    let mark : Instance := .object ⟨"$.rows[*].marks[*]", none, none, [], []⟩ [place]
    let marks : Instance := .array ⟨"$.rows[*].marks", some "marks", none, [], []⟩ mark
    let id : Instance := .scalar ⟨"$.rows[*].id", some "id", none, [], []⟩ .integer
    let row : Instance := .object ⟨"$.rows[*]", none, none, [], []⟩ [id, marks]
    let rows : Instance := .array ⟨"$.rows", some "rows", none, [], []⟩ row
    let root : Instance := .object ⟨"$", none, none, [], []⟩ [rows]
    let t : Transformer := ⟨⟨root, schema⟩, "main", none, .acceptAll⟩
    let one : Value := .number (.integer 1)
    let two : Value := .number (.integer 2)
    let v : Value := .object [("rows", .array [.object [("id", one)],
      .object [("id", two), ("marks", .object [("at", one)])]])]
    let w : Value := .object [("by", two), ("rows", .array [.object [("id", one)],
      .object [("marks", .object [("seen", .bool true), ("at", one)]), ("id", two)]])]
    Relation.ReflTransGen (Edit root) v w ∧ t.transformValue v = t.transformValue w ∧
      (t.transformValue w).toOption = some (.object [("rows", .array [.object [("id", one)],
        .object [("id", two), ("marks", .array [.object [("at", one)]])]])]) := by
  intro schema place mark marks id row rows root t one two v w
  -- Every edit is one of the second row.
  have hrow : ∀ {fields fields' : Fields}, Edit row (.object fields) (.object fields') →
      Edit root (.object [("rows", .array [.object [("id", one)], .object fields])])
        (.object [("rows", .array [.object [("id", one)], .object fields'])]) := by
    intro fields fields' h
    have hrows : Edit rows (.array ([.object [("id", one)]] ++ .object fields :: []))
        (.array ([.object [("id", one)]] ++ .object fields' :: [])) := .element h
    exact @Edit.member _ _ [] [] rows _ _ (.head _) hrows
  have hswap : Edit row (.object [("id", two), ("marks", .object [("at", one)])])
      (.object [("marks", .object [("at", one)]), ("id", two)]) :=
    .reorder (by decide) (.swap _ _ [])
  have hmark : Edit marks (.object [("at", one)]) (.object [("seen", .bool true), ("at", one)]) :=
    .single (@Edit.insert _ _ [] _ _ _ (by decide))
  have hmarks : Edit row (.object [("marks", .object [("at", one)]), ("id", two)])
      (.object [("marks", .object [("seen", .bool true), ("at", one)]), ("id", two)]) :=
    @Edit.member _ _ [] _ marks _ _ (.tail _ (.head _)) hmark
  have hedits : Relation.ReflTransGen (Edit root) v w :=
    .tail (.tail (.single (hrow hswap)) (hrow hmarks)) (@Edit.insert _ _ [] _ _ _ (by decide))
  exact ⟨hedits, transformValue_edited t schema (by decide +kernel) rfl (by decide +kernel) hedits,
    by decide +kernel⟩

end Transformer

end Recast
