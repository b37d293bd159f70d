import Recast.Json.Decode
import Recast.Json.Location
import Recast.Proofs.Json.Keys
import Recast.Proofs.Outcome

/-!
# Values that differ in one text

A value differs from another one in the text at the end of some steps. Records that are read from
the two differ in the member that the first step leads to, however the record is written.
-/

namespace Recast.Json

open Decode (Shape)

variable {old new name key : String} {fields : Fields} {items : List Value} {v v' w : Value}
variable {step : Step} {rest : Location}

/-- The second value has the text `new` where the first one has `old`, at the end of some steps, and
is otherwise the same. -/
inductive Replaced (old new : String) : Location → Value → Value → Prop where
  | here : Replaced old new [] (.string old) (.string new)
  | member {name : String} {rest : Location} {fields : Fields} {v v' : Value}
      (hget : Fields.get? name fields = some v) (h : Replaced old new rest v v') :
      Replaced old new (.key name :: rest) (.object fields) (.object (Fields.put name v' fields))
  | element {i : Nat} {rest : Location} {items : List Value} {v v' : Value}
      (hget : items[i]? = some v) (h : Replaced old new rest v v') :
      Replaced old new (.index i :: rest) (.array items) (.array (items.set i v'))

theorem forall₂_put {R : String × Value → String × Value → Prop} (hrefl : ∀ m, R m m)
    (hget : Fields.get? name fields = some v) (h : R (name, v) (name, w)) :
    List.Forall₂ R fields (Fields.put name w fields) := by
  induction fields with
  | nil => cases hget
  | cons field fields ih =>
      obtain ⟨k, u⟩ := field
      by_cases hk : k = name
      · subst hk
        obtain rfl : u = v := by simpa [Fields.get?] using hget
        simp only [Fields.put, BEq.rfl, ↓reduceIte]
        exact .cons h (List.forall₂_same.mpr fun m _ => hrefl m)
      · have hrest : Fields.get? name fields = some v := by simpa [Fields.get?, hk] using hget
        simp only [Fields.put, beq_iff_eq, hk, ↓reduceIte]
        exact .cons (hrefl _) (ih hrest)

theorem forall₂_set {R : Value → Value → Prop} (hrefl : ∀ u, R u u) {i : Nat}
    (hget : items[i]? = some v) (h : R v w) : List.Forall₂ R items (items.set i w) := by
  induction items generalizing i with
  | nil => cases hget
  | cons u items ih =>
      cases i with
      | zero =>
          obtain rfl : u = v := by simpa using hget
          exact .cons h (List.forall₂_same.mpr fun u _ => hrefl u)
      | succ i => exact .cons (hrefl u) (ih (by simpa using hget))

/-! ## Records -/

/-- The member of a record that a step leads to. -/
def Decode.Shape.memberAt? (s : Shape) : Step → Option String
  | .key name => some name
  | .index i => (s.members[i]?).map (·.1)

section Records

variable {α : Type} {s : Shape} {read : α → String → Value → Except Mismatch α} {R : α → α → Prop}

/-- Members with the same value keep the records related, and so do two values that differ in a text
as the value of one member. -/
structure KeepsRelated (read : α → String → Value → Except Mismatch α) (R : α → α → Prop)
    (old new key : String) (rest : Location) : Prop where
  same : ∀ a a' b b' name v, R a a' → read a name v = .ok b → read a' name v = .ok b' → R b b'
  replaced : ∀ a a' b b' v v', R a a' → Replaced old new rest v v' → read a key v = .ok b →
    read a' key v' = .ok b' → R b b'

theorem readList_related (hread : KeepsRelated read R old new key rest)
    {members : List (String × Bool)} {items items' : List Value} {n n' i i' : Nat} {a a' b b' : α}
    (ha : R a a')
    (hitems : ∀ j : Nat, items[j]? = items'[j]? ∨ ∃ v v', items[j]? = some v ∧
      items'[j]? = some v' ∧ (members[j]?).map Prod.fst = some key ∧ Replaced old new rest v v')
    (h : s.readList read n i a members items = .ok b)
    (h' : s.readList read n' i' a' members items' = .ok b') : R b b' := by
  induction members generalizing items items' i i' a a' with
  | nil =>
      cases items <;> cases h
      cases items' <;> cases h'
      exact ha
  | cons member members ih =>
      obtain ⟨name, isNeeded⟩ := member
      have hfirst := hitems 0
      have hrest := fun j : Nat => hitems (j + 1)
      cases items with
      | nil =>
          cases items' with
          | nil =>
              simp only [Shape.readList] at h h'
              split at h
              · cases h
              · rename_i hneeded
                rw [if_neg hneeded] at h'
                exact ih ha (fun _ => Or.inl rfl) h h'
          | cons v' items' => simp at hfirst
      | cons v items =>
          cases items' with
          | nil => simp at hfirst
          | cons v' items' =>
              obtain ⟨c, hc, h⟩ := bind_eq_ok h
              obtain ⟨c', hc', h'⟩ := bind_eq_ok h'
              refine ih ?_ hrest h h'
              rcases hfirst with he | ⟨u, u', hu, hu', hname, hr⟩
              · obtain rfl : v = v' := by simpa using he
                exact hread.same a a' c c' name v ha hc hc'
              · obtain rfl : v = u := by simpa using hu
                obtain rfl : v' = u' := by simpa using hu'
                obtain rfl : name = key := by simpa using hname
                exact hread.replaced a a' c c' v v' ha hr hc hc'

/-- Records that are read from values which differ in a text are related. -/
theorem decode_related (hread : KeepsRelated read R old new key rest)
    (hkey : s.memberAt? step = some key) (hr : Replaced old new (step :: rest) v v') {a a' b b' : α}
    (ha : R a a') (h : s.decode read a v = .ok b) (h' : s.decode read a' v' = .ok b') :
    R b b' := by
  cases hr with
  | @member name _ fields v v' hget hr =>
      obtain rfl : name = key := Option.some.inj hkey
      have hfields : List.Forall₂ (fun m m' => m.1 = m'.1 ∧
          (m.2 = m'.2 ∨ m.1 = name ∧ Replaced old new rest m.2 m'.2))
          fields (Fields.put name v' fields) :=
        forall₂_put (fun m => ⟨rfl, Or.inl rfl⟩) hget ⟨rfl, Or.inr ⟨rfl, hr⟩⟩
      refine related_of_foldlM (fun a a' m m' b b' ha hm hb hb' => ?_) hfields ha h h'
      obtain ⟨k, u⟩ := m
      obtain ⟨k', u'⟩ := m'
      obtain ⟨rfl, hm⟩ := hm
      dsimp only at hm hb hb'
      split at hb
      · rename_i hknown
        rw [if_pos hknown] at hb'
        rcases hm with rfl | ⟨rfl, hm⟩
        · exact hread.same a a' b b' k u ha hb hb'
        · exact hread.replaced a a' b b' u u' ha hm hb hb'
      · rename_i hunknown
        rw [if_neg hunknown] at hb'
        split at hb
        · cases hb
        · rename_i hopen
          rw [if_neg hopen] at hb'
          cases hb
          cases hb'
          exact ha
  | @element i _ items v v' hget hr =>
      refine readList_related hread ha (fun j => ?_) h h'
      by_cases hj : i = j
      · subst hj
        have hlt := (List.getElem?_eq_some_iff.mp hget).1
        exact Or.inr ⟨v, v', hget, List.getElem?_set_self hlt, hkey, hr⟩
      · exact Or.inl (List.getElem?_set_ne hj).symm

end Records

end Recast.Json
