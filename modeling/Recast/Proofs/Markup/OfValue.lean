import Recast.Markup.Node
import Recast.Proofs.Json.Keys

/-!
# Markup of values

A value of objects, lists and texts is written as markup: an object holds one child element for each
member, or one for each item of a member that is a list, and a text is the text of its element.
-/

namespace Recast.Markup

open Json (Value Fields)

variable {name : String} {fields : Fields} {v : Value}

mutual

/-- What the element of a value holds. -/
def contentOf (v : Value) : List Node :=
  match v with
  | .object fields => membersOf fields
  | .string s => [.text s]
  | _ => []
termination_by structural v

/-- The elements of members. -/
def membersOf (fields : List (String × Value)) : List Node :=
  match fields with
  | [] => []
  | (name, v) :: rest =>
    (match v with
    | .array items => itemsOf name items
    | v => [.element name [] (contentOf v)]) ++ membersOf rest
termination_by structural fields

/-- The elements of items, all of the same name. -/
def itemsOf (name : String) (items : List Value) : List Node :=
  match items with
  | [] => []
  | v :: rest => .element name [] (contentOf v) :: itemsOf name rest
termination_by structural items

end

/-- The element of a value. -/
def ofValue (name : String) (v : Value) : Node := .element name [] (contentOf v)

/-- The elements of a member: one for each item of a list, else one. -/
def elementsOf (name : String) : Value → List Node
  | .array items => items.map (ofValue name)
  | v => [ofValue name v]

theorem itemsOf_eq (name : String) (items : List Value) :
    itemsOf name items = items.map (ofValue name) := by
  induction items with
  | nil => rfl
  | cons v items ih => rw [itemsOf, ih, List.map_cons, ofValue]

theorem membersOf_cons (name : String) (v : Value) (fields : Fields) :
    membersOf ((name, v) :: fields) = elementsOf name v ++ membersOf fields := by
  cases v with
  | array items => rw [membersOf, itemsOf_eq, elementsOf]
  | _ => rfl

theorem name?_of_mem (n : Node) (h : n ∈ elementsOf name v) : n.name? = some name ∧ n.isElement := by
  cases v with
  | array items =>
      obtain ⟨v, _, rfl⟩ := List.mem_map.mp h
      exact ⟨rfl, rfl⟩
  | _ =>
      cases List.mem_singleton.mp h
      exact ⟨rfl, rfl⟩

/-- The elements of an object are those of its members. -/
theorem elements_ofValue (name : String) (fields : Fields) :
    (ofValue name (.object fields)).elements = membersOf fields := by
  show (membersOf fields).filter Node.isElement = _
  refine List.filter_eq_self.mpr fun n hn => ?_
  induction fields with
  | nil => cases hn
  | cons field fields ih =>
      rw [membersOf_cons] at hn
      rcases List.mem_append.mp hn with hn | hn
      · exact (name?_of_mem n hn).2
      · exact ih hn

example : ofValue "row" (.object [("id", .string "7"), ("tag", .array [.string "a", .string "b"])]) =
    .element "row" [] [.element "id" [] [.text "7"], .element "tag" [] [.text "a"],
      .element "tag" [] [.text "b"]] := rfl

theorem filter_elementsOf (wanted name : String) (v : Value) :
    (elementsOf name v).filter (fun n => n.name? == some wanted) =
      if name = wanted then elementsOf name v else [] := by
  split
  · rename_i h
    refine List.filter_eq_self.mpr fun n hn => ?_
    rw [(name?_of_mem n hn).1, h, beq_self_eq_true]
  · rename_i h
    refine List.filter_eq_nil_iff.mpr fun n hn => ?_
    rw [(name?_of_mem n hn).1]
    simpa using h

/-- The elements of a name are those of the member of that name. -/
theorem filter_membersOf (h : (Fields.keys fields).Nodup) (wanted : String) :
    (membersOf fields).filter (fun n => n.name? == some wanted) =
      (Fields.get? wanted fields).elim [] (elementsOf wanted) := by
  induction fields with
  | nil => rfl
  | cons field fields ih =>
      obtain ⟨name, v⟩ := field
      rw [Fields.keys, List.map_cons, List.nodup_cons] at h
      rw [membersOf_cons, List.filter_append, filter_elementsOf, ih h.2]
      by_cases hname : name = wanted
      · subst hname
        have hnone : Fields.get? name fields = none := Fields.get?_eq_none_iff.mpr h.1
        simp [Fields.get?, hnone]
      · simp [Fields.get?, hname]

/-- The text of the element of a text. -/
theorem innerText_ofValue (name s : String) : (ofValue name (.string s)).innerText = s := by
  simp [ofValue, contentOf, Node.innerText, Node.childrenText]

end Recast.Markup
