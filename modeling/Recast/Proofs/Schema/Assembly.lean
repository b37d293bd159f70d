import Recast.Proofs.Schema.Entries
import Recast.Schema.Assembly

/-!
# What is put together along a walk

The instances that are put together along the walk of a schema are those that are read from it. Below
the depth of an entry the stack is what it was before: that holds along the walk of every fragment,
which leaves its own instance on top.
-/

namespace Recast.Schema

open Json (Value Fields)

variable {stack base : List Assembled} {depth : Nat} {child parent : Assembled} {w w' : Walk}

/-! ## Stacks -/

theorem attach_length (stack : List Assembled) : (attach stack).length = stack.length - 1 := by
  match stack with
  | [] => rfl
  | [_] => rfl
  | _ :: _ :: _ => rfl

theorem repeat_attach_length (n : Nat) (stack : List Assembled) :
    (Nat.repeat attach n stack).length = stack.length - n := by
  induction n with
  | zero => rfl
  | succ n ih =>
      rw [Nat.repeat, attach_length, ih]
      omega

theorem unwind_length (depth : Nat) (stack : List Assembled) :
    (unwind depth stack).length = min depth stack.length := by
  rw [unwind, repeat_attach_length]
  omega

theorem unwind_of_length_le (h : stack.length ≤ depth) : unwind depth stack = stack := by
  rw [unwind, Nat.sub_eq_zero_of_le h]
  rfl

theorem unwind_eq_attach (h : depth < stack.length) :
    unwind depth stack = attach (unwind (depth + 1) stack) := by
  have hsucc : stack.length - depth = (stack.length - (depth + 1)) + 1 := by omega
  rw [unwind, unwind, hsucc]
  rfl

theorem unwind_adopt (h : unwind (depth + 2) stack = child :: parent :: base)
    (hbase : base.length = depth) : unwind (depth + 1) stack = parent.adopt child :: base := by
  have hlength := congrArg List.length h
  simp only [unwind_length, List.length_cons, hbase] at hlength
  rw [unwind_eq_attach (by omega), h]
  rfl

/-! ## Walks -/

theorem Walk.enterAll_cons (e : Entry) (w : Walk) (stack : List Assembled) :
    Walk.enterAll ⟨e :: w.entries, w.fault⟩ stack = enter stack e >>= w.enterAll := by
  simp only [enterAll, List.foldlM_cons, bind_assoc]
  rfl

theorem Walk.enterAll_andThen (w w' : Walk) (stack : List Assembled) :
    (w.andThen w').enterAll stack = w.enterAll stack >>= w'.enterAll := by
  unfold andThen
  split
  · rename_i fault hfault
    simp only [enterAll, hfault, bind_assoc]
    rfl
  · rename_i hfault
    simp only [enterAll, hfault, List.foldlM_append, bind_assoc]
    rfl

theorem enter_object (path : String) (depth : Nat) (key : Key) (fields : Fields)
    (stack : List Assembled) :
    enter stack ⟨path, depth, key, .object fields⟩ =
      (Declared.read path (topPath (unwind depth stack)) key.name? fields).map
        fun (declared, kind) => .mk declared kind [] none :: unwind depth stack := by
  unfold enter
  dsimp only [Value.object?, Option.getD_some]
  cases Declared.read path (topPath (unwind depth stack)) key.name? fields <;> rfl

/-! ## Instances -/

namespace Assembled

mutual

/-- What is put together of an instance. -/
def ofInstance : Instance → Assembled
  | .scalar d k => .mk d (.scalar k) [] none
  | .object d ps => .mk d .object (ofInstances ps) none
  | .array d items => .mk d .array [] (some (ofInstance items))
termination_by structural i => i

def ofInstances : List Instance → List Assembled
  | [] => []
  | i :: is => ofInstance i :: ofInstances is
termination_by structural is => is

end

end Assembled

open Assembled (ofInstance ofInstances)

mutual

/-- The walk of a fragment leaves the instance that is read from it on top of what is left when its
depth is reached. -/
theorem enterAll_walk : ∀ (fragment : Value) {path : String} {depth : Nat} {key : Key}
    {stack : List Assembled}, depth ≤ stack.length →
    ((walk path depth key fragment).enterAll stack).map (unwind (depth + 1)) =
      (Instance.read path (topPath (unwind depth stack)) key.name? fragment).map
        fun i => ofInstance i :: unwind depth stack
  | .object fields, path, depth, key, stack, hdepth => by
      unfold walk Instance.read
      rw [Walk.enterAll_cons, enter_object]
      have hbase : (unwind depth stack).length = depth := by rw [unwind_length]; omega
      generalize unwind depth stack = base at hbase
      cases hd : Declared.read path (topPath base) key.name? fields with
      | error fault => rfl
      | ok read =>
          obtain ⟨d, kind⟩ := read
          obtain ⟨type, htype, hobject, harray⟩ := typeName?_of_read hd
          have hpath := (Declared.read_eq_ok hd).2.2.1
          cases kind with
          | scalar k =>
              rw [htype]
              split
              · rename_i heq
                cases hobject.mpr (Option.some.inj heq)
              · rename_i heq
                cases harray.mpr (Option.some.inj heq)
              · exact congrArg Except.ok (unwind_of_length_le (by simp [hbase]))
          | object =>
              rw [htype, hobject.mp rfl]
              refine (enterAll_walkProperties fields hpath hbase).trans ?_
              cases Instance.readProperties path fields <;> rfl
          | array =>
              rw [htype, harray.mp rfl]
              refine (enterAll_walkItems fields hpath hbase).trans ?_
              cases Instance.readItems path fields <;> rfl
  | .null, _, _, _, _, _ => rfl
  | .bool _, _, _, _, _, _ => rfl
  | .number _, _, _, _, _, _ => rfl
  | .string _, _, _, _, _, _ => rfl
  | .array _, _, _, _, _, _ => rfl
termination_by structural fragment => fragment

theorem enterAll_walkProperties : ∀ (fields : List (String × Value)) {path : String} {depth : Nat}
    {d : Declared} {base : List Assembled}, d.path = path → base.length = depth →
    ((walkProperties path depth fields).enterAll (.mk d .object [] none :: base)).map
        (unwind (depth + 1)) =
      (Instance.readProperties path fields).map
        fun is => .mk d .object (ofInstances is) none :: base
  | [], _, _, _, _, _, _ => rfl
  | (key, v) :: rest, path, depth, d, base, hpath, hbase => by
      unfold walkProperties Instance.readProperties
      split
      · match v with
        | .object properties =>
            have htop : unwind (depth + 1) (.mk d .object [] none :: base) =
                .mk d .object [] none :: base := unwind_of_length_le (by simp [hbase])
            exact enterAll_walkEach properties hpath hbase htop
        | .null | .bool _ | .number _ | .string _ | .array _ => rfl
      · exact enterAll_walkProperties rest hpath hbase
termination_by structural fields => fields

theorem enterAll_walkItems : ∀ (fields : List (String × Value)) {path : String} {depth : Nat}
    {d : Declared} {base : List Assembled}, d.path = path → base.length = depth →
    ((walkItems path depth fields).enterAll (.mk d .array [] none :: base)).map
        (unwind (depth + 1)) =
      (Instance.readItems path fields).map
        fun i => .mk d .array [] (some (ofInstance i)) :: base
  | [], _, _, _, _, _, _ => rfl
  | (key, v) :: rest, path, depth, d, base, hpath, hbase => by
      unfold walkItems Instance.readItems
      split
      · match v with
        | .object items =>
            have hdepth : depth + 1 ≤ (Assembled.mk d .array [] none :: base).length := by
              simp [hbase]
            have htop : unwind (depth + 1) (.mk d .array [] none :: base) =
                .mk d .array [] none :: base := unwind_of_length_le (by simp [hbase])
            have hitems := @enterAll_walk (.object items) (Path.itemPath path) (depth + 1) .items _
              hdepth
            rw [htop, topPath, List.head?_cons, Option.map_some, Option.getD_some] at hitems
            simp only [Assembled.declared, hpath, Key.name?] at hitems
            dsimp only
            rcases map_eq_map_iff.mp hitems with ⟨fault, hrun, hread⟩ | ⟨next, i, hrun, hread, hnext⟩
            · rw [hrun, hread]
              rfl
            · rw [hrun, hread]
              exact congrArg Except.ok (unwind_adopt hnext hbase)
        | .null | .bool _ | .number _ | .string _ | .array _ => rfl
      · exact enterAll_walkItems rest hpath hbase
termination_by structural fields => fields

theorem enterAll_walkEach : ∀ (properties : List (String × Value)) {path : String} {depth : Nat}
    {d : Declared} {done base stack : List Assembled}, d.path = path → base.length = depth →
    unwind (depth + 1) stack = .mk d .object done none :: base →
    ((walkEach path depth properties).enterAll stack).map (unwind (depth + 1)) =
      (Instance.readEach path properties).map
        fun is => .mk d .object (done ++ ofInstances is) none :: base
  | [], path, depth, d, done, base, stack, _, _, hstack => by
      rw [walkEach, Instance.readEach]
      show Except.ok (unwind (depth + 1) stack) = Except.ok _
      rw [hstack]
      simp [ofInstances]
  | (name, v) :: rest, path, depth, d, done, base, stack, hpath, hbase, hstack => by
      -- The property before this one may be on top still. It is attached when this one is entered.
      have hdepth : depth + 1 ≤ stack.length := by
        have hlength := congrArg List.length hstack
        simp only [unwind_length, List.length_cons, hbase] at hlength
        omega
      have hfirst := @enterAll_walk v (Path.childPath path name) (depth + 1) (.property name) stack
        hdepth
      have htop : topPath (unwind (depth + 1) stack) = path := by rw [hstack]; exact hpath
      rw [htop, Key.name?, hstack] at hfirst
      rw [walkEach, Walk.enterAll_andThen, Instance.readEach]
      rcases map_eq_map_iff.mp hfirst with ⟨fault, hrun, hread⟩ | ⟨next, i, hrun, hread, hnext⟩
      · rw [hrun, hread]
        rfl
      · have hdone : unwind (depth + 1) next =
            .mk d .object (done ++ [ofInstance i]) none :: base := unwind_adopt hnext hbase
        have hrest := enterAll_walkEach rest hpath hbase hdone
        rw [hrun, hread]
        refine hrest.trans ?_
        cases Instance.readEach path rest with
        | error fault => rfl
        | ok is => simp [Except.map, bind, Except.bind, ofInstances]
termination_by structural properties => properties

end

/-- What is put together along the walk of a schema is what is read from it, and fails as reading it
does. -/
theorem assemble_eq (schema : Value) :
    assemble schema = (Descriptor.read schema).map fun d => some (ofInstance d.root) := by
  have hwalk := @enterAll_walk schema Path.rootPath 0 .root [] (Nat.zero_le _)
  change ((entries schema).enterAll []).map (unwind 1) =
    (Instance.read Path.rootPath Path.rootPath none schema).map fun i => [ofInstance i] at hwalk
  unfold assemble Descriptor.read
  rcases map_eq_map_iff.mp hwalk with ⟨fault, hrun, hread⟩ | ⟨stack, i, hrun, hread, hstack⟩
  · rw [hrun, hread]
    rfl
  · rw [hrun, hread]
    exact congrArg (fun stack => Except.ok stack.head?) hstack

end Recast.Schema
