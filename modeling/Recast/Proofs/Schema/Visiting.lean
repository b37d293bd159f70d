import Recast.Proofs.Outcome
import Recast.Proofs.Schema.Preorder

/-!
# Visits to schemas

A visitor is shown the entries of the walk in their order, up to the first one that it answers with
an error; the faults of a schema come after the entries before them.
-/

namespace Recast.Schema

open Json (Value Fields)
open Recast.Path (Selector)

variable {ε : Type} {visitor : Visitor ε} {ofFault : WalkFault → ε}
variable {shown es : List Entry} {schema : Value}

/-! ## Visits are walks that are shown -/

/-- Shows a walk to a visitor, and then the fault that ends it. -/
def Walk.showTo (visitor : Visitor ε) (ofFault : WalkFault → ε) (w : Walk) : Showing ε Unit := do
  forM w.entries visitor.see
  match w.fault with
  | some fault => throw (ofFault fault)
  | none => pure ()

theorem Walk.showTo_cons (e : Entry) (w : Walk) :
    Walk.showTo visitor ofFault ⟨e :: w.entries, w.fault⟩ =
      visitor.see e >>= fun _ => w.showTo visitor ofFault := by
  simp only [showTo, List.forM_cons, bind_assoc]

theorem Walk.showTo_failed (problem : WalkProblem) (path : String) :
    (Walk.failed problem path).showTo visitor ofFault = throw (ofFault ⟨problem, path⟩) := by
  simp only [showTo, failed, List.forM_nil, pure_bind]

theorem Walk.showTo_andThen (w w' : Walk) :
    (w.andThen w').showTo visitor ofFault =
      w.showTo visitor ofFault >>= fun _ => w'.showTo visitor ofFault := by
  unfold andThen
  split
  · rename_i fault hfault
    simp only [showTo, hfault, bind_assoc]
    rfl
  · rename_i hfault
    simp only [showTo, hfault, List.forM_append, bind_assoc, pure_bind]

mutual

theorem visit_eq : ∀ (fragment : Value) (path : String) (depth : Nat) (key : Key),
    visit visitor ofFault path depth key fragment =
      (walk path depth key fragment).showTo visitor ofFault
  | .object fields, path, depth, key => by
      unfold visit walk
      rw [Walk.showTo_cons]
      congr
      funext _
      split
      · exact visitProperties_eq fields path depth
      · exact visitItems_eq fields path depth
      · rfl
  | .null, path, _, _ => (Walk.showTo_failed .notAnObject path).symm
  | .bool _, path, _, _ => (Walk.showTo_failed .notAnObject path).symm
  | .number _, path, _, _ => (Walk.showTo_failed .notAnObject path).symm
  | .string _, path, _, _ => (Walk.showTo_failed .notAnObject path).symm
  | .array _, path, _, _ => (Walk.showTo_failed .notAnObject path).symm

theorem visitProperties_eq : ∀ (fields : List (String × Value)) (path : String) (depth : Nat),
    visitProperties visitor ofFault path depth fields =
      (walkProperties path depth fields).showTo visitor ofFault
  | [], path, _ => (Walk.showTo_failed .missingProperties path).symm
  | (key, v) :: rest, path, depth => by
      unfold visitProperties walkProperties
      split
      · match v with
        | .object properties => exact visitEach_eq properties path depth
        | .null | .bool _ | .number _ | .string _ | .array _ =>
            exact (Walk.showTo_failed .missingProperties path).symm
      · exact visitProperties_eq rest path depth

theorem visitItems_eq : ∀ (fields : List (String × Value)) (path : String) (depth : Nat),
    visitItems visitor ofFault path depth fields =
      (walkItems path depth fields).showTo visitor ofFault
  | [], path, _ => (Walk.showTo_failed .missingItems path).symm
  | (key, v) :: rest, path, depth => by
      unfold visitItems walkItems
      split
      · match v with
        | .object items => exact visit_eq (.object items) _ _ _
        | .null | .bool _ | .number _ | .string _ | .array _ =>
            exact (Walk.showTo_failed .missingItems path).symm
      · exact visitItems_eq rest path depth

theorem visitEach_eq : ∀ (properties : List (String × Value)) (path : String) (depth : Nat),
    visitEach visitor ofFault path depth properties =
      (walkEach path depth properties).showTo visitor ofFault
  | [], _, _ => rfl
  | (name, v) :: rest, path, depth => by
      rw [visitEach, walkEach, Walk.showTo_andThen, visit_eq v, visitEach_eq rest]

end

theorem visitAll_eq : visitAll visitor ofFault schema =
    ((entries schema).showTo visitor ofFault).run [] :=
  congrArg (fun x : Showing ε Unit => x.run []) (visit_eq schema Path.rootPath 0 .root)

/-! ## What is shown -/

/-- A visitor that accepts entries is shown all of them. -/
theorem run_forM_see (h : ∀ k (hk : k < es.length), visitor (shown ++ es.take k) es[k] = .ok ()) :
    (forM es visitor.see).run shown = (.ok (), shown ++ es) := by
  induction es generalizing shown with
  | nil => simp; rfl
  | cons e es ih =>
      have hfirst : (visitor.see e).run shown = (.ok (), shown ++ [e]) := by
        have he := h 0 (by simp)
        simp only [List.take_zero, List.append_nil, List.getElem_cons_zero] at he
        exact congrArg (·, shown ++ [e]) he
      rw [List.forM_cons, run_bind_of_ok hfirst, ih]
      · simp
      · intro k hk
        have hnext := h (k + 1) (Nat.succ_lt_succ hk)
        rwa [List.take_succ_cons, List.append_cons, List.getElem_cons_succ] at hnext

/-- A visitor that accepts some entries and refuses the next one is shown no more. -/
theorem run_forM_see_error {k : Nat} {error : ε} (hk : k < es.length)
    (haccepts : ∀ j (hj : j < k), visitor (es.take j) es[j] = .ok ())
    (hrefuses : visitor (es.take k) es[k] = .error error) :
    (forM es visitor.see).run [] = (.error error, es.take (k + 1)) := by
  have hbefore : (forM (es.take k) visitor.see).run [] = (.ok (), es.take k) := by
    refine run_forM_see fun j hj => ?_
    have hjk : j < k := Nat.lt_of_lt_of_le hj (List.length_take_le k es)
    rw [List.nil_append, List.take_take, Nat.min_eq_left (Nat.le_of_lt hjk), List.getElem_take]
    exact haccepts j hjk
  have hlast : (visitor.see es[k]).run (es.take k) = (.error error, es.take (k + 1)) := by
    rw [List.take_succ_eq_append_getElem hk]
    exact congrArg (·, es.take k ++ [es[k]]) hrefuses
  have hsplit : es = es.take k ++ es[k] :: es.drop (k + 1) := by simp
  conv_lhs => rw [hsplit]
  rw [List.forM_append, run_bind_of_ok hbefore, List.forM_cons, run_bind_of_error hlast]

/-- A visitor that accepts everything is shown all entries, and then the walk ends as it does. -/
theorem visitAll_of_accepts (h : ∀ shown e, visitor shown e = .ok ()) :
    visitAll visitor ofFault schema =
      (match (entries schema).fault with
        | some fault => .error (ofFault fault)
        | none => .ok (),
        (entries schema).entries) := by
  rw [visitAll_eq, Walk.showTo, run_bind_of_ok (run_forM_see fun k _ => h _ _)]
  split <;> rfl

/-- A visit that a visitor ends does not come to a fault of the schema. -/
theorem visitAll_of_refuses {k : Nat} {error : ε} (hk : k < (entries schema).entries.length)
    (haccepts : ∀ j (hj : j < k), visitor ((entries schema).entries.take j)
      (entries schema).entries[j] = .ok ())
    (hrefuses : visitor ((entries schema).entries.take k) (entries schema).entries[k] =
      .error error) :
    visitAll visitor ofFault schema = (.error error, (entries schema).entries.take (k + 1)) := by
  rw [visitAll_eq, Walk.showTo, run_bind_of_error (run_forM_see_error hk haccepts hrefuses)]

/-- The entries that a visitor is shown are those that trails lead to, by paths that read as the
trails, and in the order of the trails. An error at one of the entries is the last that happens. -/
theorem visited_along_trails {es : List Entry} (hk : schema.hasDistinctKeys = true)
    (haccepts : ∀ shown e, visitor shown e = .ok ())
    (hdone : visitAll visitor ofFault schema = (.ok (), es)) :
    (∃ trails : List (List Selector),
      List.Forall₂ (fun trail e => Path.parse e.path = .ok ⟨.document, trail⟩ ∧
          e.depth = trail.length ∧ e.key = Key.ofTrail trail ∧
          fragmentAt? trail schema = some e.fragment) trails es ∧
        (∀ trail, trail ∈ trails ↔ (fragmentAt? trail schema).isSome = true) ∧
        trails.Nodup ∧ trails.Pairwise (Precedes schema)) ∧
      (es.map Entry.path).Nodup ∧
      ∀ {ε' : Type} (visitor' : Visitor ε') (ofFault' : WalkFault → ε') (error : ε') (k : Nat)
        (hlast : k < es.length), (∀ j (hj : j < k), visitor' (es.take j) es[j] = .ok ()) →
        visitor' (es.take k) es[k] = .error error →
        visitAll visitor' ofFault' schema = (.error error, es.take (k + 1)) := by
  obtain ⟨hend, rfl⟩ := Prod.mk.inj ((visitAll_of_accepts haccepts).symm.trans hdone)
  have hnone : (entries schema).fault = none := by
    cases hfault : (entries schema).fault with
    | none => rfl
    | some fault =>
        rw [hfault] at hend
        cases hend
  obtain ⟨trails, h⟩ := entries_lists hk
  refine ⟨⟨trails, h.entries.imp fun trail e he => ?_, fun trail => ⟨h.isSome_fragmentAt?, ?_⟩,
    h.nodup hk, h.ordered⟩, h.nodup_paths hk, fun _ _ _ _ hlast => visitAll_of_refuses hlast⟩
  · have hsteps : ∀ s ∈ trail, s.IsStep := fun s hs =>
      (isTrailStep_of_fragmentAt? he.fragment_eq s hs).isStep
    have hparse := (Path.denotes_written hsteps).parse_eq
    exact ⟨he.path_eq ▸ hparse, by simpa using he.depth_eq, he.key_eq, he.fragment_eq⟩
  · exact h.complete hnone trail

theorem visited_along_trails_quoted :
    let schema : Value := .object [("properties", .object
      [("it's", .object [("type", .string "string")]),
        ("", .object [("items", .object [("type", .array [.null, .string "number"])])])])]
    let es := (visitAll (fun _ _ => .ok ()) id schema).2
    (schema.hasDistinctKeys = true ∧ visitAll (fun _ _ => .ok ()) id schema = (.ok (), es)) ∧
      es.map Entry.path = ["$", "$['it\\'s']", "$['']", "$[''][*]"] ∧
      (∃ trails : List (List Selector), ∀ trail, trail ∈ trails ↔
        (fragmentAt? trail schema).isSome = true) ∧
      visitAll (fun shown _ => if shown.length = 1 then .error "stop" else .ok ()) (fun _ => "")
        schema = (.error "stop", es.take 2) := by
  intro schema es
  have hk : schema.hasDistinctKeys = true := by decide
  have hdone : visitAll (fun _ _ => .ok ()) id schema = (.ok (), es) := rfl
  obtain ⟨⟨trails, _, hall, _⟩, _, hlast⟩ := visited_along_trails hk (fun _ _ => rfl) hdone
  refine ⟨⟨hk, hdone⟩, by decide, ⟨trails, hall⟩, hlast _ _ _ 1 (by decide) ?_ rfl⟩
  intro j hj
  obtain rfl := Nat.lt_one_iff.mp hj
  rfl

end Recast.Schema
