import Recast.Proofs.Input.Lookup
import Recast.Proofs.Path.Select

/-!
# Narrowing to what the document holds

A context that was narrowed, again and again, to what its document holds at the places of elements
finds what the document alone does: the path of a place finds one value, and a path below it finds
in this value what it finds in the document.
-/

namespace Recast.Input

open Json (Value)
open Recast.Path (IsConcrete Selector indexLimit selectAll written)

variable {document v : Value} {c : Context} {path q : String} {sels later : List Selector}

/-! ## Places of a document -/

/-- The paths that are built step by step along a document, and what stands there. -/
inductive HeldAt (document : Value) : String → Value → Prop where
  | root : HeldAt document Path.rootPath document
  | member {path name : String} {v w : Value} (h : HeldAt document path v)
      (hw : v.field? name = some w) : HeldAt document (Path.childPath path name) w
  | element {path : String} {items : List Value} {w : Value} {i : Nat}
      (h : HeldAt document path (.array items)) (hi : i < indexLimit) (hw : items[i]? = some w) :
      HeldAt document (Path.elementPath path i) w

/-- The path of a place is canonical, and its steps find what stands there and nothing else. -/
theorem HeldAt.exists_trail (h : HeldAt document path v) :
    ∃ sels, (∀ s ∈ sels, IsConcrete s) ∧ path = written sels ∧ selectAll sels document = [v] := by
  induction h with
  | root => exact ⟨[], by simp, Path.rootPath_written, rfl⟩
  | @member path name v w _ hw ih =>
      obtain ⟨sels, hsels, rfl, hv⟩ := ih
      have hlast : IsConcrete (.child name) := ⟨trivial, rfl⟩
      have hpath := Path.childPath_written (fun s hs => (hsels s hs).1) name
      refine ⟨sels ++ [.child name], ?_, hpath, ?_⟩
      · simpa [or_imp, forall_and] using ⟨hsels, hlast⟩
      · rw [Path.stepwise.append, hv]
        simp [selectAll, Selector.select, hw]
  | @element path items w i _ hi hw ih =>
      obtain ⟨sels, hsels, rfl, hv⟩ := ih
      have hlast : IsConcrete (.index i) := ⟨hi, rfl⟩
      have hpath := Path.elementPath_written (fun s hs => (hsels s hs).1) i
      refine ⟨sels ++ [.index i], ?_, hpath, ?_⟩
      · simpa [or_imp, forall_and] using ⟨hsels, hlast⟩
      · rw [Path.stepwise.append, hv]
        simp [selectAll, Selector.select, hw]

/-! ## Lookups -/

theorem isDefinite_of_isConcrete {sel : Selector} (h : IsConcrete sel) : sel.isDefinite = true := by
  cases sel with
  | child => rfl
  | index => rfl
  | fromEnd => rfl
  | wildcard => cases h.2
  | descent => cases h.2

/-- Behind steps that find one value, a path finds what its later steps find in that value. -/
theorem inValue_append (hsels : ∀ s ∈ sels, IsConcrete s) (hv : selectAll sels document = [v]) :
    Context.inValue ⟨.document, sels ++ later⟩ document = Context.inValue ⟨.document, later⟩ v := by
  have hselect : Path.select ⟨.document, sels ++ later⟩ document =
      Path.select ⟨.document, later⟩ v := by
    simp [Path.select, Path.stepwise.append, hv]
  have hdefinite : Path.isDefinite ⟨.document, sels ++ later⟩ =
      Path.isDefinite ⟨.document, later⟩ := by
    have hfront : sels.all Selector.isDefinite = true :=
      List.all_eq_true.mpr fun s hs => isDefinite_of_isConcrete (hsels s hs)
    rw [Path.isDefinite, List.all_append, hfront, Bool.true_and]
    rfl
  unfold Context.inValue Path.first?
  rw [hselect, hdefinite]

theorem Context.lookup_narrow (c : Context) (path : String) (seed : Finding) (q : String) :
    (c.narrow path seed).lookup q =
      match below? path q with
      | some left => readPath ("$" ++ left) >>= fun p => inSeed p seed
      | none => c.lookup q := by
  rw [lookup, narrow, scopeOf?]
  cases below? path q with
  | none => rfl
  | some left => rfl

/-- What a path finds below a place in what stands there, it finds in the document. -/
theorem HeldAt.inSeed_iff {left : String} {found : Option Finding} (h : HeldAt document path v)
    (hq : below? path q = some left) :
    (Context.readPath ("$" ++ left) >>= fun p => Context.inSeed p (.json v)) = .ok found ↔
      (Context.readPath q >>= fun p => Context.inDocument p (.json document)) = .ok found := by
  obtain ⟨sels, hsels, rfl, hv⟩ := h.exists_trail
  obtain ⟨rfl, hbreak⟩ := below?_eq_some_iff.mp hq
  have hparse := fun p => @Path.parse_append_iff sels (fun s hs => (hsels s hs).1) left hbreak p
  have hsame : ∀ later, Context.inDocument ⟨.document, sels ++ later⟩ (.json document) =
      Context.inSeed ⟨.document, later⟩ (.json v) :=
    fun later => congrArg Except.ok (inValue_append hsels hv)
  constructor
  · intro hfound
    obtain ⟨p, hp, hfound⟩ := bind_eq_ok hfound
    replace hp := Context.readPath_eq_ok_iff.mp hp
    have hleft : ("$" ++ left).toList = '$' :: left.toList := by simp
    obtain ⟨later, rfl, _⟩ := (Path.parse_document_iff hleft).mp hp
    rw [Context.readPath_eq_ok_iff.mpr ((hparse _).mpr ⟨later, rfl, hp⟩)]
    exact (hsame later).trans hfound
  · intro hfound
    obtain ⟨p, hp, hfound⟩ := bind_eq_ok hfound
    obtain ⟨later, rfl, hlater⟩ := (hparse p).mp (Context.readPath_eq_ok_iff.mp hp)
    rw [Context.readPath_eq_ok_iff.mpr hlater]
    exact (hsame later).symm.trans hfound

/-! ## Narrowed contexts -/

/-- The contexts that a document is narrowed to, each time to what it holds at a place. -/
inductive NarrowedTo (document : Value) : Context → Prop where
  | whole : NarrowedTo document (.ofDocument (.json document))
  | narrow {c : Context} {path : String} {v : Value} (h : NarrowedTo document c)
      (hv : HeldAt document path v) : NarrowedTo document (c.narrow path (.json v))

/-- A context that was narrowed to what its document holds finds what the document alone does, and
fails where this does. -/
theorem lookup_narrowed (h : NarrowedTo document c) (q : String) (found : Option Finding) :
    c.lookup q = .ok found ↔ (Context.ofDocument (.json document)).lookup q = .ok found := by
  induction h with
  | whole => exact Iff.rfl
  | @narrow c path v _ hv ih =>
      rw [Context.lookup_narrow]
      split
      · rename_i left hleft
        exact hv.inSeed_iff hleft
      · exact ih

/-- A list in a list, with a null in it. -/
def cropRow : List Value := [.null, .object [("path", .string "p1")]]

def cropRows : Value := .object [("two words", .array [.array cropRow])]

/-- The context of the second element of the first row. -/
def cropContext : Context :=
  ((Context.ofDocument (.json cropRows)).narrow "$['two words'][0]" (.json (.array cropRow))).narrow
    "$['two words'][0][1]" (.json (.object [("path", .string "p1")]))

theorem lookup_narrowed_rows :
    NarrowedTo cropRows cropContext ∧
      ∃ found, cropContext.lookup "$['two words'][0][ 1 ]..* " = .ok (some found) ∧
        (Context.ofDocument (.json cropRows)).lookup "$['two words'][0][ 1 ]..* " =
          .ok (some found) ∧
        found.toJson = .array [.string "p1"] := by
  have hwords : HeldAt cropRows "$['two words']" (.array [.array cropRow]) :=
    @HeldAt.member _ "$" "two words" _ _ .root rfl
  have hrow : HeldAt cropRows "$['two words'][0]" (.array cropRow) :=
    @HeldAt.element _ _ _ _ 0 hwords (by decide) rfl
  have hcrop : HeldAt cropRows "$['two words'][0][1]" (.object [("path", .string "p1")]) :=
    @HeldAt.element _ _ _ _ 1 hrow (by decide) rfl
  have h : NarrowedTo cropRows cropContext := (NarrowedTo.whole.narrow hrow).narrow hcrop
  have htext : ((cropContext.lookup "$['two words'][0][ 1 ]..* ").toOption.bind fun found =>
      found.map Finding.toJson) = some (.array [.string "p1"]) := by decide +kernel
  obtain ⟨o, ho, htext⟩ := Option.bind_eq_some_iff.mp htext
  obtain ⟨found, rfl, htext⟩ := Option.map_eq_some_iff.mp htext
  have hfound := toOption_eq_some_iff.mp ho
  exact ⟨h, found, hfound, (lookup_narrowed h _ _).mp hfound, Option.some.inj htext⟩

end Recast.Input
