import Recast.Proofs.Transform.Elements

/-!
# Scopes of canonical paths

The paths of elements are compared with other paths as texts. On canonical paths the comparison is
exact: a path is below another one where its selectors go on behind those of the other, and what is
left of its text reads as the selectors that are left.
-/

namespace Recast.Transform

open Input (below? below?_written_eq)
open Recast.Path
open Schema (Declared Descriptor Instance listFragment objectFragment scalarFragment)

variable {p q : Path} {sels : List Selector}

/-! ## What is left of a path -/

/-- A path from the document that is read from some text. -/
structure FromDocument (p : Path) : Prop where
  root_eq : p.root = .document
  exists_source : ∃ source, Path.parse source = .ok p

theorem FromDocument.writable (h : FromDocument p) : Writable p.selectors := by
  obtain ⟨source, hsource⟩ := h.exists_source
  exact (parse_eq_ok_iff.mp hsource).writable

theorem FromDocument.text_eq (h : FromDocument p) : p.text = written p.selectors := by
  obtain ⟨root, sels⟩ := p
  obtain rfl : root = .document := h.root_eq
  rfl

theorem FromDocument.of_writable (h : Writable sels) : FromDocument ⟨.document, sels⟩ :=
  ⟨rfl, written sels, h.denotes.parse_eq⟩

/-- The path leads through members and the items of lists to the items of a list. -/
structure LeadsToItems (p : Path) : Prop where
  trail : ∀ s ∈ p.selectors, IsTrailStep s
  last : p.selectors.getLast? = some .wildcard

/-- What a comparison leaves of the path `q` behind the path `p`: something exactly where the
selectors of `q` begin with those of `p`, and then, put behind the document, a text of the path with
the other selectors. -/
structure LeftBehind (p q : Path) (left : Option String) : Prop where
  isSome_iff : left.isSome = true ↔ p.selectors <+: q.selectors
  parse_eq : ∀ rest, left = some rest →
    Path.parse ("$" ++ rest) = .ok ⟨.document, q.selectors.drop p.selectors.length⟩

/-- Behind a path without descents, what is left is exact. -/
theorem leftBehind_of_isStep (hp : FromDocument p) (hq : FromDocument q)
    (hs : ∀ s ∈ p.selectors, s.IsStep) : LeftBehind p q (below? p.text q.text) := by
  rw [hp.text_eq, hq.text_eq, below?_written_eq hs hq.writable]
  refine ⟨by split <;> simp [*], fun rest hrest => ?_⟩
  split at hrest
  · rename_i hbegins
    obtain ⟨later, hlater⟩ := hbegins
    -- The selectors that are left can be written alone, so that their text reads back.
    have hw := hq.writable
    rw [← hlater] at hw hrest ⊢
    rw [List.drop_left] at hrest ⊢
    cases hrest
    exact (hw.of_append hs).denotes.parse_eq
  · cases hrest

/-! ## Paths of items -/

/-- The path of the items of a list of a schema is canonical and leads to items. -/
theorem exists_items_path {schema : Json.Value} {d : Descriptor}
    (hread : Descriptor.read schema = .ok d) {declared : Declared} {items : Instance}
    (hlist : .array declared items ∈ d.instances) :
    ∃ p, FromDocument p ∧ LeadsToItems p ∧ items.path = p.text := by
  obtain ⟨trail, ht, ha⟩ := (Descriptor.root_addressed hread).of_mem_all hlist
  cases ha with
  | array _ below =>
      have hitems := Instance.isTrailStep_append ht .wildcard trivial
      refine ⟨⟨.document, trail ++ [.wildcard]⟩,
        .of_writable (.of_forall fun s hs => (hitems s hs).isStep), ⟨hitems, by simp⟩, ?_⟩
      exact below.at.path_eq

/-- On canonical paths the comparison of texts is exact: behind a definite path, as in a lookup, and
behind the path of items, where it leaves what is kept when the path of an element takes the place of
that of the items. The items of every list of a schema have such a path. -/
theorem leftBehind_texts :
    (∀ p q : Path, FromDocument p → FromDocument q →
      (p.isDefinite = true → LeftBehind p q (below? p.text q.text)) ∧
      (LeadsToItems p → ∃ left, LeftBehind p q left ∧ ∀ element : String,
        Place.substitute q.text ⟨p.text, element⟩ =
          match left with
          | some rest => element ++ rest
          | none => q.text)) ∧
    ∀ (schema : Json.Value) (d : Descriptor), Descriptor.read schema = .ok d →
      ∀ declared items, Instance.array declared items ∈ d.instances →
        ∃ p, FromDocument p ∧ LeadsToItems p ∧ items.path = p.text := by
  refine ⟨fun p q hp hq => ⟨fun hdefinite => ?_, fun hitems => ?_⟩,
    fun schema d hread declared items hlist => exists_items_path hread hlist⟩
  · exact leftBehind_of_isStep hp hq (hp.writable.isStep_of_isDefinite hdefinite)
  · exact ⟨_, leftBehind_of_isStep hp hq fun s hs => (hitems.trail s hs).isStep, fun _ => rfl⟩

/-- A longer index, a descent behind an index, and the items of a list whose name is written in
quotes. -/
theorem leftBehind_texts_crops :
    let crop : Path := ⟨.document, [.child "crops", .index 1]⟩
    let other : Path := ⟨.document, [.child "crops", .index 10, .child "path"]⟩
    let below : Path := ⟨.document, [.child "crops", .index 1, .descent, .child "a.b"]⟩
    let words : Path := ⟨.document, [.child "two words", .wildcard]⟩
    let ids : Path := ⟨.document, [.child "two words", .wildcard, .descent, .child "id"]⟩
    let word : Instance := .scalar ⟨"$['two words'][*]", none, none, [], []⟩ .string
    let list : Declared := ⟨"$['two words']", some "two words", none, [], []⟩
    let schema : Json.Value := objectFragment [("two words", listFragment (scalarFragment "string"))]
    let d : Descriptor := ⟨.object ⟨"$", none, none, [], []⟩ [.array list word], schema⟩
    (FromDocument crop ∧ FromDocument other ∧ FromDocument below ∧ crop.isDefinite = true) ∧
      (FromDocument words ∧ FromDocument ids ∧ LeadsToItems words) ∧
      (Descriptor.read schema = .ok d ∧ .array list word ∈ d.instances) ∧
      below? "$.crops[1]" "$.crops[10].path" = none ∧
      below? "$.crops[1]" "$.crops[1]..['a.b']" = some "..['a.b']" ∧
      Path.parse "$..['a.b']" = .ok ⟨.document, [.descent, .child "a.b"]⟩ ∧
      (∃ left, LeftBehind words ids left ∧
        Place.substitute "$['two words'][*]..id" ⟨"$['two words'][*]", "$['two words'][3]"⟩ =
          match left with
          | some rest => "$['two words'][3]" ++ rest
          | none => "$['two words'][*]..id") ∧
      ∃ p, FromDocument p ∧ LeadsToItems p ∧ word.path = p.text := by
  intro crop other below words ids word list schema d
  have hcrop : FromDocument crop := ⟨rfl, " $['crops'][ 01 ]", by rfl⟩
  have hother : FromDocument other := ⟨rfl, "$.crops[10].path", by rfl⟩
  have hbelow : FromDocument below := ⟨rfl, "$.crops[1]..[\"a.b\"]", by rfl⟩
  have hwords : FromDocument words := ⟨rfl, "$['two words'].*", by rfl⟩
  have hids : FromDocument ids := ⟨rfl, "$['two words'].*..id", by rfl⟩
  have hitems : LeadsToItems words := ⟨by simp [words, IsTrailStep], rfl⟩
  have hread : Descriptor.read schema = .ok d := rfl
  have hlist : .array list word ∈ d.instances :=
    Instance.mem_all_object.mpr (Or.inr ⟨_, List.mem_singleton.mpr rfl, Instance.self_mem_all _⟩)
  have hcropText : crop.text = "$.crops[1]" := by decide +kernel
  have hotherText : other.text = "$.crops[10].path" := by decide +kernel
  have hbelowText : below.text = "$.crops[1]..['a.b']" := by decide +kernel
  obtain ⟨hexact, hschema⟩ := leftBehind_texts
  have hapart := (hexact crop other hcrop hother).1 rfl
  have hleft := (hexact crop below hcrop hbelow).1 rfl
  obtain ⟨left, hwordsLeft, hsubstitute⟩ := (hexact words ids hwords hids).2 hitems
  rw [hcropText, hotherText] at hapart
  rw [hcropText, hbelowText] at hleft
  have hnot : ¬ crop.selectors <+: other.selectors := by decide
  have hnone := Option.not_isSome_iff_eq_none.mp fun hsome => hnot (hapart.isSome_iff.mp hsome)
  have hsome : below? "$.crops[1]" "$.crops[1]..['a.b']" = some "..['a.b']" := by rfl
  have hrest := hleft.parse_eq _ hsome
  have hjoined : "$" ++ "..['a.b']" = "$..['a.b']" := by decide +kernel
  rw [hjoined] at hrest
  exact ⟨⟨hcrop, hother, hbelow, rfl⟩, ⟨hwords, hids, hitems⟩, ⟨hread, hlist⟩, hnone, hsome,
    hrest, ⟨left, hwordsLeft, hsubstitute _⟩, hschema schema d hread list word hlist⟩

end Recast.Transform
