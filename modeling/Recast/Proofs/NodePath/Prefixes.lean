import Recast.NodePath.Reader
import Recast.Proofs.Markup.LocalNames
import Recast.Proofs.NodePath.Members

/-!
# Prefixes of names in node paths

The names of a document have no prefixes. Tests drop the prefix of their name before they compare it,
but a predicate compares its name as it is written: with a prefix, it holds of no node.
-/

namespace Recast.NodePath

open Markup (Node)

variable {n m root current : Node} {ns : List Node} {p : Predicate} {predicates : List Predicate}
  {s : Step} {steps : List Step}

/-! ## Names without prefixes -/

theorem colon_not_mem_localName (name : String) : ':' ∉ (localName name).toList := by
  rw [localName, String.toList_ofList, Text.afterLast, List.mem_reverse]
  intro hmem
  have hother := List.all_eq_true.mp List.all_takeWhile _ hmem
  simp at hother

theorem localName_localName (name : String) : localName (localName name) = localName name :=
  localName_eq_self (colon_not_mem_localName name)

def Test.unprefixed : Test → Test
  | name wanted => name (localName wanted)
  | attr wanted => attr (localName wanted)
  | t => t

def Predicate.unprefixed : Predicate → Predicate
  | position k => position k
  | attr name value => attr (localName name) value
  | child name value => child (localName name) value

def Step.unprefixed (s : Step) : Step :=
  ⟨s.axis, s.test.unprefixed, s.predicates.map Predicate.unprefixed⟩

/-- The path with its local part in place of every name. -/
def unprefixed (p : NodePath) : NodePath :=
  ⟨p.isAbsolute, p.steps.map Step.unprefixed,
    renderSteps p.isAbsolute (p.steps.map Step.unprefixed)⟩

/-- Whether the predicate compares a name with a prefix. -/
def Predicate.hasPrefix : Predicate → Bool
  | position _ => false
  | attr name _ | child name _ => name.toList.contains ':'

def Step.hasPrefix (s : Step) : Bool := s.predicates.any Predicate.hasPrefix

/-! ## Tests -/

theorem Test.matches_unprefixed (t : Test) (n : Node) : t.unprefixed.matches n = t.matches n := by
  cases t <;> simp only [unprefixed, Test.matches, localName_localName]

theorem Predicate.unprefixed_eq_self (h : p.hasPrefix = false) : p.unprefixed = p := by
  cases p with
  | position => rfl
  | attr name value =>
      have hname : ':' ∉ name.toList := by simpa [hasPrefix] using h
      rw [unprefixed, localName_eq_self hname]
  | child name value =>
      have hname : ':' ∉ name.toList := by simpa [hasPrefix] using h
      rw [unprefixed, localName_eq_self hname]

theorem Step.unprefixed_select (h : s.hasPrefix = false) (n : Node) :
    s.unprefixed.select n = s.select n := by
  have hpredicates : s.predicates.map Predicate.unprefixed = s.predicates := by
    refine (List.map_congr_left fun p hp => ?_).trans (List.map_id _)
    exact Predicate.unprefixed_eq_self (by simpa using List.any_eq_false.mp h p hp)
  simp only [Step.select, unprefixed, hpredicates, Test.matches_unprefixed]

theorem selectAll_unprefixed (h : steps.any Step.hasPrefix = false) (n : Node) :
    selectAll (steps.map Step.unprefixed) n = selectAll steps n := by
  induction steps generalizing n with
  | nil => rfl
  | cons s rest ih =>
      rw [List.any_cons, Bool.or_eq_false_iff] at h
      have hrest : selectAll (rest.map Step.unprefixed) = selectAll rest := funext (ih h.2)
      rw [List.map_cons, stepwise.cons, stepwise.cons, Step.unprefixed_select h.1, hrest]

/-! ## Predicates -/

theorem Predicate.filter_hasPrefix (h : p.hasPrefix = true)
    (hns : ∀ n ∈ ns, n.HasLocalNames) : p.filter ns = [] := by
  have hne {name found : String} (hname : ':' ∈ name.toList) (hfound : ':' ∉ found.toList) :
      found ≠ name := by
    rintro rfl
    exact hfound hname
  cases p with
  | position => cases h
  | attr name value =>
      have hname : ':' ∈ name.toList := by simpa [hasPrefix] using h
      refine List.filter_eq_nil_iff.mpr fun n hn hany => ?_
      obtain ⟨a, ha, heq⟩ := List.any_eq_true.mp hany
      have hpart : Node.attr a ∈ parts n := List.mem_append_left _ (List.mem_map_of_mem ha)
      have hlocal := hns n hn _ (nodes_listing.mem_of_mem_parts hpart) a.name rfl
      simp [hne hname hlocal] at heq
  | child name value =>
      have hname : ':' ∈ name.toList := by simpa [hasPrefix] using h
      refine List.filter_eq_nil_iff.mpr fun n hn hany => ?_
      obtain ⟨c, hc, heq⟩ := List.any_eq_true.mp hany
      have hpart := (elements_sublist_parts n).subset hc
      have hlocal := hns n hn c (nodes_listing.mem_of_mem_parts hpart)
      cases hfound : c.name? with
      | none => simp [hfound] at heq
      | some found => simp [hfound, hne hname (hlocal found hfound)] at heq

theorem filterAll_hasPrefix (h : predicates.any Predicate.hasPrefix = true)
    (hns : ∀ n ∈ ns, n.HasLocalNames) : filterAll predicates ns = [] := by
  obtain ⟨p, hp, hprefix⟩ := List.any_eq_true.mp h
  obtain ⟨before, after, rfl⟩ := List.append_of_mem hp
  have hbefore : ∀ n ∈ filterAll before ns, n.HasLocalNames := fun n hn =>
    hns n ((filterAll_sublist before ns).subset hn)
  have hnone : p.filter (filterAll before ns) = [] := Predicate.filter_hasPrefix hprefix hbefore
  have hcut : filterAll (before ++ p :: after) ns =
      filterAll after (p.filter (filterAll before ns)) := by
    rw [filterAll, List.foldl_append, List.foldl_cons]
    rfl
  rw [hcut, hnone]
  exact List.sublist_nil.mp (filterAll_sublist after [])

theorem Step.select_hasPrefix (h : s.hasPrefix = true) (hn : n.HasLocalNames) :
    s.select n = [] := by
  have hmatches {scope : Node} (hscope : scope ∈ nodes n) :
      filterAll s.predicates (s.test.matches scope) = [] := by
    refine filterAll_hasPrefix h fun m hm => ?_
    have hpart := nodes_listing.mem_of_mem_parts ((matches_sublist _ _).subset hm)
    exact hn.of_mem ((nodes_listing.sublist_of_mem hscope).subset hpart)
  cases haxis : s.axis with
  | self =>
      rw [Step.select, haxis]
      exact filterAll_hasPrefix h (by simpa using hn)
  | child =>
      rw [select_child haxis]
      exact hmatches (nodes_listing.self_mem n)
  | descendant =>
      rw [Step.select, haxis]
      exact List.flatMap_eq_nil_iff.mpr fun scope hscope =>
        hmatches ((scopes_sublist_nodes n).subset hscope)

/-- A step with a prefix in a predicate ends every way through the document. -/
theorem selectAll_hasPrefix (h : steps.any Step.hasPrefix = true) (hn : n.HasLocalNames) :
    selectAll steps n = [] := by
  induction steps generalizing n with
  | nil => cases h
  | cons s rest ih =>
      rw [stepwise.cons]
      cases hs : s.hasPrefix with
      | true => rw [Step.select_hasPrefix hs hn, List.flatMap_nil]
      | false =>
          have hrest : rest.any Step.hasPrefix = true := by simpa [hs] using h
          exact List.flatMap_eq_nil_iff.mpr fun m hm =>
            ih hrest (hn.of_mem (mem_nodes_of_mem_select hm))

/-! ## Paths -/

/-- A path finds what it finds without the prefixes of its names, unless there is a prefix in one of
its predicates, and then it finds nothing. -/
theorem select_unprefixed (hroot : root.HasLocalNames) (hcurrent : current.HasLocalNames)
    (p : NodePath) : p.select root current =
      if p.steps.any Step.hasPrefix then [] else p.unprefixed.select root current := by
  have hstart : (if p.isAbsolute then root.document else current).HasLocalNames := by
    split
    · exact hroot.document
    · exact hcurrent
  split
  · rename_i hprefix
    exact selectAll_hasPrefix hprefix hstart
  · rename_i hplain
    exact (selectAll_unprefixed (Bool.eq_false_iff.mpr hplain) _).symm

theorem select_unprefixed_thumb :
    let text := "<feed xmlns:m='urn:media'><item id='2'><m:thumb m:url='t.png'/></item></feed>".toList
    let root : Node := .element "feed" []
      [.element "item" [⟨"id", "2"⟩] [.element "thumb" [⟨"url", "t.png"⟩] []]]
    let p : NodePath := ⟨true, [⟨.descendant, .name "x:item", [.attr "id" "2", .position 1]⟩,
      ⟨.child, .name "thumb", []⟩, ⟨.child, .attr "x:url", []⟩],
      "//x:item[@id='2'][1]/thumb/@x:url"⟩
    Markup.parse? text = some root ∧ parse "//x:item[@id='2'][1]/thumb/@x:url" = .ok p ∧
      root.HasLocalNames ∧ (p.select root root).map Node.innerText = ["t.png"] ∧
      p.select root root = p.unprefixed.select root root := by
  intro text root p
  have hread : Markup.parse? text = some root := rfl
  have hlocal := Markup.hasLocalNames_of_parse? hread
  exact ⟨hread, rfl, hlocal, by decide,
    (select_unprefixed hlocal hlocal p).trans (if_neg (by decide))⟩

/-- An attribute is found by a test with a prefix, but not by a predicate with one. -/
theorem select_prefixed_attribute :
    let root : Node := .element "feed" [] [.element "item" [⟨"id", "1"⟩] []]
    let p : NodePath := ⟨true, [⟨.child, .name "feed", []⟩,
      ⟨.child, .name "item", [.attr "m:id" "1"]⟩], "/feed/item[@m:id='1']"⟩
    Markup.parse? "<feed><item id='1'/></feed>".toList = some root ∧ root.HasLocalNames ∧
      parse "/feed/item[@m:id='1']" = .ok p ∧
      parse "/feed/item[@id='1']" = .ok p.unprefixed ∧
      p.select root root = [] ∧ (p.unprefixed.select root root).length = 1 := by
  intro root p
  have hread : Markup.parse? "<feed><item id='1'/></feed>".toList = some root := rfl
  exact ⟨hread, Markup.hasLocalNames_of_parse? hread, rfl, rfl, rfl, rfl⟩

end Recast.NodePath
