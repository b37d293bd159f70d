import Recast.Markup.Reader
import Recast.Proofs.NodePath.Select

/-!
# Local names

A document is read without the prefixes of its names: the qualified names of its tags are taken apart
at their colons, and only what is behind the colon goes into the nodes.
-/

namespace Recast.Markup

open NodePath (nodes nodes_listing parts)

variable {s rest : List Char} {name : QName} {n : Node} {attributes : List Attribute}
  {raw : List RawAttribute} {token : Token} {scope : Scope} {children : List Node}

/-! ## Nodes -/

/-- No colon is in the name of the node, of an attribute of it, or of anything in it. -/
def Node.HasLocalNames (n : Node) : Prop := ∀ m ∈ nodes n, ∀ name ∈ m.name?, ':' ∉ name.toList

namespace Node

theorem hasLocalNames_text (content : String) : (text content).HasLocalNames := by
  simp [HasLocalNames, nodes, name?]

theorem hasLocalNames_element {name : String} :
    (element name attributes children).HasLocalNames ↔ ':' ∉ name.toList ∧
      (∀ a ∈ attributes, ':' ∉ a.name.toList) ∧ ∀ child ∈ children, child.HasLocalNames := by
  unfold HasLocalNames
  rw [nodes_listing.eq, parts, List.flatMap_append]
  simp only [Node.attributes, Node.children, NodePath.flatMap_nodes_attributes,
    List.forall_mem_cons, List.forall_mem_append, List.forall_mem_map, List.forall_mem_flatMap]
  exact and_congr (by simp [name?]) (and_congr (by simp [name?]) Iff.rfl)

theorem HasLocalNames.of_mem (h : n.HasLocalNames) {m : Node} (hm : m ∈ nodes n) :
    m.HasLocalNames := fun _ hu => h _ ((nodes_listing.sublist_of_mem hm).subset hu)

theorem HasLocalNames.document (h : n.HasLocalNames) : n.document.HasLocalNames :=
  hasLocalNames_element.mpr ⟨by simp, List.forall_mem_nil _, by simpa using h⟩

end Node

/-! ## Names -/

theorem localName?_eq_some {loc : String} (h : localName? s = some loc) : loc = String.ofList s := by
  unfold localName? at h
  split at h
  · cases h
  · split at h <;> cases h
    rfl

theorem colon_not_mem_of_localName? {loc : String}
    (h : localName? (s.takeWhile isPartChar) = some loc) : ':' ∉ loc.toList := by
  rw [localName?_eq_some h, String.toList_ofList]
  intro hmem
  have hpart := List.all_eq_true.mp List.all_takeWhile _ hmem
  simp [isPartChar] at hpart

theorem colon_not_mem_of_qualifiedName? (h : qualifiedName? s = some (name, rest)) :
    ':' ∉ name.loc.toList := by
  unfold qualifiedName? at h
  dsimp only at h
  split at h
  · split at h
    · obtain ⟨space, _, h⟩ := Option.bind_eq_some_iff.mp h
      obtain ⟨loc, hloc, h⟩ := Option.bind_eq_some_iff.mp h
      cases h
      exact colon_not_mem_of_localName? hloc
    · obtain ⟨space, _, h⟩ := Option.bind_eq_some_iff.mp h
      obtain ⟨loc, hloc, h⟩ := Option.bind_eq_some_iff.mp h
      cases h
      exact colon_not_mem_of_localName? hloc
  · obtain ⟨loc, hloc, h⟩ := Option.bind_eq_some_iff.mp h
    cases h
    exact colon_not_mem_of_localName? hloc

/-! ## Tags -/

/-- No colon is in the local names of a start tag and of its attributes. -/
def Token.HasLocalNames : Token → Prop
  | .start name attributes _ =>
    ':' ∉ name.loc.toList ∧ ∀ a ∈ attributes, ':' ∉ a.name.loc.toList
  | _ => True

theorem colon_not_mem_of_attributes? {fuel : Nat} {isEmpty : Bool}
    (h : Token.attributes? fuel s = some (raw, isEmpty, rest)) :
    ∀ a ∈ raw, ':' ∉ a.name.loc.toList := by
  induction fuel generalizing s raw isEmpty rest with
  | zero => cases h
  | succ fuel ih =>
      unfold Token.attributes? at h
      split at h
      · cases h
        simp
      · cases h
        simp
      · split at h
        · cases h
        · obtain ⟨⟨name, value, t⟩, hassign, h⟩ := Option.bind_eq_some_iff.mp h
          obtain ⟨value, _, h⟩ := Option.bind_eq_some_iff.mp h
          obtain ⟨⟨others, isEmpty, t⟩, hothers, h⟩ := Option.bind_eq_some_iff.mp h
          cases h
          refine List.forall_mem_cons.mpr ⟨?_, ih hothers⟩
          unfold Token.assignment? at hassign
          obtain ⟨⟨name', t⟩, hname, hassign⟩ := Option.bind_eq_some_iff.mp hassign
          dsimp only at hassign
          split at hassign
          · obtain ⟨⟨value, t⟩, _, hassign⟩ := Option.bind_eq_some_iff.mp hassign
            cases hassign
            exact colon_not_mem_of_qualifiedName? hname
          · cases hassign

theorem Token.hasLocalNames_of_start? (h : Token.start? s = some (token, rest)) :
    token.HasLocalNames := by
  unfold Token.start? at h
  obtain ⟨⟨name, t⟩, hname, h⟩ := Option.bind_eq_some_iff.mp h
  obtain ⟨⟨attributes, isEmpty, t⟩, hattributes, h⟩ := Option.bind_eq_some_iff.mp h
  cases h
  exact ⟨colon_not_mem_of_qualifiedName? hname, colon_not_mem_of_attributes? hattributes⟩

theorem Token.hasLocalNames_of_next? (h : Token.next? s = some (token, rest)) :
    token.HasLocalNames := by
  unfold Token.next? at h
  split at h
  · obtain ⟨_, _, h⟩ := Option.map_eq_some_iff.mp h
    cases h
    trivial
  · obtain ⟨_, _, h⟩ := Option.bind_eq_some_iff.mp h
    obtain ⟨_, _, h⟩ := Option.bind_eq_some_iff.mp h
    cases h
    trivial
  · obtain ⟨_, _, h⟩ := Option.map_eq_some_iff.mp h
    cases h
    trivial
  · unfold Token.stop? at h
    obtain ⟨_, _, h⟩ := Option.bind_eq_some_iff.mp h
    dsimp only at h
    split at h
    · cases h
      trivial
    · cases h
  · exact hasLocalNames_of_start? h
  · unfold Token.characters? at h
    dsimp only at h
    split at h
    · cases h
    · obtain ⟨_, _, h⟩ := Option.bind_eq_some_iff.mp h
      cases h
      trivial

/-! ## Elements -/

theorem Scope.split?_subset {declared declared' : Scope} {others : List RawAttribute}
    (h : Scope.split? declared raw = some (declared', others)) : others ⊆ raw := by
  induction raw generalizing declared declared' others with
  | nil =>
      cases h
      exact List.Subset.refl _
  | cons a raw ih =>
      unfold Scope.split? at h
      split at h
      · obtain ⟨_, _, h⟩ := Option.bind_eq_some_iff.mp h
        exact List.subset_cons_of_subset a (ih h)
      · split at h
        · split at h
          · cases h
          · exact List.subset_cons_of_subset a (ih h)
        · obtain ⟨⟨_, others⟩, hothers, h⟩ := Option.bind_eq_some_iff.mp h
          cases h
          exact List.cons_subset_cons a (ih hothers)

theorem Scope.colon_not_mem_of_enter? {outer : Scope} (hraw : ∀ a ∈ raw, ':' ∉ a.name.loc.toList)
    (h : Scope.enter? outer name raw = some (scope, attributes)) :
    ∀ a ∈ attributes, ':' ∉ a.name.toList := by
  unfold Scope.enter? at h
  split at h
  · cases h
  · obtain ⟨⟨declared, others⟩, hsplit, h⟩ := Option.bind_eq_some_iff.mp h
    obtain ⟨expanded, _, h⟩ := Option.bind_eq_some_iff.mp h
    split at h
    · cases h
      intro a ha
      obtain ⟨b, hb, rfl⟩ := List.mem_map.mp ha
      exact hraw b (Scope.split?_subset hsplit hb)
    · cases h

/-- What was read of an open element has local names only. -/
structure Frame.HasLocalNames (f : Frame) : Prop where
  name : ':' ∉ f.name.loc.toList
  attributes : ∀ a ∈ f.attributes, ':' ∉ a.name.toList
  children : ∀ child ∈ f.children, child.HasLocalNames

namespace Frame

variable {f : Frame}

theorem HasLocalNames.close (h : f.HasLocalNames) : f.close.HasLocalNames :=
  Node.hasLocalNames_element.mpr ⟨h.name, h.attributes, by simpa using h.children⟩

theorem HasLocalNames.addNode (h : f.HasLocalNames) (hn : n.HasLocalNames) :
    (f.addNode n).HasLocalNames :=
  ⟨h.name, h.attributes, List.forall_mem_cons.mpr ⟨hn, h.children⟩⟩

theorem HasLocalNames.addText (h : f.HasLocalNames) (t : String) : (f.addText t).HasLocalNames := by
  have htext := Node.hasLocalNames_text
  have hchildren := h.children
  unfold Frame.addText
  split
  · rename_i hbefore
    rw [hbefore, List.forall_mem_cons] at hchildren
    exact ⟨h.name, h.attributes, List.forall_mem_cons.mpr ⟨htext _, hchildren.2⟩⟩
  · exact ⟨h.name, h.attributes, List.forall_mem_cons.mpr ⟨htext _, hchildren⟩⟩

end Frame

namespace Reader

variable {current : Frame} {outer : List Frame}

theorem hasLocalNames_of_content {fuel : Nat} (hcurrent : current.HasLocalNames)
    (houter : ∀ f ∈ outer, f.HasLocalNames) (h : content fuel current outer s = some (n, rest)) :
    n.HasLocalNames := by
  induction fuel generalizing current outer s with
  | zero => simp [content] at h
  | succ fuel ih =>
      cases s with
      | nil => simp [content] at h
      | cons c s =>
      unfold content at h
      obtain ⟨⟨token, t⟩, htoken, h⟩ := Option.bind_eq_some_iff.mp h
      have hlocal := Token.hasLocalNames_of_next? htoken
      dsimp only at h
      cases token with
      | gap =>
          have hgap : Frame.HasLocalNames { current with inText := false } :=
            ⟨hcurrent.name, hcurrent.attributes, hcurrent.children⟩
          exact ih hgap houter h
      | text content => exact ih (hcurrent.addText content) houter h
      | sect content => exact ih (hcurrent.addText content) houter h
      | start name attributes isEmpty =>
          obtain ⟨⟨scope, attributes⟩, henter, h⟩ := Option.bind_eq_some_iff.mp h
          have hattributes := Scope.colon_not_mem_of_enter? hlocal.2 henter
          dsimp only at h
          split at h
          · have hempty := Node.hasLocalNames_element.mpr
              ⟨hlocal.1, hattributes, List.forall_mem_nil _⟩
            exact ih (hcurrent.addNode hempty) houter h
          · exact ih ⟨hlocal.1, hattributes, List.forall_mem_nil _⟩
              (List.forall_mem_cons.mpr ⟨hcurrent, houter⟩) h
      | stop name =>
          dsimp only at h
          split at h
          · cases h
          · split at h
            · cases h
              exact hcurrent.close
            · obtain ⟨hparent, houter⟩ := List.forall_mem_cons.mp houter
              exact ih (hparent.addNode hcurrent.close) houter h

theorem hasLocalNames_of_root? (h : root? s = some (n, rest)) : n.HasLocalNames := by
  unfold root? at h
  split at h
  · obtain ⟨⟨token, t⟩, htoken, h⟩ := Option.bind_eq_some_iff.mp h
    have hlocal := Token.hasLocalNames_of_start? htoken
    cases token with
    | start name attributes isEmpty =>
        obtain ⟨⟨scope, attributes⟩, henter, h⟩ := Option.bind_eq_some_iff.mp h
        have hframe : Frame.HasLocalNames ⟨name, scope, attributes, [], false⟩ :=
          ⟨hlocal.1, Scope.colon_not_mem_of_enter? hlocal.2 henter, List.forall_mem_nil _⟩
        dsimp only at h
        split at h
        · cases h
          exact hframe.close
        · exact hasLocalNames_of_content hframe (List.forall_mem_nil _) h
    | _ => cases h
  · cases h

end Reader

theorem hasLocalNames_of_skipMisc {t : List Char}
    (h : (do
      let t ← Reader.skipMisc t.length t
      let (root, t) ← Reader.root? t
      let t ← Reader.skipMisc t.length t
      if t.isEmpty then some root else none) = some n) : n.HasLocalNames := by
  obtain ⟨_, _, h⟩ := Option.bind_eq_some_iff.mp h
  obtain ⟨⟨root, _⟩, hroot, h⟩ := Option.bind_eq_some_iff.mp h
  obtain ⟨_, _, h⟩ := Option.bind_eq_some_iff.mp h
  split at h <;> cases h
  exact Reader.hasLocalNames_of_root? hroot

/-- Documents have local names only. -/
theorem hasLocalNames_of_parse? (h : parse? s = some n) : n.HasLocalNames := by
  unfold parse? at h
  dsimp only at h
  split at h
  · obtain ⟨_, _, h⟩ := Option.bind_eq_some_iff.mp h
    exact hasLocalNames_of_skipMisc h
  · exact hasLocalNames_of_skipMisc h

end Recast.Markup
