import Recast.NodePath.Reader
import Recast.Proofs.NodePath.Numbered
import Recast.Proofs.NodePath.Order

/-!
# Node paths that go back

A descent collects what the steps behind it find for one element after the other, outer elements
first. With a second descent, a node in two nested elements is found for both of them. Behind a single
descent, what stands late in an element is found before what stands early in its first child element,
unless the steps keep the order. For steps that find anything there are documents where this happens.
-/

namespace Recast.NodePath

open Markup (Attribute Node)

variable {n m : Node} {s : Step} {steps rest : List Step} {t : Test} {k : Nat}

/-! ## Paths that find a node twice -/

theorem mem_elements_iff : m ∈ n.elements ↔ m ∈ parts n ∧ m.isElement = true := by
  constructor
  · intro h
    exact ⟨(elements_sublist_parts n).subset h, (List.mem_filter.mp h).2⟩
  · rintro ⟨hpart, helement⟩
    rcases List.mem_append.mp hpart with h | h
    · obtain ⟨a, _, rfl⟩ := List.mem_map.mp h
      cases helement
    · exact List.mem_filter.mpr ⟨h, helement⟩

theorem mem_scopes (h : m ∈ nodes n) (hm : m.isElement = true) : m ∈ scopes n := by
  induction n using nodes_listing.induction with
  | step n ih =>
      rcases nodes_listing.mem_iff.mp h with rfl | ⟨u, hu, hmu⟩
      · exact scopes_listing.self_mem m
      · have hu' : u.isElement = true := by
          by_contra hu'
          rw [nodes_of_not_isElement (Bool.eq_false_iff.mpr hu'), List.mem_singleton] at hmu
          exact hu' (hmu ▸ hm)
        exact (scopes_listing.sublist_of_mem
          (scopes_listing.mem_of_mem_parts (mem_elements_iff.mpr ⟨hu, hu'⟩))).subset (ih u hu hmu)

theorem Live.inScope (h : Live (s :: rest)) (haxis : s.axis = .descendant) :
    Live (s.inScope :: rest) := by
  have hscope : s.inScope.axis ≠ .self := by simp [Step.inScope]
  cases h with
  | self hself => cases haxis.symm.trans hself
  | element _ htest hk hrest => exact .element hscope htest hk hrest
  | leaf _ htest hk hrest hself => exact .leaf hscope htest hk hrest hself

/-- What steps lead to behind a first step to an element is inside. -/
theorem mem_flatMap_scopes (haxis : s.axis = .child) (h : m ∈ selectAll (s :: rest) n)
    (hm : m.isElement = true) : m ∈ n.elements.flatMap scopes := by
  obtain ⟨u, hu, hmu⟩ := stepwise.mem_cons.mp h
  have hpart := (select_child_sublist haxis n).subset hu
  have hnodes := mem_nodes_of_mem_selectAll hmu
  have helement : u.isElement = true := by
    by_contra helement
    rw [nodes_of_not_isElement (Bool.eq_false_iff.mpr helement), List.mem_singleton] at hnodes
    exact helement (hnodes ▸ hm)
  exact List.mem_flatMap.mpr ⟨u, mem_elements_iff.mpr ⟨hpart, helement⟩, mem_scopes hnodes hm⟩

/-- Steps with two descents find a node twice: once from the outer one of two elements, one in the
other, and once from the inner one. -/
theorem exists_twice {d e : Step} {front mid rest : List Step} (hd : d.axis = .descendant)
    (he : e.axis = .descendant) (h : Live (front ++ d :: (mid ++ e :: rest))) :
    Buildable fun v => ∃ z, [z, z].Sublist (selectAll (front ++ d :: (mid ++ e :: rest)) v) := by
  have hself {s : Step} (hs : s.axis = .descendant) : s.axis ≠ .self := by simp [hs]
  have hbehind : Live (d :: mid ++ e :: rest) := h.append_right
  have hwalk : Live (d.inScope :: mid) := Live.inScope hbehind.append_left hd
  have hinner : Inner (d.inScope :: mid) := by
    have hboth := List.forall_mem_cons.mp (hbehind.inner (hself he))
    exact List.forall_mem_cons.mpr ⟨Or.inr (hboth.1.resolve_left (hself hd)), hboth.2⟩
  -- The middle leads from the outer element to an item, and from the item to the innermost element.
  have hinnermost := (Live.inScope hbehind.append_right he).buildable
  have houter := h.append_left.around (h.inner (hself hd))
    (hwalk.around hinner (hwalk.around hinner hinnermost))
  intro a name
  obtain ⟨b, attributes, children, hv, outer, _, hfront, item, hitem, houterItem, w, hw, hitemW,
    hz⟩ := houter a name
  obtain ⟨z, hz⟩ := List.exists_mem_of_ne_nil _ hz
  refine ⟨b, attributes, children, hv, z, ?_⟩
  have hfrom {u : Node} (hu : w ∈ scopes u) : z ∈ selectAll (e :: rest) u := by
    rw [selectAll_descendant he]
    exact List.mem_flatMap.mpr ⟨w, hu, hz⟩
  have hfound {u n : Node} (hn : u ∈ selectAll (d.inScope :: mid) n) (hu : w ∈ scopes u) :
      z ∈ selectAll (d.inScope :: (mid ++ e :: rest)) n := by
    have happend := stepwise.append (d.inScope :: mid) (e :: rest) n
    rw [List.cons_append] at happend
    rw [happend]
    exact List.mem_flatMap.mpr ⟨u, hn, hfrom hu⟩
  have htwice : [z, z].Sublist (selectAll (d :: (mid ++ e :: rest)) outer) := by
    rw [selectAll_descendant hd]
    exact scopes_listing.found_sublist (mem_flatMap_scopes rfl houterItem hitem)
      (hfound houterItem (mem_scopes (mem_nodes_of_mem_selectAll hitemW) hw))
      (hfound hitemW (scopes_listing.self_mem w))
  rw [stepwise.append]
  exact htwice.trans (Selection.sublist_flatMap hfront _)

/-! ## Paths that go back -/

/-- Something is found for a node that is behind what is found for its first element. -/
def Crossed (steps : List Step) (v : Node) : Prop :=
  ∃ m x y, v.elements.head? = some m ∧ x ∈ selectAll steps m ∧ y ∈ selectAll steps v ∧
    [x, y].Sublist (nodes v)

theorem Crossed.of_first {attributes : List Attribute} {children : List Node} {name : String}
    {u x y w : Node} (hu : u.isElement = true) (hx : x ∈ selectAll steps u) (hw : w ∈ children)
    (hy : y ∈ nodes w) (hfound : y ∈ selectAll steps (.element name attributes (u :: children))) :
    Crossed steps (.element name attributes (u :: children)) := by
  refine ⟨u, x, y, ?_, hx, hfound, ?_⟩
  · simp [Node.elements, Node.children, hu]
  · have hpair : [x, y].Sublist ((u :: children).flatMap nodes) := by
      rw [List.flatMap_cons]
      exact (List.singleton_sublist.mpr (mem_nodes_of_mem_selectAll hx)).append
        (List.singleton_sublist.mpr (List.mem_flatMap.mpr ⟨w, hw, hy⟩))
    have hchildren : ((u :: children).flatMap nodes).Sublist
        ((parts (.element name attributes (u :: children))).flatMap nodes) :=
      (List.sublist_append_right _ _).flatMap nodes
    exact (hpair.trans hchildren).trans (nodes_listing.flatMap_parts_sublist _)

theorem exists_other (wanted : String) : ∃ other : String, other ≠ wanted :=
  ⟨wanted ++ "x", fun h => by simpa using congrArg String.length h⟩

/-- A step that does not lead to first elements has room for an element, and perhaps others, before
what it leads to. -/
theorem exists_room (ht : s.test.isLeaf = false) (hk : Keeps s.predicates k)
    (hfirst : s.isFirst = false) :
    ∃ other count, ∀ name u before w, u.isElement = true → u.name? = some other →
      before.length = count →
      (∀ m ∈ before ++ [w], m.isElement = true ∧ m.name? = some s.test.wanted) →
      w ∈ filterAll s.predicates (s.test.matches (.element name [] (u :: (before ++ [w])))) := by
  have hat {ms : List Node} {w : Node} : (ms ++ [w])[ms.length]? = some w := by simp
  obtain ⟨axis, test, predicates⟩ := s
  cases test with
  | name wanted =>
      -- Elements of another name do not count.
      obtain ⟨other, hother⟩ := exists_other (localName wanted)
      refine ⟨other, k, ?_⟩
      rintro name u before w hu hname rfl hm
      have hfound : (Test.name wanted).matches (.element name [] (u :: (before ++ [w]))) =
          before ++ [w] := by
        refine Eq.trans ?_ (matches_children (t := .name wanted) rfl name hm)
        simp [Test.matches, Node.elements, Node.children, hu, hname, hother]
      rw [hfound]
      exact hk.mem hat
  | anyElement =>
      have hfound {name : String} {u w : Node} {before : List Node} (hu : u.isElement = true)
          (hm : ∀ m ∈ before ++ [w], m.isElement = true ∧ m.name? = some "x") :
          Test.anyElement.matches (.element name [] (u :: (before ++ [w]))) =
            u :: before ++ [w] := by
        refine List.filter_eq_self.mpr (List.forall_mem_cons.mpr ⟨hu, fun m h => (hm m h).1⟩)
      -- The element in front counts, and no predicate asks for the first place.
      cases hk with
      | all =>
          refine ⟨"", 0, ?_⟩
          intro name u before w hu _ _ hm
          rw [hfound hu hm]
          exact (Keeps.all _).mem hat
      | @one k predicates hone =>
          cases k with
          | zero => simp [Step.isFirst] at hfirst
          | succ k =>
              refine ⟨"", k, ?_⟩
              rintro name u before w hu _ rfl hm
              rw [hfound hu hm]
              exact (Keeps.one hone).mem hat
  | _ => cases ht

theorem mem_filterAll_head (hs : s.isFirst = true) (hk : Keeps s.predicates k)
    (h : n.elements.head? = some m) : m ∈ filterAll s.predicates (s.test.matches n) := by
  obtain ⟨axis, test, predicates⟩ := s
  simp only [Step.isFirst, Bool.and_eq_true, beq_iff_eq] at hs
  obtain ⟨rfl, hhead⟩ := hs
  cases hk with
  | all => cases hhead
  | @one k predicates hone =>
      obtain rfl : k = 0 := by simpa using hhead
      exact (Keeps.one hone).mem (by rwa [Test.matches, ← List.head?_eq_getElem?])

/-- Where an element comes before what steps lead to, they find something in both. -/
theorem crossed_element (haxis : s.axis ≠ .self) (ht : s.test.isLeaf = false)
    (hk : Keeps s.predicates k) (hfirst : s.isFirst = false) (hrest : Live rest) :
    Buildable (Crossed (s :: rest)) := by
  obtain ⟨other, count, hroom⟩ := exists_room ht hk hfirst
  intro a name
  obtain ⟨b, attributes, children, hu, hfound⟩ := (Live.element haxis ht hk hrest).buildable a other
  obtain ⟨c, attributes', children', hw, hbelow⟩ := hrest.buildable b s.test.wanted
  let before := (List.range' c count).map (filler s.test.wanted)
  let w : Node := .element s.test.wanted attributes' children'
  have hbefore : Numbered b (c + count) (before ++ [w]) :=
    (hw.append (numbered_map (numbered_filler _) c count)).perm List.perm_append_comm
  have hnames : ∀ m ∈ before ++ [w], m.isElement = true ∧ m.name? = some s.test.wanted := by
    simp only [before, List.forall_mem_append, List.forall_mem_map, List.forall_mem_singleton]
    exact ⟨fun _ _ => ⟨rfl, rfl⟩, rfl, rfl⟩
  have hmem := hroom name (.element other attributes children) before w rfl rfl (by simp [before])
    hnames
  obtain ⟨x, hx⟩ := List.exists_mem_of_ne_nil _ hfound
  obtain ⟨y, hy⟩ := List.exists_mem_of_ne_nil _ hbelow
  refine ⟨c + count, [], _ :: (before ++ [w]),
    (hu.append hbefore).element (List.cons_ne_nil _ _) name, ?_⟩
  exact .of_first rfl hx (List.mem_append_right _ (List.mem_singleton_self w))
    (mem_nodes_of_mem_selectAll hy) (stepwise.mem_cons.mpr ⟨w, mem_select_of_matches haxis hmem, hy⟩)

theorem crossed_text (haxis : s.axis ≠ .self) (ht : s.test = .text) (hk : Keeps s.predicates k)
    (hrest : Live rest) (hself : ∀ r ∈ rest, r.axis = .self) :
    Buildable (Crossed (s :: rest)) := by
  intro a name
  have hlive : Live (s :: rest) := .leaf haxis (by rw [ht]; rfl) hk hrest hself
  obtain ⟨b, attributes, children, hu, hfound⟩ := hlive.buildable a name
  let texts := (List.range' b (k + 1)).map fun i => Node.text (tally i)
  let v : Node := .element name [] (.element name attributes children :: texts)
  have hmatches : s.test.matches v = texts := by
    have htexts : texts.filter Node.isText = texts :=
      List.filter_eq_self.mpr (List.forall_mem_map.mpr fun _ _ => rfl)
    rw [ht, Test.matches, ← htexts]
    rfl
  have hy : texts[k]? = some (.text (tally (b + k))) := by simp [texts]
  have hmem : .text (tally (b + k)) ∈ filterAll s.predicates (s.test.matches v) :=
    hk.mem (hmatches.symm ▸ hy)
  obtain ⟨x, hx⟩ := List.exists_mem_of_ne_nil _ hfound
  refine ⟨_, [], _ :: texts, (hu.append (numbered_map numbered_text b (k + 1))).element
    (List.cons_ne_nil _ _) name, ?_⟩
  refine .of_first rfl hx (List.mem_of_getElem? hy) (nodes_listing.self_mem _)
    (stepwise.mem_cons.mpr ⟨_, mem_select_of_matches haxis hmem, ?_⟩)
  rw [hrest.selectAll_self hself]
  exact List.mem_singleton_self _

/-- Steps that do not keep the order find something for an element that is behind what they find for
its first child element. -/
theorem Live.crossed (h : Live steps) (hdescents : descents steps = 0)
    (horder : keepsOrder steps = false) : Buildable (Crossed steps) := by
  induction h with
  | nil => cases horder
  | @self s rest haxis hone _ ih =>
      have hbelow := ih (by simpa [descents, haxis] using hdescents)
        (by simpa [keepsOrder, haxis] using horder)
      have hsame : Crossed (s :: rest) = Crossed rest :=
        funext fun v => by simp only [Crossed, selectAll_of_self haxis hone]
      rwa [hsame]
  | @element s rest k haxis ht hk hrest ih =>
      cases hfirst : s.isFirst with
      | false => exact crossed_element haxis ht hk hfirst hrest
      | true =>
          obtain ⟨hchild, hzero⟩ : s.axis = .child ∧ descents rest = 0 := by
            rw [descents, List.countP_cons] at hdescents
            cases hs : s.axis <;> simp_all [descents]
          simp only [keepsOrder, hchild, hfirst, Bool.true_and, Bool.or_eq_false_iff] at horder
          -- The step leads to the first element, so what is found there is found from around it.
          intro a name
          obtain ⟨b, attributes, children, hv, m, x, y, hm, hx, hy, hxy⟩ := ih hzero horder.2 a name
          refine ⟨b, [], _, hv.element (List.cons_ne_nil _ _) name, _, x, y, rfl, ?_, ?_, ?_⟩
          · exact stepwise.mem_cons.mpr
              ⟨m, mem_select_of_matches haxis (mem_filterAll_head hfirst hk hm), hx⟩
          · exact stepwise.mem_cons.mpr
              ⟨_, mem_select_of_matches haxis (mem_filterAll_head hfirst hk rfl), hy⟩
          · exact hxy.trans (nodes_listing.sublist_of_mem
              (nodes_listing.mem_of_mem_parts (List.mem_singleton_self _)))
  | @leaf s rest k haxis ht hk hrest hself =>
      have htext : s.test = .text := by
        have hchild : s.axis = .child := by
          rw [descents, List.countP_cons] at hdescents
          cases hs : s.axis <;> simp_all
        simp only [keepsOrder, hchild, Bool.or_eq_false_iff] at horder
        cases hs : s.test <;> simp_all [Test.isLeaf, Test.isAttribute]
      exact crossed_text haxis htext hk hrest hself

theorem exists_descent (h : inOrder steps = false) :
    ∃ front d rest, steps = front ++ d :: rest ∧ d.axis = .descendant ∧
      keepsOrder (d.inScope :: rest) = false := by
  induction steps with
  | nil => cases h
  | cons s steps ih =>
      have hlater (hsteps : inOrder steps = false) : ∃ front d rest,
          s :: steps = front ++ d :: rest ∧ d.axis = .descendant ∧
            keepsOrder (d.inScope :: rest) = false := by
        obtain ⟨front, d, rest, rfl, hd⟩ := ih hsteps
        exact ⟨s :: front, d, rest, rfl, hd⟩
      rw [inOrder] at h
      cases haxis : s.axis with
      | self => exact hlater (by simpa [haxis] using h)
      | child =>
          simp only [haxis, Bool.or_eq_false_iff] at h
          exact hlater h.2
      | descendant => exact ⟨[], s, steps, rfl, haxis, by simpa [haxis] using h⟩

theorem descents_ne_zero (h : inOrder steps = false) : descents steps ≠ 0 := by
  obtain ⟨front, d, rest, rfl, hd, _⟩ := exists_descent h
  simp [descents, List.countP_append, hd]

theorem exists_two_descents (h : 1 < descents steps) :
    ∃ front d mid e rest, steps = front ++ d :: (mid ++ e :: rest) ∧ d.axis = .descendant ∧
      e.axis = .descendant := by
  induction steps with
  | nil => cases h
  | cons s steps ih =>
      rw [descents, List.countP_cons] at h
      by_cases haxis : s.axis = .descendant
      · have hpos : 0 < descents steps := by simpa [haxis, descents] using h
        obtain ⟨e, hmem, he⟩ := List.countP_pos_iff.mp hpos
        obtain ⟨mid, rest, rfl⟩ := List.append_of_mem hmem
        exact ⟨[], s, mid, e, rest, rfl, haxis, by simpa using he⟩
      · obtain ⟨front, d, mid, e, rest, rfl, hde⟩ := ih (by simpa [haxis, descents] using h)
        exact ⟨s :: front, d, mid, e, rest, rfl, hde⟩

theorem Live.not_nodup (h : Live steps) (hdescents : 1 < descents steps) :
    Buildable fun v => ¬ (selectAll steps v).Nodup := by
  obtain ⟨front, d, mid, e, rest, rfl, hd, he⟩ := exists_two_descents hdescents
  intro a name
  obtain ⟨b, attributes, children, hv, z, hz⟩ := exists_twice hd he h a name
  exact ⟨b, attributes, children, hv, fun hnodup => by simpa using hnodup.sublist hz⟩

/-- The steps find something out of order, or twice. -/
def Disordered (steps : List Step) (v : Node) : Prop :=
  ∀ l : List Node, l.Nodup → (nodes v).Sublist l → ¬ (selectAll steps v).Sublist l

theorem Live.disordered (h : Live steps) (horder : inOrder steps = false) :
    Buildable (Disordered steps) := by
  obtain ⟨front, d, rest, rfl, hd, hkeeps⟩ := exists_descent horder
  have hself : d.axis ≠ .self := by simp [hd]
  intro a name
  cases hdescents : descents (d.inScope :: rest) with
  | zero =>
      -- What comes later is found from the outer element, before the inner one is looked at.
      have hcrossed := (Live.inScope h.append_right hd).crossed hdescents hkeeps
      obtain ⟨b, attributes, children, hv, w, _, hw, m, x, y, hm, hx, hy, hxy⟩ :=
        h.append_left.around (h.inner hself) hcrossed a name
      refine ⟨b, attributes, children, hv, fun l hl hnodes hfound => ?_⟩
      have hback : [y, x].Sublist (selectAll (d :: rest) w) := by
        rw [selectAll_descendant hd]
        exact scopes_listing.found_sublist (List.mem_flatMap.mpr
          ⟨m, List.mem_of_mem_head? hm, scopes_listing.self_mem m⟩) hy hx
      have hforth : [x, y].Sublist l :=
        (hxy.trans (nodes_listing.sublist_of_mem (mem_nodes_of_mem_selectAll hw))).trans hnodes
      rw [stepwise.append] at hfound
      exact Selection.not_sublist_swap hl hforth
        ((hback.trans (Selection.sublist_flatMap hw _)).trans hfound)
  | succ count =>
      have htwo : 1 < descents (front ++ d :: rest) := by
        have hrest : descents rest = count + 1 := by
          simpa [descents, Step.inScope] using hdescents
        simp only [descents, List.countP_append, List.countP_cons, hd] at hrest ⊢
        simp
        omega
      obtain ⟨b, attributes, children, hv, htwice⟩ := h.not_nodup htwo a name
      exact ⟨b, attributes, children, hv, fun l hl _ hfound => htwice (hl.sublist hfound)⟩

/-! ## Documents -/

/-- A root element in which all nodes are different. -/
structure IsDocument (root : Node) : Prop where
  isElement : root.isElement = true
  nodup : (nodes root).Nodup

theorem nodes_document (root : Node) : nodes root.document = root.document :: nodes root := by
  rw [nodes_listing.eq]
  exact congrArg (root.document :: ·) (List.flatMap_singleton nodes root)

theorem nodes_sublist_document (root : Node) : (nodes root).Sublist (nodes root.document) :=
  nodes_document root ▸ List.sublist_cons_self _ _

theorem root_mem (root : Node) : root ∈ nodes root.document :=
  (nodes_sublist_document root).subset (nodes_listing.self_mem root)

theorem IsDocument.nodup_document {root : Node} (h : IsDocument root) :
    (nodes root.document).Nodup := by
  rw [nodes_document, List.nodup_cons]
  exact ⟨nodes_listing.not_mem_of_mem_parts (List.mem_singleton_self root), h.nodup⟩

/-- What the path finds in a document is always in document order. -/
def FindsInOrder (p : NodePath) : Prop :=
  ∀ root current, IsDocument root → current ∈ nodes root.document →
    (p.select root current).Sublist (nodes root.document)

/-- What the path finds in a document is always found once. -/
def FindsOnce (p : NodePath) : Prop :=
  ∀ root current, IsDocument root → current ∈ nodes root.document →
    (p.select root current).Nodup

/-- The path finds something in some document. -/
def Finds (p : NodePath) : Prop :=
  ∃ root current, IsDocument root ∧ p.select root current ≠ []

theorem start_mem {root current : Node} (p : NodePath) (h : current ∈ nodes root.document) :
    (if p.isAbsolute then root.document else current) ∈ nodes root.document := by
  split
  · exact nodes_listing.self_mem _
  · exact h

theorem matches_root (ht : t.isLeaf = false) {name : String} {attributes : List Attribute}
    {children : List Node}
    (h : .element name attributes children ∈
      t.matches (Node.document (.element name attributes children)))
    (attributes' : List Attribute) (children' : List Node) :
    t.matches (Node.document (.element name attributes' children')) =
      [.element name attributes' children'] := by
  cases t with
  | anyElement => rfl
  | name wanted =>
      have hname : name = localName wanted := by
        simpa [Node.name?] using (List.mem_filter.mp h).2
      simp [Test.matches, Node.document, Node.elements, Node.children, Node.isElement, Node.name?,
        hname]
  | _ => cases ht

/-- From the document, what steps can find is what other steps find in root elements of a name. -/
theorem exists_below {root : Node} (hroot : root.isElement = true)
    (hpos : isPositional steps = true) (h : selectAll steps root.document ≠ [])
    (hdescents : descents steps ≠ 0) :
    ∃ name below, Live below ∧ inOrder below = inOrder steps ∧ descents below = descents steps ∧
      ∀ attributes children, (selectAll below (.element name attributes children)).Sublist
        (selectAll steps (Node.document (.element name attributes children))) := by
  induction steps with
  | nil => exact absurd rfl hdescents
  | cons s rest ih =>
      have hlive := live_of_selectAll_ne_nil hpos h
      obtain ⟨m, hm, hrest⟩ := exists_of_selectAll_ne_nil h
      obtain ⟨hs, hposRest⟩ : s.predicates.all Predicate.isPosition = true ∧
          isPositional rest = true := by
        simpa only [isPositional, List.all_cons, Bool.and_eq_true] using hpos
      cases haxis : s.axis with
      | self =>
          have hone : ∀ n, filterAll s.predicates [n] = [n] := by
            cases hlive with
            | self _ hone => exact hone
            | element hself => exact absurd haxis hself
            | leaf hself => exact absurd haxis hself
          rw [selectAll_of_self haxis hone] at h
          obtain ⟨name, below, hbelow, horder, hcount, hfound⟩ :=
            ih hposRest h (by simpa [descents, haxis] using hdescents)
          refine ⟨name, below, hbelow, ?_, ?_, ?_⟩
          · simpa [inOrder, haxis] using horder
          · simpa [descents, haxis] using hcount
          · simpa only [selectAll_of_self haxis hone] using hfound
      | descendant =>
          refine ⟨"", s :: rest, hlive, rfl, rfl, fun attributes children => ?_⟩
          have hscopes (v : Node) (hv : v.isElement = true) : (scopes v).Sublist (scopes v.document) :=
            scopes_listing.sublist_of_mem (scopes_listing.mem_of_mem_parts
              (mem_elements_iff.mpr ⟨List.mem_singleton_self v, hv⟩))
          -- The document is one more scope in front of those in its root element.
          rw [selectAll_descendant haxis, selectAll_descendant haxis]
          exact (hscopes _ rfl).flatMap _
      | child =>
          rw [select_child haxis] at hm
          have hmatch := (filterAll_sublist _ _).subset hm
          obtain rfl : m = root := List.mem_singleton.mp ((matches_sublist _ _).subset hmatch)
          have ht : s.test.isLeaf = false := by
            by_contra ht
            cases hroot.symm.trans (isElement_of_isLeaf (Bool.not_eq_false _ ▸ ht) hmatch)
          cases m with
          | element name attributes children =>
              have hone : ∀ n, filterAll s.predicates [n] = [n] :=
                filterAll_singleton hs (List.ne_nil_of_mem
                  (matches_root ht hmatch attributes children ▸ hm))
              refine ⟨name, rest, live_of_selectAll_ne_nil hposRest hrest, ?_, ?_, ?_⟩
              · simp [inOrder, haxis, ht]
              · simp [descents, haxis]
              · intro attributes' children'
                rw [stepwise.cons, select_child haxis, matches_root ht hmatch, hone,
                  List.flatMap_singleton]
          | _ => cases hroot

theorem Finds.exists_below {p : NodePath} (h : p.Finds) (hpos : isPositional p.steps = true)
    (hdescents : descents p.steps ≠ 0) :
    ∃ name below, Live below ∧ inOrder below = inOrder p.steps ∧
      descents below = descents p.steps ∧ ∀ attributes children,
        (selectAll below (.element name attributes children)).Sublist
          (p.select (.element name attributes children) (.element name attributes children)) := by
  obtain ⟨root, current, hroot, hfound⟩ := h
  rw [select] at hfound
  simp only [select]
  cases hp : p.isAbsolute with
  | true =>
      rw [hp] at hfound
      exact NodePath.exists_below hroot.isElement hpos hfound hdescents
  | false =>
      rw [hp] at hfound
      exact ⟨"", p.steps, live_of_selectAll_ne_nil hpos hfound, rfl, rfl, fun _ _ => .refl _⟩

theorem isDocument_element {a b : Nat} {name : String} {attributes : List Attribute}
    {children : List Node} (h : Numbered a b [.element name attributes children]) :
    IsDocument (.element name attributes children) := ⟨rfl, h.nodup_nodes⟩

/-- What a path finds is in document order if its descent, when there is one, leads to first elements
and in the end perhaps to attributes, and it is found once if there is one descent at most. For all
other paths whose predicates only count there is a document that tells, unless they find nothing in
any document. -/
theorem select_in_document_order (p : NodePath) :
    (inOrder p.steps = true → p.FindsInOrder) ∧ (descents p.steps ≤ 1 → p.FindsOnce) ∧
      (isPositional p.steps = true → p.Finds →
        (p.FindsInOrder → inOrder p.steps = true) ∧ (p.FindsOnce → descents p.steps ≤ 1)) := by
  refine ⟨?order, ?once, fun hpos hfinds => ⟨?onlyOrder, ?onlyOnce⟩⟩
  case order =>
    intro h root current _ hcurrent
    exact (selectAll_sublist h _).trans (nodes_listing.sublist_of_mem (start_mem p hcurrent))
  case once =>
    intro h root current hroot hcurrent
    have hnodes := nodes_listing.sublist_of_mem (start_mem p hcurrent)
    obtain ⟨found, hperm, hsub⟩ := selectAll_subperm h (if p.isAbsolute then root.document else current)
    exact hperm.nodup_iff.mp (hroot.nodup_document.sublist (hsub.trans hnodes))
  case onlyOrder =>
    intro hinOrder
    by_contra horder
    obtain ⟨name, below, hlive, hsame, _, hfound⟩ :=
      hfinds.exists_below hpos (descents_ne_zero (Bool.eq_false_iff.mpr horder))
    obtain ⟨b, attributes, children, hv, hdisorder⟩ :=
      hlive.disordered (hsame.trans (Bool.eq_false_iff.mpr horder)) 0 name
    have hroot := isDocument_element hv
    exact hdisorder _ hroot.nodup_document (nodes_sublist_document _)
      ((hfound attributes children).trans (hinOrder _ _ hroot (root_mem _)))
  case onlyOnce =>
    intro honce
    by_contra hcount
    obtain ⟨name, below, hlive, _, hsame, hfound⟩ := hfinds.exists_below hpos (by omega)
    obtain ⟨b, attributes, children, hv, htwice⟩ := hlive.not_nodup (by omega) 0 name
    have hroot := isDocument_element hv
    exact htwice ((honce _ _ hroot (root_mem _)).sublist (hfound attributes children))

/-- A late child element, and an early one with a child element of the same name. -/
def earlyInside : Node :=
  .element "r" [] [.element "x" [] [.element "id" [] [.text "2"]], .element "id" [] [.text "1"]]

theorem earlyInside_nodup : (nodes earlyInside).Nodup := by
  have h : ((nodes earlyInside).map fun n => (n.name?, n.innerText)).Nodup := by decide
  exact h.of_map _

theorem select_in_document_order_ids :
    parse "//id" = .ok ⟨true, [⟨.descendant, .name "id", []⟩], "//id"⟩ ∧
      ¬ FindsInOrder ⟨true, [⟨.descendant, .name "id", []⟩], "//id"⟩ ∧
      FindsOnce ⟨true, [⟨.descendant, .name "id", []⟩], "//id"⟩ := by
  obtain ⟨_, honce, honly⟩ :=
    select_in_document_order ⟨true, [⟨.descendant, .name "id", []⟩], "//id"⟩
  have hfinds : Finds ⟨true, [⟨.descendant, .name "id", []⟩], "//id"⟩ :=
    ⟨earlyInside, earlyInside, ⟨rfl, earlyInside_nodup⟩, List.cons_ne_nil _ _⟩
  exact ⟨rfl, fun h => absurd ((honly rfl hfinds).1 h) (by decide), honce (by decide)⟩

/-- A descent to a name finds a late outer element before the early inner one. -/
theorem select_outer_before_inner :
    parse "//id" = .ok ⟨true, [⟨.descendant, .name "id", []⟩], "//id"⟩ ∧
      (nodes earlyInside.document).Nodup ∧
      select ⟨true, [⟨.descendant, .name "id", []⟩], "//id"⟩ earlyInside earlyInside =
        [.element "id" [] [.text "1"], .element "id" [] [.text "2"]] ∧
      ¬ (select ⟨true, [⟨.descendant, .name "id", []⟩], "//id"⟩ earlyInside earlyInside).Sublist
        (nodes earlyInside.document) := by
  refine ⟨rfl, IsDocument.nodup_document ⟨rfl, earlyInside_nodup⟩, rfl, fun h => ?_⟩
  have htexts := h.map Node.innerText
  revert htexts
  decide

end Recast.NodePath
