import Recast.Proofs.Schema.Respelling
import Recast.Proofs.Transform.Elements
import Recast.Proofs.Transform.Rules
import Recast.Transform.Transformer

/-!
# Spellings of paths

Paths are compared as texts with those of the elements around a place. Where two spellings of a path
compare alike, a source finds the same through both of them.
-/

namespace Recast.Transform

open Input (BeginsAt Context Document Finding Scope beginsAt_append_iff below?_denotes
  below?_eq_none_of_not beginsAt_iff)
open Json (Value)
open Recast.Path
open Schema (Instance Respelled SameBeginnings Source)

variable {p : Place} {outer sels o : List Selector} {indices : List Nat} {names : List String}
variable {path path' u u' left left' : String}

/-! ## Lookups -/

/-- Texts that denote one path are left alike at scopes that both of them are below. -/
theorem scopeOf?_congr {scopes : List Scope} (hu : Denotes u sels) (hu' : Denotes u' sels)
    (h : ∀ s ∈ scopes, ∃ inner, s.path = written inner ∧ (∀ sel ∈ inner, sel.IsStep) ∧
      (BeginsAt u inner ↔ BeginsAt u' inner)) :
    (Context.scopeOf? u scopes = none ∧ Context.scopeOf? u' scopes = none) ∨
      ∃ seed left left' later, Context.scopeOf? u scopes = some (seed, left) ∧
        Context.scopeOf? u' scopes = some (seed, left') ∧
        Denotes ("$" ++ left) later ∧ Denotes ("$" ++ left') later := by
  induction scopes with
  | nil => exact Or.inl ⟨rfl, rfl⟩
  | cons s scopes ih =>
      obtain ⟨inner, hpath, hsteps, hbegins⟩ := h s (by simp)
      by_cases hb : BeginsAt u inner
      · obtain ⟨left, hl⟩ := Option.isSome_iff_exists.mp (beginsAt_iff.mp hb)
        obtain ⟨left', hl'⟩ := Option.isSome_iff_exists.mp (beginsAt_iff.mp (hbegins.mp hb))
        obtain ⟨later, rfl, hd⟩ := below?_denotes hsteps hu hl
        obtain ⟨later', he, hd'⟩ := below?_denotes hsteps hu' hl'
        obtain rfl := List.append_cancel_left he
        refine Or.inr ⟨s.seed, left, left', later, ?_, ?_, hd, hd'⟩
        · simp only [Context.scopeOf?, hpath, hl]
        · simp only [Context.scopeOf?, hpath, hl']
      · have hnone := below?_eq_none_of_not hb
        have hnone' := below?_eq_none_of_not fun hb' => hb (hbegins.mpr hb')
        simp only [Context.scopeOf?, hpath, hnone, hnone']
        exact ih fun s' hs' => h s' (by simp [hs'])

/-- Texts that denote one path and are below the same scopes find the same. -/
theorem lookup_congr {c : Context} (hu : Denotes u sels) (hu' : Denotes u' sels)
    (h : ∀ s ∈ c.scopes, ∃ inner, s.path = written inner ∧ (∀ sel ∈ inner, sel.IsStep) ∧
      (BeginsAt u inner ↔ BeginsAt u' inner)) : c.lookup u = c.lookup u' := by
  unfold Context.lookup
  rcases scopeOf?_congr hu hu' h with ⟨hn, hn'⟩ | ⟨seed, left, left', later, hs, hs', hl, hl'⟩
  · rw [hn, hn', Context.readPath, Context.readPath, hu.parse_eq, hu'.parse_eq]
  · rw [hs, hs']
    dsimp only
    rw [Context.readPath, Context.readPath, hl.parse_eq, hl'.parse_eq]

/-! ## Respelled paths -/

/-- Respelled paths leave the elements at the same trail. -/
theorem LeavesAt.trail_eq (hr : Respelled outer path path')
    (h : LeavesAt p outer indices path o left) {o' : List Selector}
    (h' : LeavesAt p outer indices path' o' left') : o = o' := by
  have begins : ∀ t ∈ itemTrails outer, BeginsAt path t ↔ BeginsAt path' t := by
    intro t ht
    have hb := hr.begins t [] [] (by rwa [List.append_nil]) rfl (by simp)
    rwa [fill_nil, List.append_nil] at hb
  have hle : o <+: o' := by
    rcases h.trail with rfl | ho
    · exact List.nil_prefix
    · exact h'.longest o ho ((begins o ho).mp ⟨left, h.path_eq, h.atBreak⟩)
  have hge : o' <+: o := by
    rcases h'.trail with rfl | ho'
    · exact List.nil_prefix
    · exact h.longest o' ho' ((begins o' ho').mpr ⟨left', h'.path_eq, h'.atBreak⟩)
  exact hle.eq_of_length_le hge.length_le

namespace Place.Within

/-- Where respelled paths leave the elements, they go on alike. -/
theorem beginsAt_left (h : p.Within outer indices) (hr : Respelled outer path path')
    (hl : LeavesAt p outer indices path o left) (hl' : LeavesAt p outer indices path' o left')
    {more : List Selector} (hm : o ++ more ∈ itemTrails outer) :
    BeginsAt (p.concrete path) (fill (o ++ more) indices) ↔
      BeginsAt (p.concrete path') (fill (o ++ more) indices) := by
  have hsteps : ∀ s ∈ o, s.IsStep := fun s hs => h.isStep s (hl.prefix_outer.subset hs)
  have hfill : ∀ s ∈ fill o indices, s.IsStep := by
    intro s hs
    have hs' := h.isConcrete_fill_of_mem hm s
    rw [fill_append_drop] at hs'
    exact (hs' (List.mem_append_left _ hs)).1
  -- The positions of the elements further in are those that the trail so far leaves.
  have hdepth : depth o + depth more ≤ indices.length := by
    rw [← depth_append, ← h.depth_eq]
    exact depth_le_of_prefix (prefix_of_mem_itemTrails hm)
  have hlength : ((indices.drop (depth o)).take (depth more)).length = depth more := by
    simp only [List.length_take, List.length_drop]
    omega
  have htake : fill more ((indices.drop (depth o)).take (depth more)) =
      fill more (indices.drop (depth o)) := by
    rw [← fill_append_indices (Nat.le_of_eq hlength.symm) ((indices.drop (depth o)).drop (depth more)),
      List.take_append_drop]
  have hb := hr.begins o more _ hm hlength fun k hk =>
    h.index_lt k (List.mem_of_mem_drop (List.mem_of_mem_take hk))
  rw [htake, hl.path_eq, hl'.path_eq, beginsAt_append_iff hsteps, beginsAt_append_iff hsteps] at hb
  rw [hl.concrete_eq, hl'.concrete_eq, fill_append_drop, beginsAt_append_iff hfill,
    beginsAt_append_iff hfill]
  exact hb

/-- Respelled paths find the same. -/
theorem lookup_respelled (h : p.Within outer indices) (hr : Respelled outer path path') :
    p.input.lookup (p.concrete path) = p.input.lookup (p.concrete path') := by
  obtain ⟨sels, hd, hd'⟩ := hr.denotes
  obtain ⟨o, left, hl⟩ := h.exists_leavesAt hd
  obtain ⟨o', left', hl'⟩ := h.exists_leavesAt hd'
  obtain rfl : o = o' := hl.trail_eq hr hl'
  obtain ⟨later, rfl, hu⟩ := hl.denotes_concrete h hd
  obtain ⟨later', he, hu'⟩ := hl'.denotes_concrete h hd'
  obtain rfl := List.append_cancel_left he
  refine lookup_congr hu hu' fun s hs => ?_
  obtain ⟨t, ht, hpath⟩ := h.exists_trail_of_scope hs
  have hfill : ∀ s ∈ fill t indices, s.IsStep := fun s hs => (h.isConcrete_fill_of_mem ht s hs).1
  refine ⟨fill t indices, hpath, hfill, ?_⟩
  rcases List.prefix_or_prefix_of_prefix hl.prefix_outer (prefix_of_mem_itemTrails ht) with hle | hge
  · obtain ⟨more, rfl⟩ := hle
    exact h.beginsAt_left hr hl hl' ht
  · -- Both paths are below the scopes further out.
    obtain ⟨more, rfl⟩ := hge
    have hsteps := hl.isStep_fill h
    rw [fill_append_drop] at hsteps
    have hmore : ∀ s ∈ fill more (indices.drop (depth t)), s.IsStep :=
      fun s hs => hsteps s (List.mem_append_right _ hs)
    have hb : BeginsAt (p.concrete path) (fill (t ++ more) indices) :=
      ⟨left, hl.concrete_eq, hl.atBreak⟩
    have hb' : BeginsAt (p.concrete path') (fill (t ++ more) indices) :=
      ⟨left', hl'.concrete_eq, hl'.atBreak⟩
    rw [fill_append_drop] at hb hb'
    exact ⟨fun _ => hb'.of_append hfill hmore, fun _ => hb.of_append hfill hmore⟩

end Place.Within

/-! ## Instances that are alike -/

variable {i i' : Instance} {ps ps' : List Instance} {s s' : Source}

/-- The lists around a property are those around its object. -/
theorem respelled_append_members :
    Respelled (outer ++ members names) path path' ↔ Respelled outer path path' := by
  have hb : SameBeginnings (outer ++ members names) path path' ↔
      SameBeginnings outer path path' := by
    unfold SameBeginnings
    rw [itemTrails_append_members]
  exact ⟨fun h => ⟨h.denotes, hb.mp h.begins⟩, fun h => ⟨h.denotes, hb.mpr h.begins⟩⟩

theorem findsSame_alike (hp : p.Within outer indices)
    (h : s.Alike (outer ++ members names) s') : FindsSame p p s s' := by
  refine ⟨?_, h.operations_eq⟩
  have hpath := h.path
  unfold find
  rw [h.nodePath_eq]
  generalize s.path = path at hpath
  generalize s'.path = path' at hpath
  cases hpath with
  | none => rfl
  | some hr =>
      rcases hr with rfl | hr
      · rfl
      · rename_i path path'
        have hl : lookup p (p.concrete path) = lookup p (p.concrete path') := by
          rw [lookup, hp.lookup_respelled (respelled_append_members.mp hr), lookup]
        generalize p.input.document = document
        cases document with
        | json v => exact hl
        | markup root =>
            cases s'.nodePath with
            | none => exact hl
            | some nodePath => rfl

theorem resolve_alike (hp : p.Within outer indices)
    (h : Instance.Alike (outer ++ members names) i i') : resolve p i = resolve p i' := by
  have hrule := h.rule? p.ruleSet
  unfold resolve
  rw [Instance.path, Instance.path, h.declared.path_eq, h.kind_eq, h.declared.default_eq]
  generalize i.rule? p.ruleSet = rule at hrule
  generalize i'.rule? p.ruleSet = rule' at hrule
  cases hrule with
  | none => rfl
  | some hrule =>
      have hsources := hrule.sources.imp fun _ _ hs => findsSame_alike hp hs
      dsimp only
      rw [applyRule_congr hrule.method_eq hrule.delimiter_eq hsources]

theorem writeInstance_alike (h : Instance.Alike (outer ++ members names) i i')
    (found : Option Finding) (tree : Value) :
    writeInstance p i found tree = writeInstance p i' found tree := by
  unfold writeInstance
  rw [Instance.path, Instance.path, h.declared.path_eq]

theorem walkEach_alike {trail : List Selector} (hps : Instance.AlikeEach trail ps ps')
    (h : ∀ i ∈ ps, ∀ i', Instance.Alike (trail ++ [.child i.key]) i i' →
      ∀ tree, walk i p tree = walk i' p tree) (tree : Value) :
    walkEach ps p tree = walkEach ps' p tree := by
  induction ps generalizing ps' tree with
  | nil =>
      cases hps
      rfl
  | cons i ps ih =>
      cases hps with
      | cons hi hps =>
          unfold walkEach
          rw [h i (by simp) _ hi]
          congr 1
          funext tree'
          exact ih hps (fun j hj => h j (by simp [hj])) tree'

/-- Instances that are alike are walked in the same way. -/
theorem walk_alike (hp : p.Within outer indices) (hi : i.Addressed (outer ++ members names))
    (i' : Instance) (h : Instance.Alike (outer ++ members names) i i') (tree : Value) :
    walk i p tree = walk i' p tree := by
  revert i' h tree
  refine Place.Within.induction ?scalar ?object ?array hp hi
  case scalar =>
    intro p outer indices names d k hp hd i' h tree
    have hresolve := resolve_alike hp h
    have hwrite := fun found => writeInstance_alike (p := p) h found tree
    cases h with
    | scalar =>
        unfold walk
        simp only [hresolve, hwrite]
  case object =>
    intro p outer indices names d ps hp hd ih i' h tree
    have hresolve := resolve_alike hp h
    have hwrite := fun found => writeInstance_alike (p := p) h found tree
    cases h with
    | @object _ _ d' _ ps' h hps =>
        have hbelow : ∀ tree, walkEach ps p tree = walkEach ps' p tree := by
          refine walkEach_alike hps fun i hi i' h tree => ih i hi i' ?_ tree
          rwa [members_append, ← List.append_assoc]
        unfold walk
        simp only [hresolve, hwrite, hbelow]
  case array =>
    intro p outer indices names d items hp hd ih i' h tree
    have hresolve := resolve_alike hp h
    cases h with
    | @array _ _ d' _ items' h hitems =>
        have hpath : items.path = items'.path := hitems.declared.path_eq
        have helement : ∀ k seed, k < indexLimit →
            (walk items (p.enter items.path (elementPath (p.concrete d.path) k) seed) Tree.empty >>=
              takeAt (elementPath (p.concrete d.path) k)) =
            (walk items' (p.enter items'.path (elementPath (p.concrete d'.path) k) seed) Tree.empty >>=
              takeAt (elementPath (p.concrete d'.path) k)) := by
          intro k seed hk
          rw [ih k seed hk items' (by rwa [append_members_nil]), hpath, h.path_eq]
        unfold walk
        dsimp only
        rw [hresolve, h.path_eq]
        congr 1
        funext found
        cases found with
        | none => rfl
        | some base =>
            dsimp only
            rw [h.path_eq] at helement
            rw [collect_congr (by decide) helement]

end Recast.Transform

namespace Recast.Transformer

open Input (Document)
open Json (Value)
open Recast.Path
open Schema (Descriptor DiffersInSource Respelled SameBeginnings extended listFragment objectFragment
  ruleEntry scalarFragment sourceText)
open Transform (run)

/-- Schemas that differ in the spelling of one path make the same of a document, if the two spellings
begin with the paths of the same elements of the lists around the instance. Then transforms differ at
most where the schemas do not judge the output alike. -/
theorem transformDocument_respelled (t t' : Transformer) {trail : List Selector} {old new : String}
    {q : Path} (hread : Descriptor.read t.descriptor.schema = .ok t.descriptor)
    (hread' : Descriptor.read t'.descriptor.schema = .ok t'.descriptor)
    (hset : t.ruleSet = t'.ruleSet)
    (hdiffers : DiffersInSource trail old new t.descriptor.schema t'.descriptor.schema)
    (hold : Path.parse (sourceText trail old) = .ok q)
    (hnew : Path.parse (sourceText trail new) = .ok q)
    (hbegins : SameBeginnings trail (sourceText trail old) (sourceText trail new))
    (document : Document) :
    run t.descriptor.root t.ruleSet document = run t'.descriptor.root t'.ruleSet document ∧
      ((∀ v, run t.descriptor.root t.ruleSet document = .ok v →
          t.gate.judge v = t'.gate.judge v) →
        t.transformDocument document = t'.transformDocument document) := by
  have hspelled : Respelled trail (sourceText trail old) (sourceText trail new) :=
    ⟨⟨q.selectors, Schema.denotes_sourceText hdiffers.isTrailStep hold,
      Schema.denotes_sourceText hdiffers.isTrailStep hnew⟩, hbegins⟩
  have hroot : t.descriptor.root.Addressed ([] ++ members []) := Descriptor.root_addressed hread
  have halike : Schema.Instance.Alike ([] ++ members []) t.descriptor.root t'.descriptor.root :=
    Descriptor.root_alike hread hread' hdiffers hspelled
  have hrun : run t.descriptor.root t.ruleSet document =
      run t'.descriptor.root t'.ruleSet document := by
    unfold run
    rw [← hset, Transform.walk_alike (.outside t.ruleSet document) hroot _ halike]
  refine ⟨hrun, fun hgate => ?_⟩
  unfold transformDocument
  rw [← hrun]
  cases h : run t.descriptor.root t.ruleSet document with
  | error e => rfl
  | ok v =>
      dsimp only [bind, Except.bind]
      rw [hgate v h]

/-- A property of the items in brackets and quotes. -/
theorem transformDocument_respelled_quoted :
    let schema (source : String) : Value := objectFragment [("crops", listFragment (objectFragment
      [("name", extended [ruleEntry "cms" source] (scalarFragment "string"))]))]
    let document : Document := .json (.object [("crops", .array
      [.object [("path", .string "a")], .object [("path", .string "b")]])])
    ∃ d d', Descriptor.read (schema "@.path") = .ok d ∧ Descriptor.read (schema "@['path']") = .ok d' ∧
      transformDocument ⟨d, "cms", none, .acceptAll⟩ document =
        transformDocument ⟨d', "cms", none, .acceptAll⟩ document ∧
      (transformDocument ⟨d', "cms", none, .acceptAll⟩ document).toOption = some (.object
        [("crops", .array [.object [("name", .string "a")], .object [("name", .string "b")]])]) := by
  intro schema document
  have hdiffers : DiffersInSource [.child "crops", .wildcard, .child "name"] "@.path" "@['path']"
      (schema "@.path") (schema "@['path']") :=
    ⟨by simp [IsTrailStep], "cms", .key "from", 0, .key "jsonPath", rfl, rfl,
      .member rfl (.member rfl (.member rfl (.member rfl (.member rfl (.member rfl (.member rfl
        (.member rfl (.element rfl (.member rfl .here)))))))))⟩
  have hold : sourceText [.child "crops", .wildcard, .child "name"] "@.path" =
      written [.child "crops", .wildcard] ++ ".path" := by decide +kernel
  have hnew : sourceText [.child "crops", .wildcard, .child "name"] "@['path']" =
      written [.child "crops", .wildcard] ++ "['path']" := by decide +kernel
  have hread : Denotes (written [.child "crops", .wildcard] ++ ".path")
      [.child "crops", .wildcard, .child "path"] := ⟨rfl, Text.tight_iff_trim_eq.mpr rfl⟩
  have hread' : Denotes (written [.child "crops", .wildcard] ++ "['path']")
      [.child "crops", .wildcard, .child "path"] := ⟨rfl, Text.tight_iff_trim_eq.mpr rfl⟩
  have hbegins : SameBeginnings [.child "crops", .wildcard, .child "name"]
      (written [.child "crops", .wildcard] ++ ".path")
      (written [.child "crops", .wildcard] ++ "['path']") :=
    Schema.sameBeginnings_of_front (by simp [IsTrailStep]) (by simp [Selector.IsStep]) (by decide)
      (by simp [AtBreak]) (by simp [AtBreak]) hread hread'
  rw [← hold] at hread hbegins
  rw [← hnew] at hread' hbegins
  obtain ⟨d, hd⟩ : ∃ d, Descriptor.read (schema "@.path") = .ok d := ⟨_, rfl⟩
  obtain ⟨d', hd'⟩ : ∃ d, Descriptor.read (schema "@['path']") = .ok d := ⟨_, rfl⟩
  have houtput : ((Descriptor.read (schema "@['path']")).toOption.bind fun d =>
      (transformDocument ⟨d, "cms", none, .acceptAll⟩ document).toOption) = some (.object
        [("crops", .array [.object [("name", .string "a")], .object [("name", .string "b")]])]) := by
    decide +kernel
  rw [hd'] at houtput
  refine ⟨d, d', hd, hd', ?_, houtput⟩
  rw [← Descriptor.read_schema hd, ← Descriptor.read_schema hd'] at hdiffers
  rw [← Descriptor.read_schema hd] at hd
  rw [← Descriptor.read_schema hd'] at hd'
  exact (transformDocument_respelled ⟨d, "cms", none, .acceptAll⟩ ⟨d', "cms", none, .acceptAll⟩ hd
    hd' rfl hdiffers hread.parse_eq hread'.parse_eq hbegins document).2 fun _ _ => rfl

/-- Spellings matter where only one of them begins with the path of the items, and where the text of
a rule is part of what the output is judged by. -/
theorem transformDocument_respelled_apart :
    let crops (source : String) : Value := objectFragment [("crops", listFragment (objectFragment
      [("names", extended [ruleEntry "cms" source] (listFragment (scalarFragment "string")))]))]
    let boxes (source : String) : Value := objectFragment
      [("box", extended [("$ref", .string "#/properties/a/transform")] (objectFragment
          [("from", listFragment (objectFragment [("jsonPath", scalarFragment "string")]))])),
        ("a", extended [ruleEntry "const" source] (scalarFragment "string"))]
    let isAccepted (schema : Value) : Prop := (ofSchema schema "cms").toOption.isSome = true
    let output (schema v : Value) : Option Value :=
      (ofSchema schema "cms" >>= fun t => t.transformValue v).toOption
    let rows : Value := .object [("crops", .array
      [.object [("path", .string "a")], .object [("path", .string "b")]])]
    let box : Value := .object [("box", .object
      [("from", .array [.object [("jsonPath", .string "$.b")]])])]
    (DiffersInSource [.child "crops", .wildcard, .child "names"] "$.crops[*].path"
        "$['crops'][*].path" (crops "$.crops[*].path") (crops "$['crops'][*].path") ∧
      Path.parse "$.crops[*].path" = Path.parse "$['crops'][*].path" ∧
      isAccepted (crops "$.crops[*].path") ∧ isAccepted (crops "$['crops'][*].path") ∧
      output (crops "$.crops[*].path") rows ≠ output (crops "$['crops'][*].path") rows) ∧
    (DiffersInSource [.child "a"] "$.b" "$['b']" (boxes "$.b") (boxes "$['b']") ∧
      Path.parse "$.b" = Path.parse "$['b']" ∧
      isAccepted (boxes "$.b") ∧ isAccepted (boxes "$['b']") ∧
      output (boxes "$.b") box ≠ output (boxes "$['b']") box) := by
  intro crops boxes isAccepted output rows box
  refine ⟨⟨⟨by simp [IsTrailStep], "cms", .key "from", 0, .key "jsonPath", rfl, rfl, ?_⟩, rfl, ?_,
    ?_, ?_⟩, ⟨by simp [IsTrailStep], "const", .key "from", 0, .key "jsonPath", rfl, rfl, ?_⟩, rfl,
    ?_, ?_, ?_⟩
  · exact .member rfl (.member rfl (.member rfl (.member rfl (.member rfl (.member rfl (.member rfl
      (.member rfl (.element rfl (.member rfl .here)))))))))
  · decide +kernel
  · decide +kernel
  · decide +kernel
  · exact .member rfl (.member rfl (.member rfl (.member rfl (.member rfl (.element rfl
      (.member rfl .here))))))
  · decide +kernel
  · decide +kernel
  · decide +kernel

end Recast.Transformer
