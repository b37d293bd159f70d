import Recast.Proofs.Path.Select
import Recast.Proofs.Schema.Current
import Recast.Proofs.Transform.Elements
import Recast.Proofs.Transform.Refinement
import Recast.Proofs.Transform.Rules

/-!
# Elements by themselves

Inside an element, an instance whose rules use the current value only is resolved from that element
alone: neither the position of the element nor the rest of the document counts.
-/

namespace Recast

open Input (BeginsAt Context Finding Scope below? below?_eq_some_iff)
open Json (Value)
open Recast.Path
open Schema (Declared Descriptor Instance Source extended listFragment objectFragment ruleEntry
  scalarFragment)

variable {o sels : List Selector} {indices indices' : List Nat} {names : List String}
variable {path left ruleSet : String} {i : Instance}

namespace Transform

variable {p p' : Place} {s : Source}

/-! ## The innermost element -/

/-- Two places inside elements have the same innermost element, and look it up in JSON documents. -/
structure SameElement (p p' : Place) : Prop where
  ruleSet_eq : p.ruleSet = p'.ruleSet
  seed_eq : ∃ seed scope scope' scopes scopes', p.input.scopes = ⟨scope, seed⟩ :: scopes ∧
    p'.input.scopes = ⟨scope', seed⟩ :: scopes'
  json : (∃ v, p.input.document = .json v) ∧ ∃ v, p'.input.document = .json v

theorem SameElement.enter (h : SameElement p p') (general path path' : String) (seed : Finding) :
    SameElement (p.enter general path seed) (p'.enter general path' seed) :=
  ⟨h.ruleSet_eq, ⟨seed, path, path', _, _, rfl, rfl⟩, h.json⟩

theorem SameElement.nearest_eq (h : SameElement p p') (sels : List Selector) :
    nearest p.input sels = nearest p'.input sels := by
  obtain ⟨seed, path, path', scopes, scopes', hs, hs'⟩ := h.seed_eq
  rw [nearest, nearest, lookupNearest, lookupNearest, hs, hs']

/-- A path below the items of the innermost list is looked up in the innermost element. -/
theorem Place.Within.lookup_of_below (h : p.Within (o ++ [.wildcard]) indices)
    (hp : Denotes path sels) (hleft : path = written (o ++ [.wildcard]) ++ left)
    (hb : AtBreak left.toList) {seed : Finding} {scope : String} {scopes : List Scope}
    (hs : p.input.scopes = ⟨scope, seed⟩ :: scopes) :
    p.input.lookup (p.concrete path) =
      Context.readPath ("$" ++ left) >>= fun q => Context.inSeed q seed := by
  obtain ⟨inner, left', hl⟩ := h.exists_leavesAt hp
  -- Nothing is further in than the items of the innermost list.
  obtain rfl : inner = o ++ [.wildcard] := by
    have hmem : o ++ [Selector.wildcard] ∈ itemTrails (o ++ [.wildcard]) := by
      rw [itemTrails_append]
      exact List.mem_append_right _ (by simp [itemTrails])
    have hle := hl.longest _ hmem ⟨left, hleft, hb⟩
    exact (hle.eq_of_length_le hl.prefix_outer.length_le).symm
  have hscope : scope = written (fill (o ++ [.wildcard]) indices) := by
    have hscopes := h.scopes_path
    rcases h.elements_eq with ⟨he, _, _⟩ | ⟨rest, he⟩ <;> rw [hs, he] at hscopes
    · cases hscopes
    · exact (List.cons.inj hscopes).1
  have hleft' : left' = left := by
    rw [hl.path_eq] at hleft
    exact (String.append_right_inj _).mp hleft
  have hbelow : below? scope (p.concrete path) = some left :=
    below?_eq_some_iff.mpr ⟨by rw [hl.concrete_eq, hscope, hleft'], hb⟩
  simp only [Context.lookup, Context.scopeOf?, hs, hbelow]

/-! ## Building inside an element -/

theorem findsSame_of_below (hp : p.Within (o ++ [.wildcard]) indices)
    (hp' : p'.Within (o ++ [.wildcard]) indices') (h : SameElement p p')
    (hread : ∀ path ∈ s.path, ∃ sels, Denotes path sels)
    (hbelow : ∀ path ∈ s.path, BeginsAt path (o ++ [.wildcard])) : FindsSame p p' s s := by
  refine ⟨?_, rfl⟩
  obtain ⟨⟨v, hv⟩, ⟨v', hv'⟩⟩ := h.json
  obtain ⟨seed, scope, scope', scopes, scopes', hs, hs'⟩ := h.seed_eq
  unfold find
  rw [hv, hv']
  cases hpath : s.path with
  | none => rfl
  | some path =>
      obtain ⟨sels, hsels⟩ := hread path hpath
      obtain ⟨left, hleft, hb⟩ := hbelow path hpath
      have hl := hp.lookup_of_below hsels hleft hb hs
      have hl' := hp'.lookup_of_below hsels hleft hb hs'
      dsimp only
      rw [lookup, lookup, hl, hl']

theorem resolved_local (hp : p.Within (o ++ [.wildcard]) indices)
    (hp' : p'.Within (o ++ [.wildcard]) indices') (h : SameElement p p')
    (hi : i.declared.At (o ++ [.wildcard] ++ members names)) (hcurrent : i.UsesCurrent p.ruleSet) :
    resolved p i = resolved p' i := by
  have hcopied : copied p i names = copied p' i names := by
    unfold copied
    rw [h.nearest_eq]
  have hrule : (byRule p i).mapError Error.kind = (byRule p' i).mapError Error.kind := by
    unfold byRule
    rw [← h.ruleSet_eq]
    cases hr : i.rule? p.ruleSet with
    | none => rfl
    | some rule =>
        have hsources : List.Forall₂ (FindsSame p p') rule.sources rule.sources :=
          List.forall₂_same.mpr fun s hs => findsSame_of_below hp hp' h
            (hi.readable_of_rule hr s hs) (hcurrent.beginsAt hp.isStep hi rule hr s hs)
        dsimp only
        rw [applyRule_congr rfl rfl hsources, applyRule_kind (p.concrete i.path)]
  unfold resolved
  rw [resolve_eq hp hi, resolve_eq hp' hi, mapError_bind, mapError_bind, hrule, hcopied]

theorem buildEach_congr {ps : List Instance} (h : ∀ i ∈ ps, ∀ s, build i p s = build i p' s)
    (s : Slot) : buildEach ps p s = buildEach ps p' s := by
  induction ps generalizing s with
  | nil =>
      unfold buildEach
      rfl
  | cons i ps ih =>
      unfold buildEach
      rw [h i (by simp)]
      congr 1
      funext s'
      exact ih (fun j hj => h j (by simp [hj])) _

/-- What is built inside an element depends on that element only. -/
theorem build_local (hp : p.Within (o ++ [.wildcard]) indices)
    (hp' : p'.Within (o ++ [.wildcard]) indices') (h : SameElement p p')
    (hi : i.Addressed (o ++ [.wildcard] ++ members names))
    (hcurrent : i.Everywhere (Instance.UsesCurrent p.ruleSet)) (s : Slot) :
    build i p s = build i p' s := by
  induction i using Instance.induction generalizing p p' o indices indices' names s with
  | scalar d k =>
      unfold build
      rw [resolved_local hp hp' h hi.at hcurrent.self]
  | object d ps ih =>
      have hresolved := resolved_local hp hp' h hi.at hcurrent.self
      cases hi with
      | object hd name_eq below =>
          have hbelow : ∀ s, buildEach ps p s = buildEach ps p' s := by
            refine buildEach_congr fun i hi s => ?_
            have hat := below i hi
            have hmembers : o ++ [Selector.wildcard] ++ members names ++ [.child i.key] =
                o ++ [Selector.wildcard] ++ members (names ++ [i.key]) := by
              rw [members_append, ← List.append_assoc]
            rw [hmembers] at hat
            exact ih i hi hp hp' h hat (hcurrent.property hi) s
          unfold build
          simp only [hresolved, hbelow]
  | array d items ih =>
      have hresolved := resolved_local hp hp' h hi.at hcurrent.self
      cases hi with
      | array hd below =>
          have hitems : ∀ (k : Nat) (seed : Finding), k < indexLimit →
              build items (p.enter items.path (elementPath (p.concrete d.path) k) seed) .empty =
                build items (p'.enter items.path (elementPath (p'.concrete d.path) k) seed) .empty := by
            intro k seed hk
            have hin := hp.enter_items hd below.at seed hk
            have hin' := hp'.enter_items hd below.at seed hk
            have hat : items.Addressed
                (o ++ [Selector.wildcard] ++ members names ++ [.wildcard] ++ members []) := by
              rwa [append_members_nil]
            have hsame := h.enter items.path (elementPath (p.concrete d.path) k)
              (elementPath (p'.concrete d.path) k) seed
            exact ih hin hin' hsame hat hcurrent.items _
          unfold build
          rw [hresolved]
          congr 1
          funext found
          cases found with
          | none => rfl
          | some base =>
              dsimp only
              congr 1
              refine collect_congr (by decide) (fun k seed hk => ?_) base.seeds
              rw [hitems k seed hk]

/-! ## Lists -/

theorem collect_cons (element : Nat → Finding → Except ε (Option Value)) (k : Nat) (seed : Finding)
    (seeds : List Finding) :
    collect element k (seed :: seeds) = element k seed >>= fun value =>
      collect element (nextIndex k) seeds >>= fun values => .ok (value.toList ++ values) := rfl

theorem collect_shift (f : Finding → Except ε (Option Value)) (k k' : Nat) (seeds : List Finding) :
    collect (fun _ => f) k seeds = collect (fun _ => f) k' seeds := by
  induction seeds generalizing k k' with
  | nil => rfl
  | cons seed seeds ih => rw [collect_cons, collect_cons, ih (nextIndex k) (nextIndex k')]

/-- Where positions do not count, the elements of two lists are collected one list after the
other. -/
theorem collect_append (f : Finding → Except ε (Option Value)) (k : Nat) (xs ys : List Finding) :
    collect (fun _ => f) k (xs ++ ys) = collect (fun _ => f) k xs >>= fun as =>
      collect (fun _ => f) k ys >>= fun bs => .ok (as ++ bs) := by
  induction xs with
  | nil =>
      rw [List.nil_append]
      cases collect (fun _ => f) k ys <;> rfl
  | cons seed xs ih =>
      rw [List.cons_append, collect_cons, collect_cons, collect_shift f (nextIndex k) k (xs ++ ys),
        collect_shift f (nextIndex k) k xs, ih]
      rcases f seed with e | value
      · rfl
      · rcases collect (fun _ => f) k xs with e | as
        · rfl
        · rcases collect (fun _ => f) k ys with e | bs
          · rfl
          · exact congrArg Except.ok (List.append_assoc value.toList as bs).symm

/-- What an element gives by itself. -/
def alone (ruleSet : String) (d : Declared) (items : Instance) (seed : Finding) :
    Except Error.Kind (Option Value) := do
  let p := (Place.start ruleSet (.json .null)).enter items.path (elementPath d.path 0) seed
  .ok (← build items p .empty).value?

/-- The document with a list as its only member. -/
def listDocument (name : String) (vs : List Value) : Value := .object [(name, .array vs)]

section List

variable {d ad : Declared} {items : Instance} {name : String}

/-- A list outside of lists is built from its elements by themselves. -/
theorem build_array (hi : (Instance.array ad items).Addressed (members [name]))
    (hlist : (Instance.array ad items).rule? ruleSet = none)
    (hcurrent : items.Everywhere (Instance.UsesCurrent ruleSet)) (vs : List Value) :
    build (.array ad items) (.start ruleSet (.json (listDocument name vs))) .empty =
      (collect (fun _ => alone ruleSet ad items) 0 (vs.map .json)).map
        fun as => .holds (.array as) := by
  let p := Place.start ruleSet (.json (listDocument name vs))
  have hp : p.Within [] [] := .outside _ _
  have hfound : copied p (.array ad items) [name] = some (.json (.array vs)) := by
    show Context.inValue ⟨.document, members [name]⟩ (listDocument name vs) = _
    have hfollow : follow [name] (listDocument name vs) = some (.array vs) := by
      simp [follow, listDocument, Value.field?, Json.Fields.get?]
    rw [inValue_members, hfollow]
    rfl
  have hresolved : resolved p (.array ad items) = .ok (some (.json (.array vs))) := by
    have hat : ad.At ([] ++ members [name]) := hi.at
    rw [resolved_of_no_rule hp (i := .array ad items) hat hlist, hfound]
    rfl
  cases hi with
  | array hd below =>
      have hd' : ad.At ([] ++ members [name]) := hd
      have helement : ∀ (k : Nat) (seed : Finding), k < indexLimit →
          (build items (p.enter items.path (elementPath (p.concrete ad.path) k) seed) .empty >>=
            fun s => .ok s.value?) = alone ruleSet ad items seed := by
        intro k seed hk
        have hin := hp.enter_items hd' below.at seed hk
        have hin' := (Place.Within.outside ruleSet (.json .null)).enter_items hd' below.at seed
          (by decide : 0 < indexLimit)
        have hsame : SameElement (p.enter items.path (elementPath (p.concrete ad.path) k) seed)
            ((Place.start ruleSet (.json .null)).enter items.path (elementPath ad.path 0) seed) :=
          ⟨rfl, ⟨seed, _, _, _, _, rfl, rfl⟩, ⟨_, rfl⟩, ⟨_, rfl⟩⟩
        have hat : items.Addressed (members [name] ++ [.wildcard] ++ members []) := by
          rwa [append_members_nil]
        have hlocal := build_local hin hin' hsame hat hcurrent .empty
        exact congrArg (· >>= fun s => .ok s.value?) hlocal
      unfold build
      rw [hresolved]
      show collect _ 0 (vs.map .json) >>= (fun as => Slot.empty.fill (some (.array as))) = _
      rw [collect_congr (by decide) helement]
      cases collect (fun _ => alone ruleSet ad items) 0 (vs.map .json) <;> rfl

/-- A list that is the only property is built from its elements by themselves. -/
theorem build_list (hi : (Instance.object d [.array ad items]).Addressed [])
    (hrule : (Instance.object d [.array ad items]).rule? ruleSet = none)
    (hdefault : d.default = none) (hlist : (Instance.array ad items).rule? ruleSet = none)
    (hcurrent : items.Everywhere (Instance.UsesCurrent ruleSet)) (vs : List Value) :
    let key := (Instance.array ad items).key
    build (.object d [.array ad items]) (.start ruleSet (.json (listDocument key vs))) .empty =
      (collect (fun _ => alone ruleSet ad items) 0 (vs.map .json)).map
        fun as => .holds (listDocument key as) := by
  intro key
  let p := Place.start ruleSet (.json (listDocument key vs))
  cases hi with
  | object hd name_eq below =>
      have hresolved : resolved p (.object d [.array ad items]) = .ok none := by
        have hat : d.At ([] ++ members []) := hd
        rw [resolved_of_no_rule (i := .object d [.array ad items]) (.outside _ _) hat hrule]
        show Except.ok (none <|> d.default.map Finding.json) = _
        rw [hdefault]
        rfl
      have hbuilt := build_array (below _ (List.mem_singleton.mpr rfl)) hlist hcurrent vs
      unfold build
      rw [hresolved]
      show buildEach [.array ad items] p .empty = _
      unfold buildEach
      rw [show Slot.empty.member (Instance.array ad items).key = .empty from rfl, hbuilt]
      cases collect (fun _ => alone ruleSet ad items) 0 (vs.map .json) <;> rfl

end List

/-- In the items of a list at the root, the instances use the current value where the entries below
the list do. -/
theorem usesCurrent_items {rd ad : Declared} {items : Instance} {w : Schema.Walk}
    (hi : (Instance.object rd [.array ad items]).Addressed [])
    (hw : w.Covers (Instance.object rd [.array ad items]).all)
    (hcurrent : ∀ e ∈ w.entries, 2 ≤ e.depth → e.UsesCurrent ruleSet) :
    items.Everywhere (Instance.UsesCurrent ruleSet) := by
  intro j hj
  have hmem : j ∈ (Instance.object rd [.array ad items]).all :=
    Instance.mem_all_object.mpr (Or.inr ⟨_, List.mem_singleton.mpr rfl,
      Instance.mem_all_array.mpr (Or.inr hj)⟩)
  obtain ⟨e, he, trail, hof⟩ := hw.exists_entry hmem
  refine hof.usesCurrent (hcurrent e he ?_)
  cases hi with
  | object _ _ below =>
      cases below _ (List.mem_singleton.mpr rfl) with
      | array _ below =>
          obtain ⟨more, hmore, hat⟩ := below.of_mem_all hj
          have htrail : trail = [.child (Instance.array ad items).key, .wildcard] ++ more := by
            refine written_injective (fun s hs => (hof.isTrailStep s hs).isStep) ?_
              (hof.instance_path.symm.trans hat.at.path_eq)
            intro s hs
            simp only [List.cons_append, List.nil_append, List.mem_cons] at hs
            rcases hs with rfl | rfl | hs
            · trivial
            · trivial
            · exact (hmore s hs).isStep
          rw [hof.depth_eq, htrail]
          simp

/-- A result that is made of two collections fails where one of theirs does, and continues the first
with the second where none does. -/
theorem results_append {x xa xb : Except Error Value} {as bs : Except Error.Kind (List Value)}
    {f : List Value → Value}
    (h : x.mapError Error.kind = (as >>= fun as => bs >>= fun bs => .ok (as ++ bs)).map f)
    (ha : xa.mapError Error.kind = as.map f) (hb : xb.mapError Error.kind = bs.map f) :
    ((∃ e, x = .error e) ↔ (∃ e, xa = .error e) ∨ ∃ e, xb = .error e) ∧
      ∀ v, x = .ok v → ∃ as bs, xa = .ok (f as) ∧ xb = .ok (f bs) ∧ v = f (as ++ bs) := by
  rcases as with e | as
  · have hx : ∃ e, x = .error e := exists_error_mapError.mp ⟨e, h⟩
    refine ⟨⟨fun _ => Or.inl (exists_error_mapError.mp ⟨e, ha⟩), fun _ => hx⟩, fun v hv => ?_⟩
    obtain ⟨e, he⟩ := hx
    cases he.symm.trans hv
  rcases bs with e | bs
  · have hx : ∃ e, x = .error e := exists_error_mapError.mp ⟨e, h⟩
    refine ⟨⟨fun _ => Or.inr (exists_error_mapError.mp ⟨e, hb⟩), fun _ => hx⟩, fun v hv => ?_⟩
    obtain ⟨e, he⟩ := hx
    cases he.symm.trans hv
  obtain rfl := mapError_eq_ok.mp h
  obtain rfl := mapError_eq_ok.mp ha
  obtain rfl := mapError_eq_ok.mp hb
  exact ⟨⟨nofun, nofun⟩, fun v hv => ⟨as, bs, rfl, rfl, (Except.ok.inj hv).symm⟩⟩

/-- In a schema whose rules below the items of a list use the current value only, the results of a
list are those of its parts, one after the other. -/
theorem run_append (schema : Value) {d : Descriptor} (h : Descriptor.read schema = .ok d)
    (ruleSet : String) {rd ad : Declared} {items : Instance}
    (hroot : d.root = .object rd [.array ad items]) (hrule : d.root.rule? ruleSet = none)
    (hdefault : rd.default = none) (hlist : (Instance.array ad items).rule? ruleSet = none)
    (hcurrent : ∀ e ∈ (Schema.entries schema).entries, 2 ≤ e.depth → e.UsesCurrent ruleSet)
    (xs ys : List Value) :
    let key := (Instance.array ad items).key
    let result (vs : List Value) := run d.root ruleSet (.json (listDocument key vs))
    ((∃ e, result (xs ++ ys) = .error e) ↔
        (∃ e, result xs = .error e) ∨ ∃ e, result ys = .error e) ∧
      ∀ v, result (xs ++ ys) = .ok v → ∃ as bs, result xs = .ok (listDocument key as) ∧
        result ys = .ok (listDocument key bs) ∧ v = listDocument key (as ++ bs) := by
  intro key result
  have haddressed := Descriptor.root_addressed h
  have hcovers := Descriptor.covers h
  rw [Descriptor.instances] at hcovers
  rw [hroot] at haddressed hrule hcovers
  have hitems := usesCurrent_items haddressed hcovers hcurrent
  have hresult : ∀ vs, (result vs).mapError Error.kind =
      (collect (fun _ => alone ruleSet ad items) 0 (vs.map .json)).map (listDocument key) := by
    intro vs
    have hbuilt := build_list haddressed hrule hdefault hlist hitems vs
    show (run d.root ruleSet _).mapError Error.kind = _
    rw [hroot, run_eq_build haddressed, hbuilt]
    cases collect (fun _ => alone ruleSet ad items) 0 (vs.map .json) <;> rfl
  have happend := hresult (xs ++ ys)
  rw [List.map_append, collect_append] at happend
  exact results_append happend (hresult xs) (hresult ys)

/-- Rows with lists of tags, where rules, defaults and dropped elements apply at both levels. -/
theorem run_append_nested :
    let schema : Value := objectFragment [("rows", listFragment (objectFragment
      [("id", extended [ruleEntry "main" "@.code"] (scalarFragment "integer")),
        ("tags", listFragment (extended [ruleEntry "main" "@.name"] (scalarFragment "string")))]))]
    let row (code : Value) (names : List String) : Value := .object [("code", code),
      ("tags", .array (names.map fun name => .object [("name", .string name)]))]
    let xs : List Value := [row (.string "7") ["a", "b"], .object []]
    let ys : List Value := [row .null ["c"]]
    ∃ d, Descriptor.read schema = .ok d ∧
      run d.root "main" (.json (listDocument "rows" (xs ++ ys))) = .ok (listDocument "rows"
        [.object [("id", .number (.integer 7)), ("tags", .array [.string "a", .string "b"])],
          .object [("tags", .array [.string "c"])]]) := by
  intro schema row xs ys
  obtain ⟨rd, ad, items, hd, hrule, hdefault, hlist, hname⟩ : ∃ rd ad items,
      Descriptor.read schema = .ok ⟨.object rd [.array ad items], schema⟩ ∧ rd.rules = [] ∧
        rd.default = none ∧ ad.rules = [] ∧ ad.name = some "rows" :=
    ⟨_, _, _, rfl, rfl, rfl, rfl, rfl⟩
  have hkey : (Instance.array ad items).key = "rows" := by
    rw [Instance.key, Instance.declared, hname, Option.getD_some]
  have hroot : (Instance.object rd [.array ad items]).rule? "main" = none := by
    rw [Instance.rule?, Instance.declared, hrule, List.lookup_nil]
  have harray : (Instance.array ad items).rule? "main" = none := by
    rw [Instance.rule?, Instance.declared, hlist, List.lookup_nil]
  have hcurrent : ∀ e ∈ (Schema.entries schema).entries, 2 ≤ e.depth → e.UsesCurrent "main" := by
    decide +kernel
  have happend := run_append schema hd "main" rfl hroot hdefault harray hcurrent xs ys
  rw [hkey] at happend
  have hresult : ∀ vs w, ((Descriptor.read schema).toOption.bind fun d =>
      (run d.root "main" (.json (listDocument "rows" vs))).toOption) = some w →
      run (.object rd [.array ad items]) "main" (.json (listDocument "rows" vs)) = .ok w := by
    intro vs w h
    rw [hd, Except.toOption, Option.bind_some] at h
    exact toOption_eq_some_iff.mp h
  have hxs := hresult xs (listDocument "rows" [.object [("id", .number (.integer 7)),
    ("tags", .array [.string "a", .string "b"])]]) (by decide +kernel)
  have hys := hresult ys (listDocument "rows" [.object [("tags", .array [.string "c"])]])
    (by decide +kernel)
  refine ⟨_, hd, ?_⟩
  cases hboth : run (.object rd [.array ad items]) "main" (.json (listDocument "rows" (xs ++ ys))) with
  | error e =>
      rcases happend.1.mp ⟨e, hboth⟩ with ⟨e, he⟩ | ⟨e, he⟩
      · cases he.symm.trans hxs
      · cases he.symm.trans hys
  | ok v =>
      obtain ⟨as, bs, has, hbs, rfl⟩ := happend.2 v hboth
      cases has.symm.trans hxs
      cases hbs.symm.trans hys
      rfl

end Transform

end Recast
