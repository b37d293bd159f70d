import Recast.Proofs.Json.Replaced
import Recast.Proofs.Schema.Alike

/-!
# Schemas that differ in one source

Where two schemas differ in the text of one source, the instances that they describe are alike, if
the two texts spell one path that the lists around the instance cannot tell apart.
-/

namespace Recast.Schema

open Json (Fields KeepsRelated Location Replaced Step Value decode_related)
open Recast.Path (Denotes IsTrailStep Selector written)

variable {old new name path parent key : String} {trail rest : List Selector} {k : Nat}
variable {fields fields' : Fields} {v w : Value} {fromStep pathStep : Step} {kind : Kind}

/-! ## Places of sources -/

/-- The steps through a schema to the fragment of the instance at a trail. -/
def schemaSteps : List Selector → Location
  | [] => []
  | .child name :: trail => .key "properties" :: .key name :: schemaSteps trail
  | .wildcard :: trail => .key "items" :: schemaSteps trail
  | _ :: trail => schemaSteps trail

/-- The second schema has the text `new` where the first one has `old`, as the path of one source of
one rule of the instance at the trail, and is otherwise the same. Rules and sources are written as
objects or as lists. -/
structure DiffersInSource (trail : List Selector) (old new : String) (schema schema' : Value) :
    Prop where
  isTrailStep : ∀ s ∈ trail, IsTrailStep s
  replaced : ∃ ruleSet fromStep k pathStep,
    RuleDeclaration.shape.memberAt? fromStep = some "from" ∧
      SourceDeclaration.shape.memberAt? pathStep = some "jsonPath" ∧
      Replaced old new
        (schemaSteps trail ++ [.key "transform", .key ruleSet, fromStep, .index k, pathStep])
        schema schema'

/-- The path that a source of the instance at the trail is read as. -/
def sourceText (trail : List Selector) (source : String) : String :=
  expand source (enclosing (written trail) (written trail.dropLast))

theorem denotes_sourceText {source : String} {q : Path} (ht : ∀ s ∈ trail, IsTrailStep s)
    (h : Path.parse (sourceText trail source) = .ok q) :
    Denotes (sourceText trail source) q.selectors := by
  have hsteps : ∀ s ∈ trail, s.IsStep := fun s hs => (ht s hs).isStep
  unfold sourceText at h ⊢
  rcases enclosing_written trail trail.dropLast with he | he <;> rw [he] at h ⊢
  · obtain ⟨htight, hhead⟩ := expand_shape source hsteps
    exact denotes_of_parse htight hhead h
  · obtain ⟨htight, hhead⟩ :=
      expand_shape source fun s hs => hsteps s (List.dropLast_subset trail hs)
    exact denotes_of_parse htight hhead h

/-! ## Rules -/

structure SourceDeclaration.Alike (old new : String) (d d' : SourceDeclaration) : Prop where
  path : Option.Rel (fun source source' => source = source' ∨ source = old ∧ source' = new)
    d.path d'.path
  nodePath_eq : d.nodePath = d'.nodePath
  operations_eq : d.operations = d'.operations

structure RuleDeclaration.Alike (old new : String) (d d' : RuleDeclaration) : Prop where
  sources : Option.Rel (List.Forall₂ (SourceDeclaration.Alike old new)) d.sources d'.sources
  method_eq : d.method = d'.method
  delimiter_eq : d.delimiter = d'.delimiter

theorem SourceDeclaration.Alike.refl (d : SourceDeclaration) : d.Alike old new d :=
  ⟨optionRel_refl fun _ => Or.inl rfl, rfl, rfl⟩

theorem SourceDeclaration.keepsRelated :
    KeepsRelated SourceDeclaration.readMember (SourceDeclaration.Alike old new) old new
      "jsonPath" [] := by
  refine ⟨fun d d' b b' name v h hb hb' => ?_, fun d d' b b' v v' h hr hb hb' => ?_⟩
  · unfold readMember at hb hb'
    split at hb
    · obtain ⟨source, hs, hb⟩ := bind_eq_ok hb
      obtain ⟨source', hs', hb'⟩ := bind_eq_ok hb'
      cases hb
      cases hb'
      cases hs.symm.trans hs'
      exact ⟨optionRel_refl fun _ => Or.inl rfl, h.nodePath_eq, h.operations_eq⟩
    · obtain ⟨source, hs, hb⟩ := bind_eq_ok hb
      obtain ⟨source', hs', hb'⟩ := bind_eq_ok hb'
      cases hb
      cases hb'
      cases hs.symm.trans hs'
      exact ⟨h.path, rfl, h.operations_eq⟩
    · rename_i hpath hnode
      split at hb'
      · exact absurd rfl hpath
      · exact absurd rfl hnode
      · obtain ⟨operations, ho, hb⟩ := bind_eq_ok hb
        obtain ⟨operations', ho', hb'⟩ := bind_eq_ok hb'
        cases hb
        cases hb'
        cases ho.symm.trans ho'
        exact ⟨h.path, h.nodePath_eq, rfl⟩
  · cases hr
    cases hb
    cases hb'
    exact ⟨.some (Or.inr ⟨rfl, rfl⟩), h.nodePath_eq, h.operations_eq⟩

theorem RuleDeclaration.keepsRelated
    (hpath : SourceDeclaration.shape.memberAt? pathStep = some "jsonPath") :
    KeepsRelated RuleDeclaration.readMember (RuleDeclaration.Alike old new) old new "from"
      [.index k, pathStep] := by
  refine ⟨fun d d' b b' name v h hb hb' => ?_, fun d d' b b' v v' h hr hb hb' => ?_⟩
  · unfold readMember at hb hb'
    split at hb
    · obtain ⟨sources, hs, hb⟩ := bind_eq_ok hb
      obtain ⟨sources', hs', hb'⟩ := bind_eq_ok hb'
      cases hb
      cases hb'
      cases hs.symm.trans hs'
      exact ⟨.some (List.forall₂_same.mpr fun d _ => .refl d), h.method_eq, h.delimiter_eq⟩
    · obtain ⟨method, hm, hb⟩ := bind_eq_ok hb
      obtain ⟨method', hm', hb'⟩ := bind_eq_ok hb'
      cases hb
      cases hb'
      cases hm.symm.trans hm'
      exact ⟨h.sources, rfl, h.delimiter_eq⟩
    · rename_i hfrom hmethod
      split at hb'
      · exact absurd rfl hfrom
      · exact absurd rfl hmethod
      · obtain ⟨delimiter, hd, hb⟩ := bind_eq_ok hb
        obtain ⟨delimiter', hd', hb'⟩ := bind_eq_ok hb'
        cases hb
        cases hb'
        cases hd.symm.trans hd'
        exact ⟨h.sources, h.method_eq, rfl⟩
  · cases hr with
    | @element _ _ items v v' hget hr =>
        obtain ⟨sources, hs, hb⟩ := bind_eq_ok hb
        obtain ⟨sources', hs', hb'⟩ := bind_eq_ok hb'
        cases hb
        cases hb'
        have hitems : List.Forall₂ (fun u u' => u = u' ∨ Replaced old new [pathStep] u u')
            items (items.set k v') :=
          Json.forall₂_set (fun _ => Or.inl rfl) hget (Or.inr hr)
        refine ⟨.some (forall₂_of_mapM (fun u u' c c' hu hc hc' => ?_) hitems hs hs'),
          h.method_eq, h.delimiter_eq⟩
        rcases hu with rfl | hu
        · cases hc.symm.trans hc'
          exact .refl c
        · exact decode_related SourceDeclaration.keepsRelated hpath hu (.refl _) hc hc'

theorem mapM_buildPath {enclosing source : String} {o : Option String}
    (h : (some source).mapM (buildPath enclosing) = .ok o) : o = some (expand source enclosing) := by
  obtain ⟨path, rfl, hpath⟩ := mapM_some_eq_ok h
  rw [(buildPath_eq_ok hpath).1]

theorem Source.build_alike {enclosing : String} {d d' : SourceDeclaration} {s s' : Source}
    (hspelled : Respelled trail (expand old enclosing) (expand new enclosing))
    (hd : d.Alike old new d') (h : Source.build enclosing d = .ok s)
    (h' : Source.build enclosing d' = .ok s') : s.Alike trail s' := by
  obtain ⟨hp, hn, ho⟩ := Source.build_eq_ok h
  obtain ⟨hp', hn', ho'⟩ := Source.build_eq_ok h'
  rw [← hd.nodePath_eq] at hn'
  rw [← hd.operations_eq] at ho'
  refine ⟨?_, Except.ok.inj (hn.symm.trans hn'), Except.ok.inj (ho.symm.trans ho')⟩
  have hpath := hd.path
  generalize d.path = source at hpath hp
  generalize d'.path = source' at hpath hp'
  cases hpath with
  | none =>
      rw [Except.ok.inj (hp.symm.trans hp')]
      exact optionRel_refl fun _ => Or.inl rfl
  | some hsource =>
      rcases hsource with rfl | ⟨rfl, rfl⟩
      · rw [Except.ok.inj (hp.symm.trans hp')]
        exact optionRel_refl fun _ => Or.inl rfl
      · rw [mapM_buildPath hp, mapM_buildPath hp']
        exact .some (Or.inr hspelled)

theorem Rule.build_alike {enclosing : String} {block block' : Value} {rule rule' : Rule}
    (hspelled : Respelled trail (expand old enclosing) (expand new enclosing))
    (hfrom : RuleDeclaration.shape.memberAt? fromStep = some "from")
    (hpath : SourceDeclaration.shape.memberAt? pathStep = some "jsonPath")
    (hr : Replaced old new [fromStep, .index k, pathStep] block block')
    (h : Rule.build enclosing kind block = .ok rule)
    (h' : Rule.build enclosing kind block' = .ok rule') : rule.Alike trail rule' := by
  obtain ⟨d, sources, hd, hs, hbuilt, hmethod, hdelimiter⟩ := Rule.build_eq_ok h
  obtain ⟨d', sources', hd', hs', hbuilt', hmethod', hdelimiter'⟩ := Rule.build_eq_ok h'
  have hdecl : d.Alike old new d' :=
    decode_related (RuleDeclaration.keepsRelated hpath) hfrom hr ⟨.none, rfl, rfl⟩ hd hd'
  have hsources := hdecl.sources
  rw [hs, hs'] at hsources
  cases hsources with
  | some hsources =>
      refine ⟨?_, ?_, ?_⟩
      · refine forall₂_of_mapM (fun d d' s s' hd hs hs' => ?_) hsources hbuilt hbuilt'
        exact Source.build_alike hspelled hd hs hs'
      · rw [hmethod, hmethod', hdecl.method_eq]
      · rw [hdelimiter, hdelimiter', hdecl.delimiter_eq]

/-! ## What an instance declares -/

theorem readRules_alike {ruleSet : String} {rules rules' : List (String × Rule)}
    (hspelled : Respelled trail (expand old (enclosing path parent))
      (expand new (enclosing path parent)))
    (hfrom : RuleDeclaration.shape.memberAt? fromStep = some "from")
    (hpath : SourceDeclaration.shape.memberAt? pathStep = some "jsonPath")
    (hget : Fields.get? "transform" fields = some v) (hget' : Fields.get? "transform" fields' = some w)
    (hr : Replaced old new [.key ruleSet, fromStep, .index k, pathStep] v w)
    (h : readRules path parent kind fields = .ok rules)
    (h' : readRules path parent kind fields' = .ok rules') :
    List.Forall₂ (fun rule rule' => rule.1 = rule'.1 ∧ rule.2.Alike trail rule'.2) rules rules' := by
  cases hr with
  | @member _ _ blocks block block' hblock hr =>
      have hblocks : List.Forall₂ (fun m m' => m.1 = m'.1 ∧
          (m.2 = m'.2 ∨ Replaced old new [fromStep, .index k, pathStep] m.2 m'.2))
          blocks (Fields.put ruleSet block' blocks) :=
        Json.forall₂_put (fun m => ⟨rfl, Or.inl rfl⟩) hblock ⟨rfl, Or.inr hr⟩
      unfold readRules at h h'
      rw [hget] at h
      rw [hget'] at h'
      refine forall₂_of_mapM (fun m m' rule rule' hm hrule hrule' => ?_) hblocks h h'
      obtain ⟨name, block⟩ := m
      obtain ⟨name', block'⟩ := m'
      obtain ⟨rfl, hm⟩ := hm
      dsimp only at hm hrule hrule'
      split at hrule
      · rename_i r hbuild
        split at hrule'
        · rename_i r' hbuild'
          cases hrule
          cases hrule'
          rcases hm with rfl | hm
          · cases hbuild.symm.trans hbuild'
            exact ⟨rfl, .refl r⟩
          · exact ⟨rfl, Rule.build_alike hspelled hfrom hpath hm hbuild hbuild'⟩
        · cases hrule'
      · cases hrule

/-! ## Fragments -/

/-- Another member of a fragment says what its kind is, and what it declares. -/
structure PartName (key : String) : Prop where
  ne_type : "type" ≠ key
  ne_format : "format" ≠ key
  ne_required : "required" ≠ key
  ne_default : "default" ≠ key

theorem readKind_put (hkey : PartName key) (hget : Fields.get? key fields = some v) (path : String)
    (w : Value) : readKind path (Fields.put key w fields) = readKind path fields := by
  unfold readKind typeName?
  rw [Fields.get?_put_of_ne hkey.ne_type, Fields.get?_put_of_ne hkey.ne_format,
    Fields.has_put hget, Fields.has_put hget]

theorem readRules_put (hkey : "transform" ≠ key) (path parent : String) (kind : Kind) (w : Value) :
    readRules path parent kind (Fields.put key w fields) = readRules path parent kind fields := by
  unfold readRules
  rw [Fields.get?_put_of_ne hkey]

theorem Declared.read_alike {name : Option String} {d d' : Declared} {kind kind' : Kind}
    (hkey : PartName key) (hget : Fields.get? key fields = some v)
    (hrules : ∀ kind rules rules', readRules path parent kind fields = .ok rules →
      readRules path parent kind (Fields.put key w fields) = .ok rules' →
      List.Forall₂ (fun rule rule' => rule.1 = rule'.1 ∧ rule.2.Alike trail rule'.2) rules rules')
    (h : Declared.read path parent name fields = .ok (d, kind))
    (h' : Declared.read path parent name (Fields.put key w fields) = .ok (d', kind')) :
    kind = kind' ∧ d.Alike trail d' := by
  unfold Declared.read at h h'
  rw [readKind_put hkey hget] at h'
  obtain ⟨k, hk, h⟩ := bind_eq_ok h
  obtain ⟨k', hk', h'⟩ := bind_eq_ok h'
  cases hk.symm.trans hk'
  obtain ⟨rules, hr, h⟩ := bind_eq_ok h
  obtain ⟨rules', hr', h'⟩ := bind_eq_ok h'
  cases h
  cases h'
  refine ⟨rfl, rfl, rfl, ?_, hrules _ rules rules' hr hr'⟩
  unfold readDefault
  rw [Fields.get?_put_of_ne hkey.ne_default]

theorem Declared.read_alike_of_part {name : Option String} {d d' : Declared} {kind kind' : Kind}
    (hkey : PartName key) (hrules : "transform" ≠ key) (hget : Fields.get? key fields = some v)
    (h : Declared.read path parent name fields = .ok (d, kind))
    (h' : Declared.read path parent name (Fields.put key w fields) = .ok (d', kind')) :
    kind = kind' ∧ d.Alike trail d' := by
  refine Declared.read_alike hkey hget (fun kind rules rules' hr hr' => ?_) h h'
  rw [readRules_put hrules] at hr'
  cases hr.symm.trans hr'
  exact List.forall₂_same.mpr fun rule _ => ⟨rfl, .refl rule.2⟩

namespace Instance

theorem read_alike_of_parts {name : Option String} {i i' : Instance}
    (hd : ∀ d d' kind kind', Declared.read path parent name fields = .ok (d, kind) →
      Declared.read path parent name fields' = .ok (d', kind') → kind = kind' ∧ d.Alike trail d')
    (hps : ∀ ps ps', readProperties path fields = .ok ps → readProperties path fields' = .ok ps' →
      AlikeEach trail ps ps')
    (hitems : ∀ items items', readItems path fields = .ok items →
      readItems path fields' = .ok items' → Instance.Alike (trail ++ [.wildcard]) items items')
    (h : read path parent name (.object fields) = .ok i)
    (h' : read path parent name (.object fields') = .ok i') : Instance.Alike trail i i' := by
  unfold read at h h'
  obtain ⟨⟨d, kind⟩, hr, h⟩ := bind_eq_ok h
  obtain ⟨⟨d', kind'⟩, hr', h'⟩ := bind_eq_ok h'
  obtain ⟨rfl, hd⟩ := hd d d' kind kind' hr hr'
  cases kind with
  | scalar k =>
      cases h
      cases h'
      exact .scalar hd
  | object =>
      obtain ⟨ps, hp, h⟩ := bind_eq_ok h
      obtain ⟨ps', hp', h'⟩ := bind_eq_ok h'
      cases h
      cases h'
      exact .object hd (hps ps ps' hp hp')
  | array =>
      obtain ⟨items, hi, h⟩ := bind_eq_ok h
      obtain ⟨items', hi', h'⟩ := bind_eq_ok h'
      cases h
      cases h'
      exact .array hd (hitems items items' hi hi')

theorem AlikeEach.refl (ps : List Instance) : AlikeEach trail ps ps :=
  .of_forall fun i _ => .refl i _

/-- A member that is not `properties` does not count for the properties. -/
theorem readProperties_alike_of_part {ps ps' : List Instance} (hkey : "properties" ≠ key)
    (h : readProperties path fields = .ok ps)
    (h' : readProperties path (Fields.put key w fields) = .ok ps') : AlikeEach trail ps ps' := by
  rw [readProperties_eq, Fields.get?_put_of_ne hkey, ← readProperties_eq] at h'
  cases h.symm.trans h'
  exact .refl ps

/-- A member that is not `items` does not count for the items. -/
theorem readItems_alike_of_part {items items' : Instance} (hkey : "items" ≠ key)
    (h : readItems path fields = .ok items)
    (h' : readItems path (Fields.put key w fields) = .ok items') : Instance.Alike trail items items' := by
  rw [readItems_eq, Fields.get?_put_of_ne hkey, ← readItems_eq] at h'
  cases h.symm.trans h'
  exact .refl items _

theorem readEach_alike {properties : Fields} {ps ps' : List Instance}
    (hget : Fields.get? name properties = some v)
    (hrel : ∀ i i', read (Path.childPath path name) path (some name) v = .ok i →
      read (Path.childPath path name) path (some name) w = .ok i' →
      Instance.Alike (trail ++ [.child name]) i i')
    (h : readEach path properties = .ok ps)
    (h' : readEach path (Fields.put name w properties) = .ok ps') : AlikeEach trail ps ps' := by
  induction properties generalizing ps ps' with
  | nil => cases hget
  | cons property properties ih =>
      obtain ⟨key, u⟩ := property
      unfold readEach at h
      obtain ⟨i, hi, h⟩ := bind_eq_ok h
      obtain ⟨others, ho, h⟩ := bind_eq_ok h
      cases h
      by_cases hkey : key = name
      · subst hkey
        obtain rfl : u = v := by simpa [Fields.get?] using hget
        simp only [Fields.put, BEq.rfl, ↓reduceIte] at h'
        unfold readEach at h'
        obtain ⟨i', hi', h'⟩ := bind_eq_ok h'
        obtain ⟨others', ho', h'⟩ := bind_eq_ok h'
        cases h'
        cases ho.symm.trans ho'
        have hname := (describes_of_read u hi).key_eq
        exact .cons (hname ▸ hrel i i' hi hi') (.refl _)
      · have hrest : Fields.get? name properties = some v := by simpa [Fields.get?, hkey] using hget
        simp only [Fields.put, beq_iff_eq, hkey, ↓reduceIte] at h'
        unfold readEach at h'
        obtain ⟨i', hi', h'⟩ := bind_eq_ok h'
        obtain ⟨others', ho', h'⟩ := bind_eq_ok h'
        cases h'
        cases hi.symm.trans hi'
        exact .cons (.refl i _) (ih hrest ho ho')

/-- Where schemas differ in one source, the instances along the way to it are alike. -/
theorem read_alike {ruleSet : String}
    (hfrom : RuleDeclaration.shape.memberAt? fromStep = some "from")
    (hpath : SourceDeclaration.shape.memberAt? pathStep = some "jsonPath")
    (hrest : ∀ s ∈ rest, IsTrailStep s) (ht : ∀ s ∈ trail, IsTrailStep s)
    (hspelled : Respelled (trail ++ rest) (sourceText (trail ++ rest) old)
      (sourceText (trail ++ rest) new))
    (hr : Replaced old new
      (schemaSteps rest ++ [.key "transform", .key ruleSet, fromStep, .index k, pathStep]) v w)
    (hparent : parent = written trail.dropLast) {name : Option String} {i i' : Instance}
    (h : read (written trail) parent name v = .ok i)
    (h' : read (written trail) parent name w = .ok i') : Instance.Alike trail i i' := by
  induction rest generalizing trail v w parent name i i' with
  | nil =>
      rw [List.append_nil] at hspelled
      subst hparent
      cases hr with
      | @member _ _ fields block block' hget hr =>
          refine read_alike_of_parts (fun d d' kind kind' hd hd' => ?_)
            (fun ps ps' => readProperties_alike_of_part (by decide))
            (fun items items' => readItems_alike_of_part (by decide)) h h'
          refine Declared.read_alike ⟨by decide, by decide, by decide, by decide⟩ hget ?_ hd hd'
          exact fun kind rules rules' => readRules_alike hspelled hfrom hpath hget
            Fields.get?_put_self hr
  | cons sel rest ih =>
      have hsel := hrest sel (by simp)
      have hrest' : ∀ s ∈ rest, IsTrailStep s := fun s hs => hrest s (by simp [hs])
      have ht' := isTrailStep_append ht sel hsel
      have hsteps : ∀ s ∈ trail, s.IsStep := fun s hs => (ht s hs).isStep
      have hparent' : written trail = written (trail ++ [sel]).dropLast := by
        rw [List.dropLast_concat]
      have hspelled' : Respelled ((trail ++ [sel]) ++ rest) (sourceText ((trail ++ [sel]) ++ rest) old)
          (sourceText ((trail ++ [sel]) ++ rest) new) := by
        rwa [List.append_assoc, List.singleton_append]
      cases sel with
      | child key =>
          cases hr with
          | @member _ _ fields _ _ hget hr =>
              cases hr with
              | @member _ _ properties u u' hget' hr =>
                  refine read_alike_of_parts
                    (fun d d' kind kind' => Declared.read_alike_of_part
                      ⟨by decide, by decide, by decide, by decide⟩ (by decide) hget)
                    (fun ps ps' hp hp' => ?_)
                    (fun items items' => readItems_alike_of_part (by decide)) h h'
                  rw [readProperties_eq, hget] at hp
                  rw [readProperties_eq, Fields.get?_put_self] at hp'
                  refine readEach_alike hget' (fun i i' hi hi' => ?_) hp hp'
                  rw [Path.childPath_written hsteps] at hi hi'
                  exact ih hrest' ht' hspelled' hr hparent' hi hi'
      | wildcard =>
          cases hr with
          | @member _ _ fields u u' hget hr =>
              refine read_alike_of_parts
                (fun d d' kind kind' => Declared.read_alike_of_part
                  ⟨by decide, by decide, by decide, by decide⟩ (by decide) hget)
                (fun ps ps' => readProperties_alike_of_part (by decide))
                (fun items items' hi hi' => ?_) h h'
              obtain ⟨v, hv, hi⟩ := readItems_eq_ok hi
              obtain ⟨v', hv', hi'⟩ := readItems_eq_ok hi'
              cases hget.symm.trans hv
              cases (Fields.get?_put_self (v := u')).symm.trans hv'
              rw [Path.itemPath_written hsteps] at hi hi'
              exact ih hrest' ht' hspelled' hr hparent' hi hi'
      | _ => cases hsel

end Instance

/-- Descriptors of schemas that differ in one source have roots that are alike. -/
theorem Descriptor.root_alike {schema schema' : Value} {d d' : Descriptor}
    (hread : Descriptor.read schema = .ok d) (hread' : Descriptor.read schema' = .ok d')
    (hdiffers : DiffersInSource trail old new schema schema')
    (hspelled : Respelled trail (sourceText trail old) (sourceText trail new)) :
    Instance.Alike [] d.root d'.root := by
  obtain ⟨ruleSet, fromStep, k, pathStep, hfrom, hpath, hr⟩ := hdiffers.replaced
  have h := read_root hread
  have h' := read_root hread'
  rw [Path.rootPath_written] at h h'
  rw [← List.nil_append trail] at hspelled
  exact Instance.read_alike hfrom hpath hdiffers.isTrailStep (by simp) hspelled hr rfl h h'

end Recast.Schema
