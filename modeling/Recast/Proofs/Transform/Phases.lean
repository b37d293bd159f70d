import Recast.Proofs.Transform.Bare
import Recast.Proofs.Transform.Walked
import Recast.Transform.Transformer

/-!
# Phases of errors

A schema fails when the transformer is made. Afterwards every path that is read can be read, and
every path that is written is concrete, so that a transform fails on its input, on operations, on
places of the output that are blocked, and on the validation of the output. Over markup it breaks off
where a source counts to the last index of all.
-/

namespace Recast

open Input (Document LookupFault)
open Json (Value)
open Recast.Path
open Schema (Descriptor Instance extended objectFragment ruleEntry scalarFragment)

variable {p : Place} {outer : List Selector} {indices : List Nat} {names : List String}
variable {i : Instance} {ruleSet : String} {t : Transformer}

namespace Transform

/-! ## Paths of a run -/

/-- Every path that belongs to the instance can be read at the place: it and its elements are
written at concrete paths, and both its own path and those of the sources of its rule are looked up,
unless a source counts too far in markup. -/
structure Legible (p : Place) (i : Instance) : Prop where
  output : ∃ segments, Tree.segments (p.concrete i.path) = .ok segments
  elements : ∀ k, k < indexLimit →
    ∃ segments, Tree.segments (elementPath (p.concrete i.path) k) = .ok segments
  copied : ∃ found, p.input.lookup (p.concrete i.path) = .ok found
  sources : ∀ rule, i.rule? p.ruleSet = some rule → ∀ s ∈ rule.sources, ∀ path ∈ s.path,
    (∃ q, Path.parse (p.concrete path) = .ok q) ∧
      ∀ fault : LookupFault, p.input.lookup (p.concrete path) = .error fault →
        fault = .overflow ∧ p.HasMarkup ∧ i.CountsTooFar p.ruleSet

theorem legible (hp : p.Within outer indices) (hi : i.declared.At (outer ++ members names)) :
    Legible p i := by
  refine ⟨⟨_, hp.segments_eq hi⟩, fun k hk => ⟨_, hp.segments_element hi hk⟩, ?_,
    fun rule hr s hs path hpath => ?_⟩
  · rw [Instance.path, hi.path_eq, hp.concrete_written]
    exact ⟨_, hp.lookup_written names⟩
  · obtain ⟨sels, hsels⟩ := hi.readable_of_rule hr s hs path hpath
    obtain ⟨more, hmore⟩ := hp.concrete_denotes hsels
    exact ⟨⟨_, hmore.parse_eq⟩, fun fault => hp.lookup_source_eq_error hi hr hs hpath⟩

/-! ## Errors of a visit -/

theorem writeAt_fails {path : String} {segments : Json.Location}
    (h : Tree.segments path = .ok segments) (value : Option Value) (tree : Value) :
    FailsOnly (fun e => e.kind = .tree) (writeAt path value tree) := by
  cases value with
  | none => exact .ok tree
  | some v =>
      unfold writeAt Tree.write
      simp only [h]
      rcases Tree.place v 0 segments tree with ⟨tree', _ | problem⟩
      · exact .ok tree'
      · exact .error rfl

/-- A visit fails on an operation, or at a place that is blocked, or it breaks off. -/
theorem FailsAt.cases {e : Error} (h : FailsAt p i e) (hp : p.Within outer indices)
    (hi : i.declared.At (outer ++ members names)) :
    e.kind = .operation ∨ e.kind = .tree ∨
      e = .overflow ∧ p.HasMarkup ∧ i.CountsTooFar p.ruleSet := by
  cases h with
  | resolve h => exact (resolve_eq_error hp hi e h).imp_right Or.inr
  | write h => exact Or.inr (Or.inl (writeAt_fails (hp.segments_eq hi) _ _ e h))
  | take h => cases (takeAt_eq (hp.segments_eq hi) _).symm.trans h

end Transform

/-! ## Errors of transformers -/

namespace Transformer

/-- An object has a rule of the rule set or a default. -/
def FillsObjects (t : Transformer) : Prop :=
  ∃ i ∈ t.descriptor.instances,
    i.kind = .object ∧ ((i.rule? t.ruleSet).isSome ∨ i.declared.default.isSome)

/-- A source of a rule of the rule set counts to the last index of all. -/
def CountsTooFar (t : Transformer) : Prop :=
  ∃ i ∈ t.descriptor.instances, i.CountsTooFar t.ruleSet

/-- The errors of the transform of a document. No keys of a JSON value are the same, and then only
objects with values of their own can block a place. A transform breaks off only over markup, where a
source counts too far, or where its gate does not come to an end. -/
inductive MayFail (t : Transformer) (document : Document) (e : Error) : Prop where
  | operation (h : e.kind = .operation)
  | validation (h : e.kind = .validation)
  | tree (h : e.kind = .tree) (hfills : t.descriptor.schema.hasDistinctKeys = true → t.FillsObjects)
  | overflow (h : e = .overflow) (hmarkup : ∃ root, document = .markup root)
      (hcounts : t.CountsTooFar)
  | endless (h : e = .endless) {output : Value}
      (hrun : Transform.run t.descriptor.root t.ruleSet document = .ok output)
      (hgate : t.gate.judge output = .endless)

/-- The errors of the transform of raw input. -/
inductive MayFailOn (t : Transformer) (raw : List UInt8) (e : Error) : Prop where
  | input (h : e.kind = .input)
  | document {document : Document}
      (hread : Document.parse (t.format.getD (Input.Format.detect raw)) raw = .ok document)
      (h : t.MayFail document e)

theorem bareObjects_of_not_fillsObjects (h : ¬ t.FillsObjects) :
    t.descriptor.root.BareObjects t.ruleSet := by
  intro i hi hk
  refine ⟨?_, ?_⟩
  · cases hr : i.rule? t.ruleSet with
    | none => rfl
    | some rule => exact absurd ⟨i, hi, hk, Or.inl (by simp [hr])⟩ h
  · cases hd : i.declared.default with
    | none => rfl
    | some v => exact absurd ⟨i, hi, hk, Or.inr (by simp [hd])⟩ h

theorem run_mayFail (hread : Descriptor.read t.descriptor.schema = .ok t.descriptor)
    (document : Document) :
    FailsOnly (t.MayFail document) (Transform.run t.descriptor.root t.ruleSet document) := by
  have hroot := Descriptor.root_addressed hread
  intro e he
  obtain ⟨i, p, indices, hv, hfails⟩ := Transform.run_fails hroot e he
  obtain ⟨outer, names, hp, hi⟩ := hv.within hroot
  rcases hfails.cases hp hi.at with h | h | ⟨rfl, hmarkup, hcounts⟩
  · exact .operation h
  · refine .tree h fun hkeys => Classical.byContradiction fun hfills => ?_
    -- Where no object has a value of its own, no slot is closed.
    have hroot' : t.descriptor.root.Addressed ([] ++ members []) := hroot
    have hbare := (Transform.build_bare (.outside t.ruleSet document) hroot'
      (bareObjects_of_not_fillsObjects hfills) (Descriptor.root_distinctNames hkeys hread)).1
    have hbuild := Transform.run_eq_build hroot t.ruleSet document
    rw [he] at hbuild
    exact hbare _ (map_eq_error hbuild.symm) h
  · rw [hv.ruleSet_eq] at hcounts
    refine .overflow rfl ?_ ⟨i, hv.mem_all, hcounts⟩
    cases document with
    | json v => exact absurd hmarkup hv.not_hasMarkup
    | markup root => exact ⟨root, rfl⟩

theorem transformDocument_mayFail
    (hread : Descriptor.read t.descriptor.schema = .ok t.descriptor) (document : Document) :
    FailsOnly (t.MayFail document) (t.transformDocument document) := by
  refine (run_mayFail hread document).bind fun output hrun => ?_
  cases hgate : t.gate.judge output with
  | accepted => exact .ok output
  | refused => exact .error (.validation rfl)
  | violated violations => exact .error (.validation rfl)
  | endless => exact .error (.endless rfl hrun hgate)

theorem transformRaw_mayFail (hread : Descriptor.read t.descriptor.schema = .ok t.descriptor)
    (raw : List UInt8) : FailsOnly (t.MayFailOn raw) (t.transformRaw raw) := by
  have hparse : FailsOnly (t.MayFailOn raw) (parse (t.format.getD (Input.Format.detect raw)) raw) := by
    unfold parse
    split
    · exact .ok _
    · exact .error (.input rfl)
  refine hparse.bind fun document hdocument => ?_
  have hdocument : Document.parse (t.format.getD (Input.Format.detect raw)) raw = .ok document := by
    unfold parse at hdocument
    split at hdocument <;> cases hdocument
    assumption
  exact (transformDocument_mayFail hread document).mono fun e he => .document hdocument he

theorem ofSchema_ok {schema : Value} (h : ofSchema schema ruleSet = .ok t) :
    Descriptor.read schema = .ok t.descriptor ∧ t.descriptor.schema = schema ∧
      t.ruleSet = ruleSet := by
  unfold ofSchema at h
  split at h
  · rename_i d hd
    unfold ofDescriptor at h
    split at h
    · cases h
      obtain ⟨root, _, hd'⟩ := bind_eq_ok hd
      cases hd'
      exact ⟨hd, rfl, rfl⟩
    · cases h
  · cases h

theorem ofSchema_fails (schema : Value) (ruleSet : String) :
    FailsOnly (fun e => e.kind = .schema) (ofSchema schema ruleSet) := by
  unfold ofSchema
  split
  · unfold ofDescriptor
    split
    · exact .ok _
    · exact .error rfl
  · exact .error rfl

/-- Making a transformer fails with an error of the schema. Once it is made, whatever its format and
gate, its transforms fail with other errors, and every path of a run can be read. Only a gate without
end, and over markup a source that counts too far, breaks them off. -/
theorem errors_by_phase (schema : Value) (ruleSet : String) :
    FailsOnly (fun e => e.kind = .schema) (ofSchema schema ruleSet) ∧
      ∀ t, ofSchema schema ruleSet = .ok t → ∀ (format : Option Input.Format) (gate : Gate),
        let t' : Transformer := { t with format := format, gate := gate }
        (∀ document, FailsOnly (t'.MayFail document) (t'.transformDocument document)) ∧
        (∀ v, FailsOnly (t'.MayFail (.json v)) (t'.transformValue v)) ∧
        (∀ raw, FailsOnly (t'.MayFailOn raw) (t'.transformRaw raw)) ∧
        (∀ raw, FailsOnly (t'.MayFailOn raw) (t'.transform raw)) ∧
        ∀ document i p indices, Transform.Visits t.descriptor.root ruleSet document i p indices →
          Transform.Legible p i := by
  refine ⟨ofSchema_fails schema ruleSet, fun t ht format gate => ?_⟩
  obtain ⟨hread, rfl, rfl⟩ := ofSchema_ok ht
  intro t'
  have hread' : Descriptor.read t'.descriptor.schema = .ok t'.descriptor := hread
  refine ⟨fun document => ?_, fun v => ?_, fun raw => ?_, fun raw => ?_,
    fun document i p indices h => ?_⟩
  · exact transformDocument_mayFail hread' document
  · exact transformDocument_mayFail hread' (.json v)
  · exact transformRaw_mayFail hread' raw
  · exact (transformRaw_mayFail hread' raw).bind fun _ _ => .ok _
  · obtain ⟨outer, names, hp, hi⟩ := h.within (Descriptor.root_addressed hread)
    exact Transform.legible hp hi.at

/-- A property below an object whose default is a text cannot be written. -/
theorem errors_by_phase_blocked :
    let schema : Value := objectFragment
      [("box", extended [("default", .string "empty")]
        (objectFragment [("size", scalarFragment "integer")]))]
    let v : Value := .object [("box", .object [("size", .number (.integer 3))])]
    ∃ t, ofSchema schema "main" = .ok t ∧ (∃ e, t.transformValue v = .error e ∧ e.kind = .tree) ∧
      t.FillsObjects := by
  intro schema v
  have hrun : (ofSchema schema "main" >>= fun t => t.transformValue v).mapError Error.kind =
      .error .tree := by decide +kernel
  obtain ⟨hschema, hphase⟩ := errors_by_phase schema "main"
  obtain ⟨e, hrun, hkind⟩ := mapError_eq_error.mp hrun
  rcases bind_eq_error hrun with he | ⟨t, ht, he⟩
  · cases (hschema e he).symm.trans hkind
  · obtain ⟨_, hs, _⟩ := ofSchema_ok ht
    refine ⟨t, ht, ⟨e, he, hkind⟩, ?_⟩
    cases (hphase t ht t.format t.gate).2.1 v e he with
    | operation h => cases hkind.symm.trans h
    | validation h => cases hkind.symm.trans h
    | tree _ hfills => exact hfills (hs ▸ by decide)
    | overflow h => simp [h, Error.kind] at hkind
    | endless h => simp [h, Error.kind] at hkind

/-- A text that is read from the element at the last index of all. -/
def lastIndexSchema : Value := objectFragment
  [("a", extended [ruleEntry "main" "$.a[18446744073709551615]"] (scalarFragment "string"))]

/-- The schema is accepted, and over JSON its source finds nothing. Over markup it breaks off. -/
theorem transform_last_index :
    ∃ t, ofSchema lastIndexSchema "main" = .ok t ∧
      t.transform "\x7b\x7d".toUTF8.toList = .ok "\x7b\x7d" ∧
      t.transform "<r><a/></r>".toUTF8.toList = .error .overflow := by
  have hjson : (ofSchema lastIndexSchema "main" >>= fun t =>
      t.transform "\x7b\x7d".toUTF8.toList).mapError Error.kind = .ok "\x7b\x7d" := by decide +kernel
  have hmarkup : (ofSchema lastIndexSchema "main" >>= fun t =>
      t.transform "<r><a/></r>".toUTF8.toList).mapError Error.kind = .error .overflow := by
    decide +kernel
  obtain ⟨t, ht, hjson⟩ := bind_eq_ok (mapError_eq_ok.mp hjson)
  obtain ⟨e, hmarkup, hkind⟩ := mapError_eq_error.mp hmarkup
  rw [ht] at hmarkup
  cases e <;> cases hkind
  exact ⟨t, ht, hjson, hmarkup⟩

end Transformer

end Recast
