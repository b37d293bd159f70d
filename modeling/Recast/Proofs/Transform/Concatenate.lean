import Recast.Proofs.Outcome
import Recast.Transform.Resolve

/-!
# Concatenations

A concatenation is the join of the texts of its sources that are not empty. It fails as the first of
its sources does that fails or has a value that is no text.
-/

namespace Recast

/-! ## Joining -/

namespace Schema

variable {parts : List String}

theorem intercalate_ne_empty (delimiter : String) (hne : parts ≠ [])
    (hparts : ∀ part ∈ parts, part ≠ "") : delimiter.intercalate parts ≠ "" := by
  cases parts with
  | nil => contradiction
  | cons part rest =>
      have hpart : part ≠ "" := hparts part (by simp)
      cases rest with
      | nil => simpa using hpart
      | cons next rest => simp [hpart]

/-- The parts that are not empty, with the delimiter between them. -/
def joined (delimiter : String) (parts : List String) : String :=
  delimiter.intercalate (parts.filter (· ≠ ""))

theorem joined_singleton (delimiter part : String) : joined delimiter [part] = part := by
  by_cases hpart : part = ""
  · simp [joined, hpart]
  · simp [joined, hpart]

theorem joined_concat (delimiter : String) (parts : List String) (part : String) :
    joined delimiter (parts ++ [part]) = append delimiter (joined delimiter parts) part := by
  unfold joined append
  rw [List.filter_append]
  by_cases hpart : part = ""
  · subst hpart
    simp
  · have hlast : [part].filter (· ≠ "") = [part] := by simp [hpart]
    rw [hlast]
    by_cases hnone : parts.filter (· ≠ "") = []
    · rw [hnone]
      simp
    · -- What was joined is not empty, so that the delimiter comes before the part.
      have hjoined : delimiter.intercalate (parts.filter (· ≠ "")) ≠ "" :=
        intercalate_ne_empty delimiter hnone fun _ h => by simpa using (List.mem_filter.mp h).2
      rw [String.intercalate_append_of_ne_nil hnone (by simp), String.intercalate_singleton]
      generalize delimiter.intercalate (parts.filter (· ≠ "")) = text at hjoined ⊢
      simp [hjoined, hpart]

theorem foldl_append_joined (delimiter : String) (seen rest : List String) :
    rest.foldl (append delimiter) (joined delimiter seen) = joined delimiter (seen ++ rest) := by
  induction rest generalizing seen with
  | nil => simp
  | cons part rest ih =>
      rw [List.foldl_cons, ← joined_concat, ih, List.append_assoc, List.singleton_append]

theorem concatenate_eq_joined (delimiter : String) (hne : parts ≠ []) :
    concatenate delimiter parts = some (joined delimiter parts) := by
  cases parts with
  | nil => contradiction
  | cons part rest =>
      rw [concatenate, ← joined_singleton delimiter part, foldl_append_joined, joined_singleton]
      rfl

end Schema

/-! ## Sources -/

namespace Transform

open Input (Finding)
open Json (Value)
open Schema (Rule Source)

variable {p : Place} {kind : Kind} {path : String} {s : Source} {sources before after : List Source}
variable {rule : Rule} {e : Error} {text : String}

/-- A source has no value, or the value null. -/
def Misses (p : Place) (kind : Kind) (path : String) (s : Source) : Prop :=
  evaluate p kind path s = .ok none ∨
    ∃ found, evaluate p kind path s = .ok (some found) ∧ found.toJson = .null

/-- A source has a text. -/
def Yields (p : Place) (kind : Kind) (path : String) (s : Source) (text : String) : Prop :=
  ∃ found, evaluate p kind path s = .ok (some found) ∧ found.toJson = .string text

/-- A source fails with an error, or its value is no text and the error says so. -/
def Breaks (p : Place) (kind : Kind) (path : String) (s : Source) (e : Error) : Prop :=
  evaluate p kind path s = .error e ∨
    ∃ found, evaluate p kind path s = .ok (some found) ∧ found.toJson ≠ .null ∧
      (∀ text, found.toJson ≠ .string text) ∧
      e = .operation path "concatenate" (Operation.wrongKind "string" found.toJson)

theorem misses_or_yields_or_breaks (p : Place) (kind : Kind) (path : String) (s : Source) :
    Misses p kind path s ∨ (∃ text, Yields p kind path s text) ∨ ∃ e, Breaks p kind path s e := by
  cases hvalue : evaluate p kind path s with
  | error e => exact Or.inr (Or.inr ⟨e, Or.inl hvalue⟩)
  | ok found =>
      cases found with
      | none => exact Or.inl (Or.inl hvalue)
      | some found =>
          by_cases hnull : found.toJson = .null
          · exact Or.inl (Or.inr ⟨found, hvalue, hnull⟩)
          · by_cases htext : ∃ text, found.toJson = .string text
            · obtain ⟨text, htext⟩ := htext
              exact Or.inr (Or.inl ⟨text, found, hvalue, htext⟩)
            · refine Or.inr (Or.inr ⟨_, Or.inr ⟨found, hvalue, hnull, ?_, rfl⟩⟩)
              exact fun text h => htext ⟨text, h⟩

theorem misses_or_yields (h : ∀ e, ¬ Breaks p kind path s e) :
    Misses p kind path s ∨ ∃ text, Yields p kind path s text := by
  rcases misses_or_yields_or_breaks p kind path s with hmiss | htext | ⟨e, he⟩
  · exact Or.inl hmiss
  · exact Or.inr htext
  · exact absurd he (h e)

theorem Misses.not_breaks (h : Misses p kind path s) (e : Error) : ¬ Breaks p kind path s e := by
  rintro (he | ⟨found, hfound, hnull, _⟩)
  · rcases h with h | ⟨_, h, _⟩ <;> simp [he] at h
  · rcases h with h | ⟨other, h, hother⟩
    · simp [hfound] at h
    · obtain rfl : found = other := by simpa [hfound] using h
      exact hnull hother

theorem Yields.not_breaks (h : Yields p kind path s text) (e : Error) :
    ¬ Breaks p kind path s e := by
  obtain ⟨found, h, htext⟩ := h
  rintro (he | ⟨other, hother, _, hnot, _⟩)
  · simp [he] at h
  · obtain rfl : found = other := by simpa [hother] using h.symm
    exact hnot text htext

theorem parts_of_misses (h : Misses p kind path s) :
    parts p kind path (s :: sources) = parts p kind path sources := by
  rcases h with h | ⟨found, h, hnull⟩
  · simp [parts, h, bind, Except.bind]
  · simp [parts, h, hnull, bind, Except.bind]

theorem parts_of_yields (h : Yields p kind path s text) :
    parts p kind path (s :: sources) = (parts p kind path sources).map (text :: ·) := by
  obtain ⟨found, h, htext⟩ := h
  simp only [parts, h, htext, bind, Except.bind, Option.map_some]
  cases parts p kind path sources <;> rfl

theorem parts_of_breaks (h : Breaks p kind path s e) :
    parts p kind path (s :: sources) = .error e := by
  rcases h with h | ⟨found, h, hnull, htext, rfl⟩
  · simp [parts, h, bind, Except.bind]
  · cases hvalue : found.toJson with
    | null => exact absurd hvalue hnull
    | string text => exact absurd hvalue (htext text)
    | bool _ => simp [parts, h, hvalue, bind, Except.bind]
    | number _ => simp [parts, h, hvalue, bind, Except.bind]
    | array _ => simp [parts, h, hvalue, bind, Except.bind]
    | object _ => simp [parts, h, hvalue, bind, Except.bind]

/-- The text of a source, if it has one. -/
def text? (p : Place) (kind : Kind) (path : String) (s : Source) : Option String :=
  match evaluate p kind path s with
  | .ok (some found) => found.toJson.string?
  | _ => none

theorem text?_of_misses (h : Misses p kind path s) : text? p kind path s = none := by
  rcases h with h | ⟨found, h, hnull⟩
  · simp [text?, h]
  · simp [text?, h, hnull, Value.string?]

theorem text?_of_yields (h : Yields p kind path s text) : text? p kind path s = some text := by
  obtain ⟨found, h, htext⟩ := h
  simp [text?, h, htext, Value.string?]

/-- The parts are the texts of the sources, if no source breaks. -/
theorem parts_eq_ok (h : ∀ s ∈ sources, ∀ e, ¬ Breaks p kind path s e) :
    parts p kind path sources = .ok (sources.filterMap (text? p kind path)) := by
  induction sources with
  | nil => rfl
  | cons s sources ih =>
      obtain ⟨hs, hrest⟩ := List.forall_mem_cons.mp h
      rcases misses_or_yields hs with hmiss | ⟨text, htext⟩
      · rw [parts_of_misses hmiss, ih hrest, List.filterMap_cons_none (text?_of_misses hmiss)]
      · rw [parts_of_yields htext, ih hrest, List.filterMap_cons_some (text?_of_yields htext)]
        rfl

theorem parts_eq_error (hbefore : ∀ b ∈ before, ∀ e, ¬ Breaks p kind path b e)
    (h : Breaks p kind path s e) : parts p kind path (before ++ s :: after) = .error e := by
  induction before with
  | nil => exact parts_of_breaks h
  | cons b before ih =>
      obtain ⟨hb, hbefore⟩ := List.forall_mem_cons.mp hbefore
      rw [List.cons_append]
      rcases misses_or_yields hb with hmiss | ⟨text, htext⟩
      · rw [parts_of_misses hmiss, ih hbefore]
      · rw [parts_of_yields htext, ih hbefore]
        rfl

/-- The sources have no text exactly if all of them miss, if no source breaks. -/
theorem filterMap_text?_eq_nil_iff (h : ∀ s ∈ sources, ∀ e, ¬ Breaks p kind path s e) :
    sources.filterMap (text? p kind path) = [] ↔ ∀ s ∈ sources, Misses p kind path s := by
  rw [List.filterMap_eq_nil_iff]
  refine forall₂_congr fun s hs => ⟨fun hnone => ?_, text?_of_misses⟩
  rcases misses_or_yields (h s hs) with hmiss | ⟨text, htext⟩
  · exact hmiss
  · rw [text?_of_yields htext] at hnone
    cases hnone

theorem applyRule_of_parts_eq_ok {texts : List String} (hmethod : rule.method = .concatenate)
    (h : parts p kind path rule.sources = .ok texts) :
    applyRule p kind path rule =
      .ok ((Schema.concatenate rule.delimiter texts).map fun joined => .json (.string joined)) := by
  rw [applyRule, hmethod, h]
  rfl

/-- A concatenation fails with the error of the first source that breaks. If there is none, it has no
value exactly if all sources miss, and else it is the join of the texts that are not empty, in the
order of their sources. -/
theorem applyRule_concatenate (hmethod : rule.method = .concatenate) (p : Place) (kind : Kind)
    (path : String) :
    (∀ before s after e, rule.sources = before ++ s :: after →
      (∀ b ∈ before, ∀ e', ¬ Breaks p kind path b e') → Breaks p kind path s e →
        applyRule p kind path rule = .error e) ∧
      ((∀ s ∈ rule.sources, ∀ e, ¬ Breaks p kind path s e) →
        (applyRule p kind path rule = .ok none ↔ ∀ s ∈ rule.sources, Misses p kind path s) ∧
        ((∃ s ∈ rule.sources, ¬ Misses p kind path s) → applyRule p kind path rule =
          .ok (some (.json (.string (rule.delimiter.intercalate
            ((rule.sources.filterMap (text? p kind path)).filter (· ≠ "")))))))) := by
  refine ⟨fun before s after e hsources hbefore hs => ?_, fun hwhole => ?_⟩
  · rw [applyRule, hmethod, hsources, parts_eq_error hbefore hs]
    rfl
  · have hvalue := applyRule_of_parts_eq_ok hmethod (parts_eq_ok hwhole)
    have hnil := filterMap_text?_eq_nil_iff hwhole
    by_cases hmiss : ∀ s ∈ rule.sources, Misses p kind path s
    · rw [hnil.mpr hmiss] at hvalue
      refine ⟨⟨fun _ => hmiss, fun _ => hvalue⟩, ?_⟩
      rintro ⟨s, hs, hhit⟩
      exact absurd (hmiss s hs) hhit
    · rw [Schema.concatenate_eq_joined _ (mt hnil.mp hmiss)] at hvalue
      refine ⟨⟨fun hnone => ?_, fun h => absurd h hmiss⟩, fun _ => hvalue⟩
      rw [hvalue] at hnone
      cases hnone

/-! ### Four members -/

/-- A place outside of lists, in a document with texts, an empty text and an object. -/
def fourMembers : Place := .start "cms" (.json (.object
  [("a", .string "x"), ("b", .string ""), ("c", .string "y"), ("o", .object [])]))

/-- The member of a name as a source. -/
def memberSource (name : String) : Source := ⟨some ("$." ++ name), none, []⟩

/-- Members as the sources of a rule. -/
def joinMembers (names : List String) : Rule := ⟨names.map memberSource, .concatenate, "/"⟩

/-- The empty text and the missing member between two texts leave one delimiter, and the object after
them breaks the rule. -/
theorem applyRule_concatenate_fourMembers :
    let path := "$.t"
    let kind := Kind.scalar .string
    let rule := joinMembers ["b", "a", "d", "b", "c"]
    (∀ s ∈ rule.sources, ∀ e, ¬ Breaks fourMembers kind path s e) ∧
      applyRule fourMembers kind path rule = .ok (some (.json (.string "x/y"))) ∧
      Breaks fourMembers kind path (memberSource "o")
        (.operation path "concatenate" (Operation.wrongKind "string" (.object []))) ∧
      applyRule fourMembers kind path (joinMembers ["b", "a", "d", "b", "c", "o"]) =
        .error (.operation path "concatenate" (Operation.wrongKind "string" (.object []))) := by
  intro path kind rule
  have yields : ∀ {name text}, evaluate fourMembers kind path (memberSource name) =
      .ok (some (.json (.string text))) → Yields fourMembers kind path (memberSource name) text :=
    fun h => ⟨_, h, rfl⟩
  have ha : Yields fourMembers kind path (memberSource "a") "x" := yields rfl
  have hb : Yields fourMembers kind path (memberSource "b") "" := yields rfl
  have hc : Yields fourMembers kind path (memberSource "c") "y" := yields rfl
  have hd : Misses fourMembers kind path (memberSource "d") := Or.inl rfl
  have ho : Breaks fourMembers kind path (memberSource "o")
      (.operation path "concatenate" (Operation.wrongKind "string" (.object []))) :=
    Or.inr ⟨.json (.object []), rfl, nofun, nofun, rfl⟩
  have hwhole : ∀ s ∈ rule.sources, ∀ e, ¬ Breaks fourMembers kind path s e := by
    simp only [rule, joinMembers, List.map_cons, List.map_nil, List.forall_mem_cons]
    exact ⟨hb.not_breaks, ha.not_breaks, hd.not_breaks, hb.not_breaks, hc.not_breaks, by simp⟩
  have hit : ¬ Misses fourMembers kind path (memberSource "a") := by
    intro h
    have hnone := text?_of_misses h
    rw [text?_of_yields ha] at hnone
    cases hnone
  have htexts : rule.sources.filterMap (text? fourMembers kind path) = ["", "x", "", "y"] := by
    simp [rule, joinMembers, text?_of_yields ha, text?_of_yields hb, text?_of_yields hc,
      text?_of_misses hd]
  have hmethod : rule.method = .concatenate := rfl
  have hmore : (joinMembers ["b", "a", "d", "b", "c", "o"]).method = .concatenate := rfl
  refine ⟨hwhole, ?_, ho, ?_⟩
  · have hjoin := (applyRule_concatenate hmethod fourMembers kind path).2 hwhole
    rw [hjoin.2 ⟨memberSource "a", by simp [rule, joinMembers], hit⟩, htexts]
    rfl
  · exact (applyRule_concatenate hmore fourMembers kind path).1 rule.sources _ [] _ rfl hwhole ho

end Transform

end Recast
