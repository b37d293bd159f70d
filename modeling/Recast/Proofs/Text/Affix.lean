import Recast.Text.Basic

/-! # Beginnings and ends of texts, their pieces, and blanks around them -/

namespace Recast.Text

variable {s t : List Char}

theorem dropStart?_eq_some_iff [BEq α] [LawfulBEq α] {word s rest : List α} :
    dropStart? word s = some rest ↔ s = word ++ rest := by
  induction word generalizing s with
  | nil => simp [dropStart?]
  | cons w word ih =>
    cases s with
    | nil => simp [dropStart?]
    | cons c s =>
      by_cases h : w = c
      · simp [dropStart?, h, ih]
      · simp [dropStart?, h, Ne.symm h]

theorem dropEnd?_append (c : Char) (s : List Char) : dropEnd? [c] (s ++ [c]) = some s := by
  simp [dropEnd?, dropStart?]

theorem dropEnd?_eq_none {c : Char} (h : c ∉ s) : dropEnd? [c] s = none := by
  rw [dropEnd?, Option.map_eq_none_iff, Option.eq_none_iff_forall_ne_some]
  intro rest hrest
  have hs := dropStart?_eq_some_iff.mp hrest
  exact h (List.mem_reverse.mp (by simp [hs]))

theorem cutAt?_append {c : Char} (h : c ∉ s) (rest : List Char) :
    cutAt? c (s ++ c :: rest) = some (s, rest) := by
  induction s with
  | nil => simp [cutAt?]
  | cons d s ih =>
      obtain ⟨hd, hs⟩ := List.ne_and_not_mem_of_not_mem_cons h
      simp [cutAt?, Ne.symm hd, ih hs]

theorem cutAt?_eq_some {c : Char} {a b : List Char} (h : cutAt? c s = some (a, b)) :
    s = a ++ c :: b ∧ c ∉ a := by
  induction s generalizing a with
  | nil => cases h
  | cons d s ih =>
      unfold cutAt? at h
      split at h
      · rename_i hd
        cases h
        exact ⟨by simpa using hd, List.not_mem_nil⟩
      · rename_i hd
        obtain ⟨⟨a', b'⟩, hcut, h⟩ := Option.map_eq_some_iff.mp h
        cases h
        obtain ⟨rfl, hnot⟩ := ih hcut
        have hne : d ≠ c := by simpa using hd
        exact ⟨rfl, by simp [Ne.symm hne, hnot]⟩

/-! ## Pieces -/

/-- Texts are cut as lists are. -/
theorem splitAt_eq_splitOnP (p : Char → Bool) (s : List Char) : splitAt p s = s.splitOnP p := by
  induction s with
  | nil => rfl
  | cons c s ih =>
      rw [List.splitOnP_cons_eq_if_modifyHead, splitAt, ih]
      split
      · rfl
      · cases hpieces : s.splitOnP p with
        | nil => exact absurd hpieces (List.splitOnP_ne_nil p s)
        | cons piece rest => rfl

/-- Pieces without the separator are those of the text that they make up with it between them. -/
theorem splitAt_eq_iff {sep : Char} {pieces : List (List Char)}
    (h : ∀ piece ∈ pieces, sep ∉ piece) :
    splitAt (· == sep) s = pieces ↔ pieces ≠ [] ∧ s = [sep].intercalate pieces := by
  rw [splitAt_eq_splitOnP]
  constructor
  · rintro rfl
    exact ⟨List.splitOnP_ne_nil _ _, (List.intercalate_splitOn sep).symm⟩
  · rintro ⟨hne, rfl⟩
    exact List.splitOn_intercalate sep h hne

/-! ## Runs of characters -/

/-- The text does not go on with a character of a kind. -/
def StopsAt (p : Char → Bool) (s : List Char) : Prop := ∀ c ∈ s.head?, p c = false

theorem StopsAt.nil {p : Char → Bool} : StopsAt p [] := by
  intro c hc
  cases hc

theorem StopsAt.cons {p : Char → Bool} {c : Char} (h : p c = false) : StopsAt p (c :: s) := by
  intro d hd
  cases hd
  exact h

theorem StopsAt.of_head? {p : Char → Bool} (h : StopsAt p s) (ht : t.head? = s.head?) :
    StopsAt p t := fun c hc => h c (ht ▸ hc)

/-- A run of characters of a kind, and what follows it. -/
theorem span_eq_iff {p : Char → Bool} {a b : List Char} :
    s.takeWhile p = a ∧ s.dropWhile p = b ↔
      s = a ++ b ∧ (∀ c ∈ a, p c = true) ∧ StopsAt p b := by
  constructor
  · rintro ⟨rfl, rfl⟩
    refine ⟨List.takeWhile_append_dropWhile.symm, List.all_eq_true.mp List.all_takeWhile, ?_⟩
    intro c hc
    have hnot := List.head?_dropWhile_not p s
    rwa [hc] at hnot
  · rintro ⟨rfl, ha, hb⟩
    rw [List.takeWhile_append_of_pos ha, List.dropWhile_append_of_pos ha]
    cases b with
    | nil => simp
    | cons c b =>
        have hc := hb c rfl
        simp [hc]

/-! ## Blanks -/

/-- A text that neither begins nor ends with a blank. -/
structure Tight (s : List Char) : Prop where
  first : ∀ c ∈ s.head?, isBlank c = false
  last : ∀ c ∈ s.getLast?, isBlank c = false

theorem trimStart_eq_self (h : ∀ c ∈ s.head?, isBlank c = false) : trimStart s = s := by
  cases s with
  | nil => rfl
  | cons c s =>
      have hc := h c (by simp)
      simp [trimStart, hc]

theorem trimEnd_eq_self (h : ∀ c ∈ s.getLast?, isBlank c = false) : trimEnd s = s := by
  have hr : trimStart s.reverse = s.reverse := by
    apply trimStart_eq_self
    simpa using h
  rw [trimStart] at hr
  rw [trimEnd, hr, List.reverse_reverse]

theorem Tight.trim_eq (h : Tight s) : trim s = s := by
  rw [trim, trimStart_eq_self h.first, trimEnd_eq_self h.last]

theorem head?_trimStart {c : Char} (h : c ∈ (trimStart s).head?) : isBlank c = false := by
  induction s with
  | nil => simp [trimStart] at h
  | cons d s ih =>
    by_cases hd : isBlank d
    · exact ih (by simpa [trimStart, hd] using h)
    · rw [trimStart, List.dropWhile_cons, if_neg hd, List.head?_cons] at h
      cases h
      exact Bool.eq_false_iff.mpr hd

theorem getLast?_trimEnd {c : Char} (h : c ∈ (trimEnd s).getLast?) : isBlank c = false := by
  rw [trimEnd, List.getLast?_reverse] at h
  exact head?_trimStart (s := s.reverse) h

/-- Dropping blanks at the end leaves a beginning of the text. -/
theorem trimEnd_prefix (s : List Char) : trimEnd s <+: s := by
  have h : s.reverse.dropWhile isBlank <:+ s.reverse := List.dropWhile_suffix _
  simpa [trimEnd] using List.reverse_prefix.mpr h

/-- Blanks are dropped behind what does not end with one. -/
theorem trimEnd_append {a : List Char} (ha : ∀ c ∈ a.getLast?, isBlank c = false) (b : List Char) :
    trimEnd (a ++ b) = a ++ trimEnd b := by
  have hkeep : a.reverse.dropWhile isBlank = a.reverse := trimStart_eq_self (by simpa using ha)
  unfold trimEnd
  rw [List.reverse_append, List.dropWhile_append, hkeep]
  split
  · rename_i hb
    simp [List.isEmpty_iff.mp hb]
  · simp

theorem trim_cons {c : Char} (hc : isBlank c = false) (s : List Char) :
    trim (c :: s) = c :: trimEnd s := by
  have hstart : trimStart (c :: s) = [c] ++ s := trimStart_eq_self (by simpa using hc)
  rw [trim, hstart, trimEnd_append (by simpa using hc)]
  rfl

theorem trimEnd_trimEnd (s : List Char) : trimEnd (trimEnd s) = trimEnd s :=
  trimEnd_eq_self fun _ h => getLast?_trimEnd h

theorem Tight.trim_append (ht : Tight t) (hne : t ≠ []) (s : List Char) :
    trim (t ++ s) = t ++ trimEnd s := by
  have hstart : trimStart (t ++ s) = t ++ s := by
    apply trimStart_eq_self
    cases t with
    | nil => exact absurd rfl hne
    | cons c t => exact ht.first
  rw [trim, hstart, trimEnd_append ht.last]

theorem tight_trim (s : List Char) : Tight (trim s) := by
  refine ⟨fun c h => ?_, fun c h => getLast?_trimEnd h⟩
  obtain ⟨rest, hrest⟩ := trimEnd_prefix (trimStart s)
  apply head?_trimStart (s := s)
  rw [trim] at h
  rw [← hrest]
  cases hs : trimEnd (trimStart s) with
  | nil => simp [hs] at h
  | cons d u => simpa [hs] using h

theorem mem_of_mem_trim {c : Char} (h : c ∈ trim s) : c ∈ s := by
  have hfront := trimEnd_prefix (trimStart s)
  exact (List.dropWhile_suffix _).subset (hfront.subset h)

theorem tight_iff_trim_eq : Tight s ↔ trim s = s :=
  ⟨Tight.trim_eq, fun h => h ▸ tight_trim s⟩

/-- What ends two texts ends both of them together. -/
theorem last_append {P : Char → Prop} {a b : List Char} (ha : ∀ c ∈ a.getLast?, P c)
    (hb : ∀ c ∈ b.getLast?, P c) : ∀ c ∈ (a ++ b).getLast?, P c := by
  intro c hc
  rw [List.getLast?_append] at hc
  cases hl : b.getLast? with
  | none => exact ha c (by simpa [hl] using hc)
  | some d => exact hb c (by simpa [hl] using hc)

theorem Tight.append_ends {a b : List Char} (ha : Tight a) (hne : a ≠ [])
    (hb : ∀ c ∈ b.getLast?, isBlank c = false) : Tight (a ++ b) := by
  refine ⟨fun c h => ha.first c ?_, last_append ha.last hb⟩
  cases a with
  | nil => exact absurd rfl hne
  | cons d a => simpa using h

/-- The end of a tight text, put behind another tight text, ends tightly again. -/
theorem Tight.append {a b : List Char} (hs : Tight s) (hsa : s ≠ []) (ha : Tight (a ++ b)) :
    Tight (s ++ b) := by
  refine ⟨fun c h => hs.first c ?_, fun c h => ?_⟩
  · cases s with
    | nil => contradiction
    | cons d s => simpa using h
  · cases b with
    | nil => exact hs.last c (by simpa using h)
    | cons d b => exact ha.last c (by simpa using h)

end Recast.Text
