import Recast.Json.Value

/-!
# Keys of objects

A member is found by its key, wherever it stands among distinct keys. The values of documents have
every key of an object once.
-/

namespace Recast.Json

/-! ## Members -/

namespace Fields

variable {name key : String} {v w : Value} {fields more : Fields}

@[simp] theorem get?_put_self : get? name (put name v fields) = some v := by
  induction fields with
  | nil => simp [put, get?]
  | cons field fields ih =>
      obtain ⟨k, u⟩ := field
      by_cases h : k = name <;> simp [put, get?, h, ih]

@[simp] theorem put_put : put name w (put name v fields) = put name w fields := by
  induction fields with
  | nil => simp [put]
  | cons field fields ih =>
      obtain ⟨k, u⟩ := field
      by_cases h : k = name <;> simp [put, h, ih]

theorem put_eq_self (h : get? name fields = some v) : put name v fields = fields := by
  induction fields with
  | nil => cases h
  | cons field fields ih =>
      obtain ⟨k, u⟩ := field
      by_cases hk : k = name
      · have hu : u = v := by simpa [get?, hk] using h
        simp [put, hk, hu]
      · have hrest : get? name fields = some v := by simpa [get?, hk] using h
        simp [put, hk, ih hrest]

theorem get?_eq_none_iff : get? name fields = none ↔ name ∉ keys fields := by
  induction fields with
  | nil => simp [get?, keys]
  | cons field fields ih =>
      obtain ⟨k, u⟩ := field
      simp only [keys] at ih
      by_cases hk : k = name
      · simp [get?, keys, hk]
      · simp [get?, keys, hk, ih, Ne.symm hk]

theorem put_of_not_mem (h : name ∉ keys fields) : put name v fields = fields ++ [(name, v)] := by
  induction fields with
  | nil => rfl
  | cons field fields ih =>
      obtain ⟨k, u⟩ := field
      simp only [keys, List.map_cons, List.mem_cons, not_or] at h
      simp [put, Ne.symm h.1, ih h.2]

theorem keys_put_of_mem (h : name ∈ keys fields) : keys (put name v fields) = keys fields := by
  induction fields with
  | nil => cases h
  | cons field fields ih =>
      obtain ⟨k, u⟩ := field
      by_cases hk : k = name
      · simp [put, keys, hk]
      · simp only [keys, List.map_cons, List.mem_cons, Ne.symm hk, false_or] at h ih
        simp [put, keys, hk, ih h]

theorem get?_of_mem (h : (keys fields).Nodup) (hv : (name, v) ∈ fields) :
    get? name fields = some v := by
  induction fields with
  | nil => cases hv
  | cons field fields ih =>
      obtain ⟨k, u⟩ := field
      simp only [keys, List.map_cons, List.nodup_cons] at h
      rcases List.mem_cons.mp hv with hv | hv
      · cases hv
        simp [get?]
      · have hne : k ≠ name := fun he => h.1 (List.mem_map.mpr ⟨_, hv, he.symm⟩)
        simp [get?, hne, ih h.2 hv]

theorem mem_of_get? (h : get? name fields = some v) : (name, v) ∈ fields := by
  induction fields with
  | nil => cases h
  | cons field fields ih =>
      obtain ⟨k, u⟩ := field
      by_cases hk : k = name
      · have hu : u = v := by simpa [get?, hk] using h
        simp [hk, hu]
      · have hrest : get? name fields = some v := by simpa [get?, hk] using h
        exact List.mem_cons_of_mem _ (ih hrest)

theorem get?_append : get? name (fields ++ more) = (get? name fields <|> get? name more) := by
  induction fields with
  | nil => rfl
  | cons field fields ih =>
      obtain ⟨k, u⟩ := field
      by_cases hk : k = name
      · simp [get?, hk]
      · simpa [get?, hk] using ih

/-- The order of distinct keys does not matter. -/
theorem get?_perm (hk : (keys fields).Nodup) (h : fields.Perm more) :
    get? name fields = get? name more := by
  have hkeys : (keys fields).Perm (keys more) := h.map _
  cases hg : get? name fields with
  | none =>
      rw [get?_eq_none_iff, hkeys.mem_iff] at hg
      exact (get?_eq_none_iff.mpr hg).symm
  | some v => exact (get?_of_mem (hkeys.nodup_iff.mp hk) (h.mem_iff.mp (mem_of_get? hg))).symm

theorem get?_put_of_ne (h : key ≠ name) : get? key (put name v fields) = get? key fields := by
  induction fields with
  | nil => simp [put, get?, Ne.symm h]
  | cons field fields ih =>
      obtain ⟨k, u⟩ := field
      by_cases hk : k = name
      · simp [put, get?, hk, Ne.symm h]
      · simp [put, get?, hk, ih]

theorem has_put (h : get? name fields = some v) : has key (put name w fields) = has key fields := by
  unfold has
  by_cases hk : key = name
  · subst hk
    rw [get?_put_self, h]
    rfl
  · rw [get?_put_of_ne hk]

/-- A member, if there is a value. -/
def ofOption (name : String) (o : Option Value) : Fields := (o.map fun v => (name, v)).toList

variable {o : Option Value}

theorem get?_ofOption_self (h : name ∉ keys fields) :
    get? name (ofOption name o ++ fields) = o := by
  cases o with
  | none => exact get?_eq_none_iff.mpr h
  | some v => simp [ofOption, get?]

theorem get?_ofOption_of_ne (h : key ≠ name) :
    get? key (ofOption name o ++ fields) = get? key fields := by
  cases o with
  | none => rfl
  | some v => simp [ofOption, get?, Ne.symm h]

end Fields

/-! ## Distinct keys -/

namespace Value

mutual

/-- Whether every object of the value has each of its keys once. -/
def hasDistinctKeys : Value → Bool
  | array items => itemsDistinct items
  | object fields => decide (Fields.keys fields).Nodup && fieldsDistinct fields
  | _ => true
termination_by structural v => v

def itemsDistinct : List Value → Bool
  | [] => true
  | v :: vs => hasDistinctKeys v && itemsDistinct vs
termination_by structural vs => vs

def fieldsDistinct : List (String × Value) → Bool
  | [] => true
  | (_, v) :: fs => hasDistinctKeys v && fieldsDistinct fs
termination_by structural fs => fs

end

theorem hasDistinctKeys_object {fields : Fields} : (object fields).hasDistinctKeys = true ↔
    (Fields.keys fields).Nodup ∧ fieldsDistinct fields = true := by
  simp [hasDistinctKeys]

theorem hasDistinctKeys_array {vs : List Value} :
    (array vs).hasDistinctKeys = true ↔ ∀ v ∈ vs, v.hasDistinctKeys = true := by
  rw [hasDistinctKeys]
  induction vs with
  | nil => simp [itemsDistinct]
  | cons v vs ih => simp [itemsDistinct, ih]

theorem fieldsDistinct_iff {fields : Fields} :
    fieldsDistinct fields = true ↔ ∀ v ∈ fields.map (·.2), v.hasDistinctKeys = true := by
  induction fields with
  | nil => simp [fieldsDistinct]
  | cons field fields ih => simp only [fieldsDistinct, Bool.and_eq_true, ih, List.map_cons,
      List.forall_mem_cons]

theorem hasDistinctKeys_of_get? {name : String} {v : Value} {fields : Fields}
    (h : fieldsDistinct fields = true) (hv : Fields.get? name fields = some v) :
    v.hasDistinctKeys = true := by
  induction fields with
  | nil => cases hv
  | cons field fields ih =>
      obtain ⟨k, u⟩ := field
      simp only [fieldsDistinct, Bool.and_eq_true] at h
      unfold Fields.get? at hv
      split at hv
      · cases hv
        exact h.1
      · exact ih h.2 hv

end Value

end Recast.Json
