import Recast.Proofs.Path.Preorder

/-!
# Values that selectors lead to

For selectors that can be written there are values in which they find something. Such values are
built of numbers, of which each is used once, so that all values in them are pairwise different.
-/

namespace Recast.Path

open Json (Fields Value)

variable {u v w : Value} {sel : Selector} {sels : List Selector} {a b c : Nat} {vs ws : List Value}

/-! ## Numbers -/

/-- Values that hold the numbers of a range, each of them once at most, and have distinct keys. -/
structure Numbered (a b : Nat) (vs : List Value) : Prop where
  le : a ≤ b
  distinctKeys : ∀ v ∈ vs, v.hasDistinctKeys = true
  nodup : (vs.flatMap leaves).Nodup
  between : ∀ w ∈ vs.flatMap leaves, ∃ n, a ≤ n ∧ n < b ∧ w = .ofNat n

theorem Numbered.nil (a : Nat) : Numbered a a [] where
  le := Nat.le_refl a
  distinctKeys := by simp
  nodup := List.nodup_nil
  between := by simp

theorem leaves_ofNat (n : Nat) : leaves (.ofNat n) = [.ofNat n] := leaves_of_isEmpty rfl

theorem Numbered.number (a : Nat) : Numbered a (a + 1) [.ofNat a] where
  le := Nat.le_succ a
  distinctKeys := by simp [Value.ofNat, Value.hasDistinctKeys]
  nodup := by simp [leaves_ofNat]
  between w hw := ⟨a, Nat.le_refl a, Nat.lt_succ_self a, by simpa [leaves_ofNat] using hw⟩

theorem Numbered.append (h : Numbered a b vs) (h' : Numbered b c ws) : Numbered a c (vs ++ ws) where
  le := Nat.le_trans h.le h'.le
  distinctKeys v hv := (List.mem_append.mp hv).elim (h.distinctKeys v) (h'.distinctKeys v)
  nodup := by
    rw [List.flatMap_append, List.nodup_append]
    refine ⟨h.nodup, h'.nodup, ?_⟩
    rintro v hv w hw rfl
    obtain ⟨n, _, hn, hvn⟩ := h.between v hv
    obtain ⟨m, hm, _, hvm⟩ := h'.between v hw
    rw [hvn] at hvm
    cases hvm
    omega
  between w hw := by
    rw [List.flatMap_append, List.mem_append] at hw
    rcases hw with hw | hw
    · obtain ⟨n, hn, hn', rfl⟩ := h.between w hw
      exact ⟨n, hn, Nat.lt_of_lt_of_le hn' h'.le, rfl⟩
    · obtain ⟨n, hn, hn', rfl⟩ := h'.between w hw
      exact ⟨n, Nat.le_trans h.le hn, hn', rfl⟩

theorem Numbered.perm (h : Numbered a b vs) (hp : vs.Perm ws) : Numbered a b ws where
  le := h.le
  distinctKeys v hv := h.distinctKeys v (hp.mem_iff.mpr hv)
  nodup := (hp.flatMap_right leaves).nodup_iff.mp h.nodup
  between w hw := h.between w ((hp.flatMap_right leaves).mem_iff.mpr hw)

/-- So many numbers. -/
def numbers (a count : Nat) : List Value := (List.range' a count).map .ofNat

theorem numbered_numbers (a count : Nat) : Numbered a (a + count) (numbers a count) := by
  induction count generalizing a with
  | zero => exact .nil a
  | succ count ih =>
      rw [numbers, List.range'_succ, List.map_cons, Nat.add_comm count, ← Nat.add_assoc]
      exact (Numbered.number a).append (ih (a + 1))

theorem getElem?_numbers (a count : Nat) (v : Value) : (numbers a count ++ [v])[count]? = some v := by
  rw [List.getElem?_append_right (by simp [numbers])]
  simp [numbers]

/-- What is put around values has their leaves. -/
theorem Numbered.around (h : Numbered a b (children v)) (hv : (children v).isEmpty = false)
    (hk : v.hasDistinctKeys = true) : Numbered a b [v] where
  le := h.le
  distinctKeys := by simpa using hk
  nodup := by simpa [leaves_of_not_isEmpty hv] using h.nodup
  between w hw := h.between w (by simpa [leaves_of_not_isEmpty hv] using hw)

theorem Numbered.array (h : Numbered a b vs) (hvs : vs.isEmpty = false) :
    Numbered a b [.array vs] :=
  Numbered.around (v := .array vs) h hvs (Value.hasDistinctKeys_array.mpr h.distinctKeys)

theorem Numbered.object {fields : Fields} (h : Numbered a b (fields.map (·.2)))
    (hfields : fields.isEmpty = false) (hk : (Fields.keys fields).Nodup) :
    Numbered a b [.object fields] :=
  Numbered.around (v := .object fields) h (by simpa [children] using hfields)
    (Value.hasDistinctKeys_object.mpr ⟨hk, Value.fieldsDistinct_iff.mpr h.distinctKeys⟩)

theorem Numbered.nodup_descendants (h : Numbered a b [v]) : (descendants v).Nodup :=
  Path.nodup_descendants (by simpa using h.nodup)

/-! ## Values in which selectors find one -/

/-- A value in which a selector finds a given one. -/
theorem exists_around (h : Numbered a b [v]) (hsel : sel ≠ .fromEnd 0) :
    ∃ c w, Numbered a c [w] ∧ v ∈ sel.select w := by
  have hbefore (i : Nat) : Numbered a (b + i) (numbers b i ++ [v]) :=
    (h.append (numbered_numbers b i)).perm List.perm_append_comm
  cases sel with
  | child name =>
      exact ⟨b, .object [(name, v)], Numbered.object (by simpa using h) rfl (by simp [Fields.keys]),
        by simp [Selector.select, Value.field?, Fields.get?]⟩
  | index i =>
      refine ⟨b + i, .array (numbers b i ++ [v]), (hbefore i).array (by simp), ?_⟩
      exact Option.mem_toList.mpr (getElem?_numbers b i v)
  | fromEnd i =>
      cases i with
      | zero => contradiction
      | succ i =>
          refine ⟨b + i, .array (v :: numbers b i), (h.append (numbered_numbers b i)).array rfl, ?_⟩
          have hlength : (v :: numbers b i).length = i + 1 := by simp [numbers]
          simp [Selector.select, hlength]
  | wildcard => exact ⟨b, .array [v], h.array rfl, by simp [Selector.select, children]⟩
  | descent => exact ⟨b, v, h, descendants_listing.self_mem v⟩

theorem exists_leading (h : Numbered a b [v]) (hsels : ∀ s ∈ sels, s ≠ .fromEnd 0) :
    ∃ c w, Numbered a c [w] ∧ v ∈ selectAll sels w := by
  induction sels with
  | nil => exact ⟨b, v, h, by simp [stepwise.nil]⟩
  | cons sel rest ih =>
      obtain ⟨b', u, hu, hv⟩ := ih fun s hs => hsels s (List.mem_cons_of_mem _ hs)
      obtain ⟨c, w, hw, hsel⟩ := exists_around hu (hsels sel List.mem_cons_self)
      exact ⟨c, w, hw, stepwise.mem_cons.mpr ⟨u, hsel, hv⟩⟩

/-- A value in which a selector that is not for first elements finds the second of two values. -/
theorem exists_second (h : Numbered a b [u, v]) (hsel : sel ≠ .fromEnd 0) (hfirst : sel ≠ .index 0) :
    ∃ c w, Numbered a c [w] ∧ v ∈ sel.select w ∧ [u, v].Sublist (children w) := by
  cases sel with
  | child name =>
      -- The first value needs another key.
      have hname : name ++ "'" ≠ name := fun he => by
        have hlength := congrArg String.length he
        simp at hlength
      refine ⟨b, .object [(name ++ "'", u), (name, v)], Numbered.object h rfl ?_, ?_, ?_⟩
      · simp [Fields.keys]
      · simp [Selector.select, Value.field?, Fields.get?, hname]
      · exact List.Sublist.refl _
  | index i =>
      cases i with
      | zero => contradiction
      | succ i =>
          refine ⟨b + i, .array (u :: (numbers b i ++ [v])), ?_, ?_, ?_⟩
          · exact ((h.append (numbered_numbers b i)).perm
              (List.perm_append_comm.cons u)).array rfl
          · rw [Selector.select, List.getElem?_cons_succ]
            exact Option.mem_toList.mpr (getElem?_numbers b i v)
          · exact (List.sublist_append_right _ _).cons_cons u
  | fromEnd i =>
      cases i with
      | zero => contradiction
      | succ i =>
          refine ⟨b + i, .array (u :: v :: numbers b i), (h.append (numbered_numbers b i)).array rfl,
            ?_, ?_⟩
          · have hlength : (u :: v :: numbers b i).length = i + 2 := by simp [numbers]
            have hplace : i + 2 - (i + 1) = 1 := by omega
            simp [Selector.select, hlength, hplace]
          · exact ((List.nil_sublist _).cons_cons v).cons_cons u
  | wildcard =>
      exact ⟨b, .array [u, v], h.array rfl, by simp [Selector.select, children], List.Sublist.refl _⟩
  | descent =>
      refine ⟨b, .array [u, v], h.array rfl, ?_, List.Sublist.refl _⟩
      exact descendants_listing.mem_of_mem_parts (by simp [children])

end Recast.Path
