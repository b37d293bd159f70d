import Mathlib.Data.List.Forall2

/-! # Results of computations that can fail -/

namespace Recast

variable {ε ε' α β : Type}

instance decidableEqOutcome [DecidableEq ε] [DecidableEq α] : DecidableEq (Except ε α)
  | .error e, .error e' => decidable_of_iff (e = e') ⟨congrArg Except.error, Except.error.inj⟩
  | .ok a, .ok a' => decidable_of_iff (a = a') ⟨congrArg Except.ok, Except.ok.inj⟩
  | .error _, .ok _ => isFalse fun h => by cases h
  | .ok _, .error _ => isFalse fun h => by cases h

/-- What a sequence of two computations gives, they both give. -/
theorem bind_eq_ok {x : Except ε α} {f : α → Except ε β} {b : β} (h : x >>= f = .ok b) :
    ∃ a, x = .ok a ∧ f a = .ok b := by
  cases x with
  | error e => cases h
  | ok a => exact ⟨a, rfl, h⟩

theorem map_eq_ok {g : α → β} {x : Except ε α} {b : β} (h : x.map g = .ok b) :
    ∃ a, x = .ok a ∧ b = g a := by
  cases x with
  | error e => cases h
  | ok a => exact ⟨a, rfl, (Except.ok.inj h).symm⟩

theorem map_eq_error {g : α → β} {x : Except ε α} {e : ε} (h : x.map g = .error e) :
    x = .error e := by
  cases x with
  | error e' =>
      cases h
      rfl
  | ok a => cases h

/-- Computations that agree after they are mapped fail alike, or give what is mapped alike. -/
theorem map_eq_map_iff {γ : Type} {f : α → γ} {g : β → γ} {x : Except ε α} {y : Except ε β} :
    x.map f = y.map g ↔
      (∃ e, x = .error e ∧ y = .error e) ∨ ∃ a b, x = .ok a ∧ y = .ok b ∧ f a = g b := by
  cases x <;> cases y <;> simp [Except.map, eq_comm]

/-- A sequence fails where its first or its second computation does. -/
theorem bind_eq_error {x : Except ε α} {f : α → Except ε β} {e : ε} (h : x >>= f = .error e) :
    x = .error e ∨ ∃ a, x = .ok a ∧ f a = .error e := by
  cases x with
  | error e' => cases h; exact Or.inl rfl
  | ok a => exact Or.inr ⟨a, rfl, h⟩

/-- Steps that go through a list fail at the first one that fails. -/
theorem foldlM_eq_error_iff {f : β → α → Except ε β} {as : List α} {b : β} {e : ε} :
    as.foldlM f b = .error e ↔
      ∃ front a back c, as = front ++ a :: back ∧ front.foldlM f b = .ok c ∧ f c a = .error e := by
  constructor
  · intro h
    induction as generalizing b with
    | nil => cases h
    | cons a as ih =>
        rw [List.foldlM_cons] at h
        rcases bind_eq_error h with h | ⟨c, hc, h⟩
        · exact ⟨[], a, as, b, rfl, rfl, h⟩
        · obtain ⟨front, a', back, c', rfl, hfront, h⟩ := ih h
          refine ⟨a :: front, a', back, c', rfl, ?_, h⟩
          rw [List.foldlM_cons, hc]
          exact hfront
  · rintro ⟨front, a, back, c, rfl, hfront, h⟩
    rw [List.foldlM_append, hfront]
    show (a :: back).foldlM f c = _
    rw [List.foldlM_cons, h]
    rfl

/-! ## Computations with a state -/

section State

variable {σ : Type} {x : ExceptT ε (StateM σ) α} {f : α → ExceptT ε (StateM σ) β} {s s' : σ}

theorem run_bind_of_ok {a : α} (h : x.run s = (.ok a, s')) : (x >>= f).run s = (f a).run s' := by
  change (x.run >>= ExceptT.bindCont f) s = _
  change ExceptT.bindCont f (x.run s).1 (x.run s).2 = _
  rw [h]
  rfl

theorem run_bind_of_error {e : ε} (h : x.run s = (.error e, s')) :
    (x >>= f).run s = (.error e, s') := by
  change ExceptT.bindCont f (x.run s).1 (x.run s).2 = _
  rw [h]
  rfl

end State

/-! ## Errors -/

/-- Every error of a computation has a property. -/
def FailsOnly (P : ε → Prop) (x : Except ε α) : Prop := ∀ e, x = .error e → P e

section FailsOnly

variable {P : ε → Prop} {x : Except ε α} {f : α → Except ε β}

theorem FailsOnly.ok (a : α) : FailsOnly P (.ok a) := fun _ h => by cases h

theorem FailsOnly.error {e : ε} (h : P e) : FailsOnly P (.error e : Except ε α) := by
  intro e' he
  cases he
  exact h

theorem FailsOnly.bind (hx : FailsOnly P x) (hf : ∀ a, x = .ok a → FailsOnly P (f a)) :
    FailsOnly P (x >>= f) := by
  intro e h
  rcases bind_eq_error h with h | ⟨a, ha, h⟩
  · exact hx e h
  · exact hf a ha e h

theorem FailsOnly.mono {Q : ε → Prop} (h : FailsOnly P x) (hPQ : ∀ e, P e → Q e) : FailsOnly Q x :=
  fun e he => hPQ e (h e he)

theorem failsOnly_mapError {g : ε → ε'} {Q : ε' → Prop} :
    FailsOnly Q (x.mapError g) ↔ FailsOnly (fun e => Q (g e)) x := by
  cases x with
  | error e => exact ⟨fun h => .error (h _ rfl), fun h => .error (h e rfl)⟩
  | ok a => exact ⟨fun _ => .ok a, fun _ => .ok a⟩

theorem FailsOnly.map (h : FailsOnly P x) (g : α → β) : FailsOnly P (x.map g) := by
  cases x with
  | error e => exact .error (h e rfl)
  | ok a => exact .ok (g a)

theorem FailsOnly.mapM {g : α → Except ε β} {as : List α} (h : ∀ a ∈ as, FailsOnly P (g a)) :
    FailsOnly P (as.mapM g) := by
  induction as with
  | nil => exact .ok []
  | cons a as ih =>
      obtain ⟨ha, has⟩ := List.forall_mem_cons.mp h
      rw [List.mapM_cons]
      exact ha.bind fun b _ => (ih has).bind fun bs _ => .ok (b :: bs)

end FailsOnly

theorem toOption_eq_some_iff {x : Except ε α} {a : α} : x.toOption = some a ↔ x = .ok a := by
  cases x <;> simp [Except.toOption]

theorem toOption_map (g : α → β) (x : Except ε α) : (x.map g).toOption = x.toOption.map g := by
  cases x <;> rfl

theorem mapError_eq_ok {g : ε → ε'} {x : Except ε α} {a : α} : x.mapError g = .ok a ↔ x = .ok a := by
  cases x with
  | error e => exact ⟨nofun, nofun⟩
  | ok b => exact ⟨fun h => congrArg Except.ok (Except.ok.inj h), fun h => congrArg _ h⟩

theorem mapError_eq_error {g : ε → ε'} {x : Except ε α} {e' : ε'} :
    x.mapError g = .error e' ↔ ∃ e, x = .error e ∧ g e = e' := by
  cases x <;> simp [Except.mapError]

theorem exists_error_mapError {g : ε → ε'} {x : Except ε α} :
    (∃ e, x.mapError g = .error e) ↔ ∃ e, x = .error e := by
  cases x with
  | error e => exact ⟨fun _ => ⟨e, rfl⟩, fun _ => ⟨g e, rfl⟩⟩
  | ok a => exact ⟨nofun, nofun⟩

theorem mapError_bind (g : ε → ε') (x : Except ε α) (f : α → Except ε β) :
    (x >>= f).mapError g = x.mapError g >>= fun a => (f a).mapError g := by
  cases x <;> rfl

/-- A list of computations gives what they give, one by one. -/
theorem forall₂_of_mapM_eq_ok {f : α → Except ε β} {as : List α} {bs : List β}
    (h : as.mapM f = .ok bs) : List.Forall₂ (fun a b => f a = .ok b) as bs := by
  induction as generalizing bs with
  | nil =>
      cases h
      exact .nil
  | cons a as ih =>
      rw [List.mapM_cons] at h
      obtain ⟨b, hb, h⟩ := bind_eq_ok h
      obtain ⟨rest, hrest, h⟩ := bind_eq_ok h
      cases h
      exact .cons hb (ih hrest)

theorem mem_of_mapM {f : α → Except ε β} {as : List α} {bs : List β} {b : β}
    (h : as.mapM f = .ok bs) (hb : b ∈ bs) : ∃ a ∈ as, f a = .ok b := by
  have hall := forall₂_of_mapM_eq_ok h
  clear h
  induction hall with
  | nil => cases hb
  | @cons a c as cs hc _ ih =>
      rcases List.mem_cons.mp hb with rfl | hb
      · exact ⟨a, by simp, hc⟩
      · obtain ⟨a', ha', hf⟩ := ih hb
        exact ⟨a', by simp [ha'], hf⟩

theorem optionRel_refl {R : α → α → Prop} {o : Option α} (h : ∀ a, R a a) : Option.Rel R o o := by
  cases o with
  | none => exact .none
  | some a => exact .some (h a)

theorem optionRel_imp {R S : α → β → Prop} {o : Option α} {o' : Option β} (h : Option.Rel R o o')
    (hRS : ∀ a b, R a b → S a b) : Option.Rel S o o' := by
  cases h with
  | none => exact .none
  | some h => exact .some (hRS _ _ h)

theorem optionRel_or {R : α → β → Prop} {o e : Option α} {o' e' : Option β} (h : Option.Rel R o o')
    (he : Option.Rel R e e') : Option.Rel R (o <|> e) (o' <|> e') := by
  cases h with
  | none => exact he
  | some h => exact .some h

section Related

variable {α' β' : Type} {R : α → α' → Prop} {S : β → β' → Prop}

/-- Computations over related lists give related lists. -/
theorem forall₂_of_mapM {f : α → Except ε β} {g : α' → Except ε' β'}
    (hfg : ∀ a a' b b', R a a' → f a = .ok b → g a' = .ok b' → S b b') {as : List α}
    {as' : List α'} (h : List.Forall₂ R as as') {bs : List β} {bs' : List β'}
    (hf : as.mapM f = .ok bs) (hg : as'.mapM g = .ok bs') : List.Forall₂ S bs bs' := by
  induction h generalizing bs bs' with
  | nil =>
      cases hf
      cases hg
      exact .nil
  | cons ha _ ih =>
      rw [List.mapM_cons] at hf hg
      obtain ⟨b, hb, hf⟩ := bind_eq_ok hf
      obtain ⟨rest, hrest, hf⟩ := bind_eq_ok hf
      obtain ⟨b', hb', hg⟩ := bind_eq_ok hg
      obtain ⟨rest', hrest', hg⟩ := bind_eq_ok hg
      cases hf
      cases hg
      exact .cons (hfg _ _ b b' ha hb hb') (ih hrest hrest')

/-- Computations that go through related lists keep their states related. -/
theorem related_of_foldlM {f : β → α → Except ε β} {g : β' → α' → Except ε' β'}
    (hfg : ∀ s s' a a' t t', S s s' → R a a' → f s a = .ok t → g s' a' = .ok t' → S t t')
    {as : List α} {as' : List α'} (h : List.Forall₂ R as as') {s t : β} {s' t' : β'} (hs : S s s')
    (hf : as.foldlM f s = .ok t) (hg : as'.foldlM g s' = .ok t') : S t t' := by
  induction h generalizing s s' with
  | nil =>
      cases hf
      cases hg
      exact hs
  | cons ha _ ih =>
      rw [List.foldlM_cons] at hf hg
      obtain ⟨u, hu, hf⟩ := bind_eq_ok hf
      obtain ⟨u', hu', hg⟩ := bind_eq_ok hg
      exact ih (hfg _ _ _ _ u u' hs ha hu hu') hf hg

end Related

theorem mapM_some_eq_ok {f : α → Except ε β} {a : α} {o : Option β}
    (h : (some a).mapM f = .ok o) : ∃ b, o = some b ∧ f a = .ok b := by
  replace h : some <$> f a = .ok o := h
  cases hf : f a with
  | error e =>
      rw [hf] at h
      cases h
  | ok b =>
      rw [hf] at h
      cases h
      exact ⟨b, rfl, rfl⟩

theorem mapM_eq_some {f : α → Except ε β} {o : Option α} {b : β} (h : o.mapM f = .ok (some b)) :
    ∃ a, o = some a ∧ f a = .ok b := by
  cases o with
  | none => cases h
  | some a =>
      obtain ⟨c, hc, hf⟩ := mapM_some_eq_ok h
      cases hc
      exact ⟨a, rfl, hf⟩

end Recast
