import Recast.Operation.Run
import Recast.Proofs.Number.Rounding

/-!
# The greatest element

Elements are ranked by doubles, and of equal ranks the first one wins. Among integers, those that
round alike have equal ranks: the result is found on the first element whose integer has the nearest
double of the greatest one.
-/

namespace Recast.Operation

open Json (Number Value)

variable {α : Type} {rank key : α → Int} {seen items : List α} {m g : α}

/-! ## First ones -/

/-- The first item that has a property. -/
def FirstWith (P : α → Prop) (items : List α) (m : α) : Prop :=
  ∃ before after, items = before ++ m :: after ∧ P m ∧ ∀ v ∈ before, ¬ P v

/-- The first of the items of the greatest rank: those before it have smaller ranks, and none behind
it has a greater one. -/
def FirstGreatest (rank : α → Int) (items : List α) (m : α) : Prop :=
  ∃ before after, items = before ++ m :: after ∧ (∀ v ∈ before, rank v < rank m) ∧
    ∀ v ∈ after, rank v ≤ rank m

/-- The greater of two items, the first one if their ranks are equal. -/
def greater (rank : α → Int) (m v : α) : α := if rank m < rank v then v else m

namespace FirstGreatest

theorem singleton (rank : α → Int) (v : α) : FirstGreatest rank [v] v :=
  ⟨[], [], rfl, by simp, by simp⟩

theorem mem (h : FirstGreatest rank items m) : m ∈ items := by
  obtain ⟨before, after, rfl, _⟩ := h
  simp

theorem le (h : FirstGreatest rank items m) : ∀ v ∈ items, rank v ≤ rank m := by
  obtain ⟨before, after, rfl, hbefore, hafter⟩ := h
  intro v hv
  rcases List.mem_append.mp hv with hv | hv
  · exact Int.le_of_lt (hbefore v hv)
  · rcases List.mem_cons.mp hv with rfl | hv
    · exact Int.le_refl _
    · exact hafter v hv

/-- One more item takes the place of the best one exactly if its rank is greater. -/
theorem step (h : FirstGreatest rank seen m) (v : α) :
    FirstGreatest rank (seen ++ [v]) (greater rank m v) := by
  unfold greater
  split
  · rename_i hlt
    exact ⟨seen, [], rfl, fun u hu => Int.lt_of_le_of_lt (h.le u hu) hlt, by simp⟩
  · rename_i hle
    obtain ⟨before, after, rfl, hbefore, hafter⟩ := h
    refine ⟨before, after ++ [v], by simp, hbefore, ?_⟩
    simpa [or_imp, forall_and] using ⟨hafter, Int.not_lt.mp hle⟩

theorem foldl (h : FirstGreatest rank seen m) (items : List α) :
    FirstGreatest rank (seen ++ items) (items.foldl (greater rank) m) := by
  induction items generalizing seen m with
  | nil => simpa using h
  | cons v items ih =>
      have hrest := ih (h.step v)
      rwa [List.append_assoc] at hrest

theorem exists_of_ne_nil (rank : α → Int) (h : items ≠ []) : ∃ m, FirstGreatest rank items m := by
  cases items with
  | nil => exact absurd rfl h
  | cons v items => exact ⟨_, (singleton rank v).foldl items⟩

/-- There is one such item only. -/
theorem unique (h : FirstGreatest rank items m) (h' : FirstGreatest rank items g) : m = g := by
  obtain ⟨before, after, hitems, hbefore, hafter⟩ := h
  obtain ⟨before', after', hitems', hbefore', hafter'⟩ := h'
  rw [hitems] at hitems'
  rcases List.append_eq_append_iff.mp hitems' with ⟨rest, hrest, hend⟩ | ⟨rest, hrest, hend⟩
  · cases rest with
    | nil => exact (List.cons.inj hend).1
    | cons u rest =>
        obtain ⟨rfl, rfl⟩ := List.cons.inj hend
        have hlt := hbefore' m (by simp [hrest])
        have hle := hafter g (by simp)
        omega
  · cases rest with
    | nil => exact (List.cons.inj hend).1.symm
    | cons u rest =>
        obtain ⟨rfl, rfl⟩ := List.cons.inj hend
        have hlt := hbefore g (by simp [hrest])
        have hle := hafter' m (by simp)
        omega

end FirstGreatest

/-! ## Integers ranked by their doubles -/

theorem natAbs_lt_of_integer {i : Int} (hl : Number.minInteger ≤ i) (hu : i ≤ Number.maxInteger) :
    i.natAbs < 2 ^ 64 := by
  have h63 : (Nat.pow 2 63 : Int) = 9223372036854775808 := rfl
  have h64 : (Nat.pow 2 64 : Int) = 18446744073709551616 := rfl
  rw [Number.minInteger, h63] at hl
  rw [Number.maxInteger, h64] at hu
  omega

/-- Of integers, the first one of the greatest rank is the first that rounds like the greatest. -/
theorem FirstGreatest.firstWith_ofInt (hkey : ∀ v ∈ items, (key v).natAbs < 2 ^ 64)
    (hg : FirstGreatest key items g)
    (hm : FirstGreatest (fun v => (Double.ofInt (key v)).signedUnits) items m) :
    FirstWith (fun v => Double.ofInt (key v) = Double.ofInt (key g)) items m := by
  have hmg : Double.ofInt (key m) = Double.ofInt (key g) := by
    have hle := Double.signedUnits_ofInt_mono (hkey m hm.mem) (hkey g hg.mem) (hg.le m hm.mem)
    rw [Double.ofInt_eq_ofInt_iff (hkey m hm.mem) (hkey g hg.mem)]
    exact Int.le_antisymm hle (hm.le g hg.mem)
  obtain ⟨before, after, hitems, hbefore, -⟩ := hm
  refine ⟨before, after, hitems, hmg, fun v hv hround => ?_⟩
  have hlt : (Double.ofInt (key v)).signedUnits < (Double.ofInt (key m)).signedUnits := hbefore v hv
  rw [hround, hmg] at hlt
  exact Int.lt_irrefl _ hlt

/-- That item is the first of the greatest integer exactly if its integer is the greatest. -/
theorem FirstWith.firstGreatest_iff (hg : FirstGreatest key items g)
    (hm : FirstWith (fun v => Double.ofInt (key v) = Double.ofInt (key g)) items m) :
    FirstGreatest key items m ↔ key m = key g := by
  constructor
  · intro hgreatest
    exact Int.le_antisymm (hg.le m hgreatest.mem) (hgreatest.le g hg.mem)
  · intro heq
    obtain ⟨before, after, rfl, -, hbefore⟩ := hm
    refine ⟨before, after, rfl, fun v hv => ?_, fun v hv => ?_⟩
    · have hle := hg.le v (by simp [hv])
      have hne : key v ≠ key g := fun hsame => hbefore v hv (congrArg Double.ofInt hsame)
      omega
    · rw [heq]
      exact hg.le v (by simp [hv])

/-! ## The loop -/

section Loop

variable {by_ result : Path} {ranks : Value → Double} {values : List Value} {best winner : Value}

/-- The best element so far gives way to a greater one. -/
theorem better_of_rank? {v : Value} (h : rank? by_ v = some (ranks v)) :
    better by_ (some (ranks best, best)) v =
      .ok (some (ranks (greater (fun v => (ranks v).signedUnits) best v),
        greater (fun v => (ranks v).signedUnits) best v)) := by
  unfold better greater
  rw [h]
  dsimp only
  simp only [Double.lt, decide_eq_true_eq]
  split <;> rfl

theorem foldlM_better (h : ∀ v ∈ values, rank? by_ v = some (ranks v)) :
    values.foldlM (better by_) (some (ranks best, best)) =
      .ok (some (ranks (values.foldl (greater fun v => (ranks v).signedUnits) best),
        values.foldl (greater fun v => (ranks v).signedUnits) best)) := by
  induction values generalizing best with
  | nil => rfl
  | cons v values ih =>
      obtain ⟨hv, hvalues⟩ := List.forall_mem_cons.mp h
      rw [List.foldlM_cons, better_of_rank? hv]
      exact ih hvalues

/-- What the path finds on an element, or that it finds nothing. -/
def foundOn (result : Path) (v : Value) : Except Error Value :=
  match result.first? v with
  | some found => .ok found
  | none => .error (.failed (.missingResult result))

/-- Where every element has a rank, the result is found on the first one of the greatest rank. -/
theorem run_max_of_ranks (h : ∀ v ∈ values, rank? by_ v = some (ranks v))
    (hw : FirstGreatest (fun v => (ranks v).signedUnits) values winner) :
    run (.max by_ result) (.array values) = foundOn result winner := by
  cases values with
  | nil => exact absurd hw.mem (by simp)
  | cons v values =>
      obtain ⟨hv, hvalues⟩ := List.forall_mem_cons.mp h
      have hfirst : better by_ none v = .ok (some (ranks v, v)) := by rw [better, hv]
      have hone := FirstGreatest.singleton (fun v => (ranks v).signedUnits) v
      have hgreatest := hone.foldl values
      show runMax by_ result (.array (v :: values)) = _
      rw [hw.unique hgreatest]
      show (List.foldlM (better by_) none (v :: values) >>= _) = _
      rw [List.foldlM_cons, hfirst]
      show (List.foldlM (better by_) (some (ranks v, v)) values >>= _) = _
      rw [foldlM_better hvalues]
      rfl

/-- Where a path finds integers of 64 bits on all elements, the result is found on the first element
whose integer has the nearest double of the greatest one. That is the first element of the greatest
integer exactly if its integer is the greatest, as it is among integers up to 2^53. -/
theorem run_max_of_integers {key : Value → Int} (hne : values ≠ [])
    (hkey : ∀ v ∈ values, by_.first? v = some (.number (.integer (key v))) ∧
      Number.minInteger ≤ key v ∧ key v ≤ Number.maxInteger) :
    ∃ greatest winner, FirstGreatest key values greatest ∧
      FirstWith (fun v => Double.ofInt (key v) = Double.ofInt (key greatest)) values winner ∧
      run (.max by_ result) (.array values) = foundOn result winner ∧
      (FirstGreatest key values winner ↔ key winner = key greatest) ∧
      ((∀ v ∈ values, (key v).natAbs ≤ 2 ^ 53) → key winner = key greatest) := by
  have hrank : ∀ v ∈ values, rank? by_ v = some (Double.ofInt (key v)) := by
    intro v hv
    rw [rank?, (hkey v hv).1]
    rfl
  have hbound : ∀ v ∈ values, (key v).natAbs < 2 ^ 64 := by
    intro v hv
    obtain ⟨-, hl, hu⟩ := hkey v hv
    exact natAbs_lt_of_integer hl hu
  obtain ⟨greatest, hg⟩ := FirstGreatest.exists_of_ne_nil key hne
  obtain ⟨winner, hw⟩ :=
    FirstGreatest.exists_of_ne_nil (fun v => (Double.ofInt (key v)).signedUnits) hne
  have hfirst := hg.firstWith_ofInt hbound hw
  refine ⟨greatest, winner, hg, hfirst, run_max_of_ranks hrank hw, hfirst.firstGreatest_iff hg, ?_⟩
  intro hsmall
  obtain ⟨_, _, _, hround, _⟩ := hfirst
  exact Double.eq_of_ofInt_eq (hsmall winner hw.mem) (hsmall greatest hg.mem) hround

end Loop

/-! ### Two elements -/

/-- The path of a member of an element. -/
def memberPath (name : String) : Path := ⟨.current, [.child name]⟩

/-- An element with a rate and a name. -/
def rated (rate : Int) (name : String) : Value :=
  .object [("rate", .number (.integer rate)), ("name", .string name)]

def rateOf (v : Value) : Int :=
  match v.field? "rate" with
  | some (.number (.integer i)) => i
  | _ => 0

theorem run_max_of_integers_tie :
    (∀ v ∈ [rated 1 "a", rated 3 "b", rated 3 "c"],
      (memberPath "rate").first? v = some (.number (.integer (rateOf v))) ∧
        Number.minInteger ≤ rateOf v ∧ rateOf v ≤ Number.maxInteger) ∧
    ∃ greatest winner, FirstGreatest rateOf [rated 1 "a", rated 3 "b", rated 3 "c"] greatest ∧
      FirstWith (fun v => Double.ofInt (rateOf v) = Double.ofInt (rateOf greatest))
        [rated 1 "a", rated 3 "b", rated 3 "c"] winner ∧
      run (.max (memberPath "rate") (memberPath "name"))
        (.array [rated 1 "a", rated 3 "b", rated 3 "c"]) = foundOn (memberPath "name") winner ∧
      (FirstGreatest rateOf [rated 1 "a", rated 3 "b", rated 3 "c"] winner ↔
        rateOf winner = rateOf greatest) ∧
      ((∀ v ∈ [rated 1 "a", rated 3 "b", rated 3 "c"], (rateOf v).natAbs ≤ 2 ^ 53) →
        rateOf winner = rateOf greatest) := by
  have hkey : ∀ v ∈ [rated 1 "a", rated 3 "b", rated 3 "c"],
      (memberPath "rate").first? v = some (.number (.integer (rateOf v))) ∧
        Number.minInteger ≤ rateOf v ∧ rateOf v ≤ Number.maxInteger := by
    simp only [List.forall_mem_cons]
    exact ⟨⟨rfl, by decide, by decide⟩, ⟨rfl, by decide, by decide⟩, ⟨rfl, by decide, by decide⟩,
      by simp⟩
  exact ⟨hkey, run_max_of_integers (by simp) hkey⟩

/-- The second element has the greater integer, but the same nearest double as the first. -/
theorem run_max_of_integers_neighbours :
    FirstGreatest rateOf [rated 9007199254740992 "a", rated 9007199254740993 "b"]
        (rated 9007199254740993 "b") ∧
      (memberPath "name").first? (rated 9007199254740993 "b") = some (.string "b") ∧
      run (.max (memberPath "rate") (memberPath "name"))
        (.array [rated 9007199254740992 "a", rated 9007199254740993 "b"]) = .ok (.string "a") := by
  have hround : Double.ofInt 9007199254740993 = Double.ofInt 9007199254740992 := by decide +kernel
  have hfirst : FirstGreatest (fun v => (Double.ofInt (rateOf v)).signedUnits)
      [rated 9007199254740992 "a", rated 9007199254740993 "b"] (rated 9007199254740992 "a") := by
    refine ⟨[], [rated 9007199254740993 "b"], rfl, by simp, ?_⟩
    simp only [List.forall_mem_singleton]
    exact Int.le_of_eq (congrArg Double.signedUnits hround)
  refine ⟨⟨[rated 9007199254740992 "a"], [], rfl, ?_, by simp⟩, rfl, run_max_of_ranks ?_ hfirst⟩
  · simp only [List.forall_mem_singleton]
    decide
  · simp only [List.forall_mem_cons]
    exact ⟨rfl, rfl, by simp⟩

end Recast.Operation
