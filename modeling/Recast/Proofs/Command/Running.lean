import Recast.Command.Run
import Recast.Proofs.Storage.Folder

/-!
# Commands at a desk

A computation at a desk ends with a property, or it fails and has changed no file and printed
nothing. The property of a sequence is found step by step, and most steps only look at the desk.
-/

namespace Recast.Command

open Storage (Folder Trouble)
open Surroundings

variable {α β ε : Type} {before d : Desk} {x : ExceptT Failure (StateM Desk) α}
variable {f : α → ExceptT Failure (StateM Desk) β} {P : α → Desk → Prop} {Q : β → Desk → Prop}

/-! ## Failing without an effect -/

/-- The files are the same, and nothing more was printed. -/
structure Desk.Kept (before after : Desk) : Prop where
  files : before.folder.SameFiles after.folder
  printed : after.printed = before.printed

theorem Desk.Kept.refl (d : Desk) : d.Kept d := ⟨.refl _, rfl⟩

/-- A computation gives a result with a property, or it fails and the desk is as before. -/
structure Ends (before : Desk) (x : ExceptT Failure (StateM Desk) α) (d : Desk)
    (P : α → Desk → Prop) : Prop where
  result : ∀ {a : α} {after : Desk}, x.run d = (.ok a, after) → P a after
  failure : ∀ {failed : Failure} {after : Desk}, x.run d = (.error failed, after) →
    before.Kept after

theorem Ends.ok {a : α} {after : Desk} (hrun : x.run d = (.ok a, after)) (h : P a after) :
    Ends before x d P where
  result := by
    intro a' after' hrun'
    cases hrun.symm.trans hrun'
    exact h
  failure := by
    intro failed after' hrun'
    cases hrun.symm.trans hrun'

theorem Ends.error {failed : Failure} {after : Desk} (hrun : x.run d = (.error failed, after))
    (h : before.Kept after) : Ends before x d P where
  result := by
    intro a after' hrun'
    cases hrun.symm.trans hrun'
  failure := by
    intro failed' after' hrun'
    cases hrun.symm.trans hrun'
    exact h

theorem Ends.bind (hx : Ends before x d P) (hf : ∀ a after, P a after → Ends before (f a) after Q) :
    Ends before (x >>= f) d Q := by
  cases hrun : x.run d with
  | mk result after =>
      cases result with
      | ok a =>
          have hnext := hf a after (hx.result hrun)
          exact ⟨fun h => hnext.result (run_bind_of_ok hrun ▸ h),
            fun h => hnext.failure (run_bind_of_ok hrun ▸ h)⟩
      | error failed => exact .error (run_bind_of_error hrun) (hx.failure hrun)

theorem Ends.imp {P' : α → Desk → Prop} (hx : Ends before x d P)
    (h : ∀ a after, P a after → P' a after) : Ends before x d P' :=
  ⟨fun hrun => h _ _ (hx.result hrun), hx.failure⟩

theorem Ends.of_run (hx : Ends before x d P) :
    Ends before x d fun a after => x.run d = (.ok a, after) ∧ P a after :=
  ⟨fun hrun => ⟨hrun, hx.result hrun⟩, hx.failure⟩

/-! ## Looking -/

theorem ends_orFail (hk : before.Kept d) (failed : ε → Failure) (r : Except ε α) :
    Ends before (orFail failed r) d fun a after => d = after ∧ r = .ok a := by
  cases r with
  | ok a => exact .ok rfl ⟨rfl, rfl⟩
  | error e => exact .error rfl hk

theorem ends_contains (path : String) :
    Ends before (contains path) d fun isThere after =>
      d = after ∧ isThere = d.folder.contains path :=
  .ok rfl ⟨rfl, rfl⟩

theorem ends_readText (path : String) :
    Ends before (readText path) d fun content after =>
      d = after ∧ content = d.folder.read path :=
  .ok rfl ⟨rfl, rfl⟩

theorem ends_readBytes (path : String) :
    Ends before (readBytes path) d fun content after =>
      d = after ∧ content = d.folder.readBytes path :=
  .ok rfl ⟨rfl, rfl⟩

theorem ends_needFile (hk : before.Kept d) (path : String) :
    Ends before (needFile path) d fun _ after => d = after := by
  refine (ends_contains path).bind ?_
  rintro isThere _ ⟨rfl, -⟩
  cases isThere with
  | true => exact .ok rfl rfl
  | false => exact .error rfl hk

theorem ends_loadSchema (hk : before.Kept d) (path : String) :
    Ends before (loadSchema path) d fun schema after =>
      d = after ∧ Schema.readFile path (d.folder.read path) = .ok schema := by
  refine (ends_needFile hk path).bind ?_
  rintro _ _ rfl
  refine (ends_readText path).bind ?_
  rintro _ _ ⟨rfl, rfl⟩
  exact ends_orFail hk _ _

/-- The bytes that a name stands for at a desk. -/
def Desk.Holds (d : Desk) (path : String) (raw : List UInt8) : Prop :=
  if Storage.Location.isStandardInput path then raw = d.input
  else d.folder.readBytes path = .ok raw

theorem ends_readInput (hk : before.Kept d) (path : String) :
    Ends before (readInput path) d fun raw after =>
      after.folder = d.folder ∧ after.printed = d.printed ∧ d.Holds path raw := by
  unfold readInput
  split
  · rename_i hinput
    exact .ok rfl ⟨rfl, rfl, by rw [Desk.Holds, if_pos hinput]⟩
  · rename_i hfile
    refine (ends_needFile hk path).bind ?_
    rintro _ _ rfl
    refine (ends_readBytes path).bind ?_
    rintro _ _ ⟨rfl, rfl⟩
    refine (ends_orFail hk _ _).imp ?_
    rintro raw _ ⟨rfl, hraw⟩
    exact ⟨rfl, rfl, by rwa [Desk.Holds, if_neg hfile]⟩

theorem ends_readSettings (hk : before.Kept d) (path : String) :
    Ends before (readSettings path) d fun _ after => d = after := by
  refine (ends_readText path).bind ?_
  rintro content _ ⟨rfl, -⟩
  exact (ends_orFail hk _ _).imp fun _ _ h => h.1

theorem ends_findSettings (hk : before.Kept d) (paths : List String) :
    Ends before (findSettings paths) d fun _ after => d = after := by
  induction paths with
  | nil => exact .ok rfl rfl
  | cons path paths ih =>
      refine (ends_contains path).bind ?_
      rintro isThere _ ⟨rfl, -⟩
      cases isThere with
      | true => exact ends_readSettings hk path
      | false => exact ih

theorem ends_effectiveSettings (hk : before.Kept d) (e : Settings.Environment)
    (userFolder file : Option String) :
    Ends before (effectiveSettings e userFolder file) d fun _ after => d = after := by
  have hchanged : ∀ s after, d = after →
      Ends before (orFail .settings (Settings.overridden s e)) after fun _ after => d = after := by
    rintro s _ rfl
    exact (ends_orFail hk _ _).imp fun _ _ h => h.1
  cases file with
  | some path => exact (ends_readSettings hk path).bind hchanged
  | none => exact (ends_findSettings hk _).bind hchanged

/-! ## Effects -/

theorem ends_change (hk : before.Kept d) (change : Folder → Except Trouble Folder) :
    Ends before (ExceptT.lift (Desk.change change) >>= orFail .storage) d fun _ after =>
      ∃ folder, change d.folder = .ok folder ∧ after = { d with folder } := by
  have hrun : (ExceptT.lift (Desk.change change) :
      ExceptT Failure (StateM Desk) (Except Trouble Unit)).run d =
      (.ok (Desk.change change d).1, (Desk.change change d).2) := rfl
  unfold Desk.change at hrun
  cases hfolder : change d.folder with
  | ok folder =>
      rw [hfolder] at hrun
      exact .ok (run_bind_of_ok hrun) ⟨folder, rfl, rfl⟩
  | error trouble =>
      rw [hfolder] at hrun
      exact .error (run_bind_of_ok hrun) hk

theorem ends_write (hk : before.Kept d) (path content : String) :
    Ends before (do orFail .storage (← write path content)) d fun _ after =>
      ∃ folder, d.folder.write path content = .ok folder ∧ after = { d with folder } :=
  ends_change hk fun f => f.write path content

theorem ends_makeParent (hk : before.Kept d) (path : String) :
    Ends before (do orFail .storage (← makeParent path)) d fun _ after =>
      ∃ folder, d.folder.makeParent path = .ok folder ∧ after = { d with folder } :=
  ends_change hk fun f => f.makeParent path

theorem ends_remark (s : String) :
    Ends before (remark s) d fun _ after => ∃ remarks, after = { d with remarks } :=
  .ok rfl ⟨_, rfl⟩

theorem ends_report (isQuiet : Bool) (s : String) :
    Ends before (report isQuiet s) d fun _ after => ∃ remarks, after = { d with remarks } := by
  cases isQuiet with
  | true => exact .ok rfl ⟨d.remarks, rfl⟩
  | false => exact ends_remark _

theorem ends_printLine (s : String) :
    Ends before (printLine s) d fun _ after =>
      after = { d with printed := d.printed ++ (s ++ "\n") } :=
  .ok rfl rfl

end Recast.Command
