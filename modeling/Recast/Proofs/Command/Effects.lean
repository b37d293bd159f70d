import Recast.Proofs.Command.Running

/-!
# Effects of commands

A command that fails has changed no file and printed nothing. One that succeeds has printed its
document or report, or written one file; a command that makes a file of settings spares a file that
its name leads to from the start.
-/

namespace Recast.Command

open Storage (Folder)
open Text.Utf8 (encode)

variable {before d : Desk}

/-! ## Transforming -/

/-- The document that a transformation gives at a desk. -/
def TransformArguments.Gives (a : TransformArguments) (s : Settings) (d : Desk)
    (document : String) : Prop :=
  ∃ ruleSet schema transformer raw plain,
    a.wantedRuleSet s = .ok ruleSet ∧
    Schema.readFile a.schema (d.folder.read a.schema) = .ok schema ∧
    Transformer.ofSchema schema ruleSet = .ok transformer ∧
    d.Holds a.input raw ∧
    (a.prepare s transformer).transform raw = .ok plain ∧
    a.layOut s plain = .ok document

/-- A document was printed, or else written to the file that was asked for. -/
def Desk.Delivered (d : Desk) (output : Option String) (document : String) (after : Desk) : Prop :=
  match output with
  | none => d.folder.SameFiles after.folder ∧ after.printed = d.printed ++ (document ++ "\n")
  | some path => after.printed = d.printed ∧ ∃ route, d.folder.route path = .ok route ∧
      d.folder.Written after.folder route (encode document)

theorem ends_deliver (hfolder : d.folder = before.folder) (hprinted : d.printed = before.printed)
    (output : Option String) (isQuiet : Bool) (document : String) :
    Ends before (deliver output isQuiet document) d fun _ after =>
      before.Delivered output document after := by
  have hk : before.Kept d := ⟨hfolder ▸ .refl _, hprinted⟩
  cases output with
  | none =>
      refine (ends_printLine document).imp ?_
      rintro _ _ rfl
      exact ⟨hk.files, congrArg (· ++ (document ++ "\n")) hprinted⟩
  | some path =>
      rw [deliver, ← bind_assoc]
      refine (ends_write hk path document).bind ?_
      rintro _ _ ⟨folder, hwrite, rfl⟩
      refine (ends_report isQuiet _).imp ?_
      rintro _ _ ⟨remarks, rfl⟩
      obtain ⟨route, hroute, _, hwritten⟩ := Folder.write_eq_ok (hfolder ▸ hwrite)
      exact ⟨hprinted, route, hroute, hwritten⟩

theorem ends_transform (a : TransformArguments) (s : Settings) (isQuiet : Bool) :
    Ends d (transform a s isQuiet) d fun _ after =>
      ∃ document, a.Gives s d document ∧ d.Delivered a.output document after := by
  refine (ends_orFail (.refl d) _ _).bind ?_
  rintro ruleSet _ ⟨rfl, hruleSet⟩
  refine (ends_loadSchema (.refl d) a.schema).bind ?_
  rintro schema _ ⟨rfl, hschema⟩
  refine (ends_orFail (.refl d) _ _).bind ?_
  rintro transformer _ ⟨rfl, htransformer⟩
  -- A warning may come first; it is a remark and changes nothing that is read later.
  have hrest : ∀ remarks, Ends d (do
      let raw ← readInput a.input
      let document ← orFail .transform ((a.prepare s transformer).transform raw)
      deliver a.output isQuiet (← orFail .json (a.layOut s document))) { d with remarks }
      fun _ after => ∃ document, a.Gives s d document ∧ d.Delivered a.output document after := by
    intro remarks
    have hk : d.Kept { d with remarks } := ⟨.refl _, rfl⟩
    refine (ends_readInput hk a.input).bind ?_
    rintro raw read ⟨hfolder, hprinted, hraw⟩
    change read.folder = d.folder at hfolder
    change read.printed = d.printed at hprinted
    have hk : d.Kept read := ⟨hfolder ▸ .refl _, hprinted⟩
    refine (ends_orFail hk _ _).bind ?_
    rintro plain _ ⟨rfl, hplain⟩
    refine (ends_orFail hk _ _).bind ?_
    rintro document _ ⟨rfl, hdocument⟩
    refine (ends_deliver hfolder hprinted a.output isQuiet document).imp fun _ after h => ?_
    exact ⟨document, ⟨ruleSet, schema, transformer, raw, plain, hruleSet, hschema, htransformer,
      hraw, hplain, hdocument⟩, h⟩
  dsimp only
  split
  · refine (ends_remark _).bind ?_
    rintro _ _ ⟨remarks, rfl⟩
    exact hrest remarks
  · exact hrest d.remarks

/-! ## Checking and showing -/

theorem ends_printLines {α : Type} (line : α → String) (as : List α) :
    Ends before (as.forM fun a => printLine (line a)) d fun _ after =>
      after.folder = d.folder := by
  induction as generalizing d with
  | nil => exact .ok rfl rfl
  | cons a as ih =>
      refine Ends.bind (ends_printLine (line a)) ?_
      rintro _ _ rfl
      exact ih

theorem ends_check (a : CheckArguments) (isQuiet : Bool) :
    Ends d (check a isQuiet) d fun _ after => after.folder = d.folder := by
  refine (ends_loadSchema (.refl d) a.schema).bind ?_
  rintro schema _ ⟨rfl, -⟩
  refine (ends_orFail (.refl d) _ _).bind ?_
  rintro descriptor _ ⟨rfl, -⟩
  have hrest : Ends d (do
      let _ ← orFail .transform (Transformer.ofDescriptor descriptor (a.ruleSet.getD ""))
      report isQuiet ("✓ Schema " ++ a.schema ++ " is valid")
      printLine ("instances: " ++ toString descriptor.instances.length)
      printLine ("rule sets: " ++ if descriptor.ruleSets.isEmpty then "(none)"
        else Text.joinWith ", " descriptor.ruleSets)
      if a.isDetailed then
        descriptor.instances.forM fun i => printLine (describe i a.ruleSet)) d
      fun _ after => after.folder = d.folder := by
    refine (ends_orFail (.refl d) _ _).bind ?_
    rintro _ _ ⟨rfl, -⟩
    refine (ends_report isQuiet _).bind ?_
    rintro _ _ ⟨remarks, rfl⟩
    refine (ends_printLine _).bind ?_
    rintro _ _ rfl
    refine (ends_printLine _).bind ?_
    rintro _ _ rfl
    split
    · exact ends_printLines (describe · a.ruleSet) descriptor.instances
    · exact .ok rfl rfl
  dsimp only
  split
  · split
    · exact .error rfl (.refl d)
    · exact hrest
  · exact hrest

/-! ## Making settings -/

/-- A file of settings was made, or all files are as before. Where a name leads from the start, only a
command that is to overwrite files makes one in the place of another. -/
def Desk.Initialized (d : Desk) (path : String) (isForced : Bool) (after : Desk) : Prop :=
  after.printed = d.printed ∧
    (d.folder.SameFiles after.folder ∨
      ∃ format route, Settings.FileFormat.ofPath path = .ok format ∧
        after.folder.route path = .ok route ∧
        d.folder.Written after.folder route (encode (Settings.standard.write format)) ∧
        (isForced = true ∨ ∀ start, d.folder.route path = .ok start →
          start = route ∧ d.folder.content? route = none))

theorem ends_initSettings (path : String) (isForced isQuiet : Bool) :
    Ends d (initSettings path isForced isQuiet) d fun _ after =>
      d.Initialized path isForced after := by
  refine (ends_contains path).bind ?_
  rintro isThere _ ⟨rfl, hisThere⟩
  split
  · refine (ends_remark _).imp ?_
    rintro _ _ ⟨remarks, rfl⟩
    exact ⟨rfl, Or.inl (.refl _)⟩
  · rename_i hfree
    refine (ends_orFail (.refl d) _ _).bind ?_
    rintro format _ ⟨rfl, hformat⟩
    rw [← bind_assoc]
    refine (ends_makeParent (.refl d) path).bind ?_
    rintro _ _ ⟨grown, hgrown, rfl⟩
    obtain ⟨hsame, hextends⟩ := Folder.makeParent_eq_ok hgrown
    rw [← bind_assoc]
    have hk : d.Kept { d with folder := grown } := ⟨hsame, rfl⟩
    refine (ends_write hk path _).bind ?_
    rintro _ _ ⟨folder, hwrite, rfl⟩
    refine (ends_report isQuiet _).imp ?_
    rintro _ _ ⟨remarks, rfl⟩
    obtain ⟨route, hroute, hafter, hwritten⟩ := Folder.write_eq_ok hwrite
    refine ⟨rfl, Or.inr ⟨format, route, hformat, hafter, hsame.written hwritten, ?_⟩⟩
    cases isForced with
    | true => exact Or.inl rfl
    | false =>
        refine Or.inr fun start hstart => ?_
        -- The folders on the way were there, so the first look was at the place that is written.
        have heq := (hextends.route_eq_ok hstart).symm.trans hroute
        obtain rfl := Except.ok.inj heq
        have habsent : d.folder.contains path = false := by simpa [hisThere] using hfree
        exact ⟨rfl, Folder.content?_of_not_contains habsent hstart⟩

/-! ## Command lines -/

/-- The settings that count at a desk. -/
def Desk.settings (e : Settings.Environment) (userFolder file : Option String) (d : Desk) :
    Except Failure Settings :=
  ((effectiveSettings (m := StateM Desk) e userFolder file).run d).1

/-- A command line fails without an effect, or its only effects are that its document or report is
printed and that its one file is written. -/
theorem run_effects (e : Settings.Environment) (userFolder : Option String) (i : Invocation)
    (d : Desk) :
    match Desk.run e userFolder i d with
    | (.error _, after) => d.Kept after
    | (.ok (), after) => match i.action with
      | .transform a => ∃ s document, d.settings e userFolder i.settingsFile = .ok s ∧
          a.Gives s d document ∧ d.Delivered a.output document after
      | .check _ | .showSettings _ => d.folder.SameFiles after.folder
      | .initSettings path isForced => d.Initialized path isForced after := by
  have hsettings := ends_effectiveSettings (.refl d) e userFolder i.settingsFile
  have h : Ends d (i.run e userFolder) d fun _ after => match i.action with
      | .transform a => ∃ s document, d.settings e userFolder i.settingsFile = .ok s ∧
          a.Gives s d document ∧ d.Delivered a.output document after
      | .check _ | .showSettings _ => d.folder.SameFiles after.folder
      | .initSettings path isForced => d.Initialized path isForced after := by
    refine hsettings.of_run.bind ?_
    rintro s _ ⟨hs, rfl⟩
    cases i.action with
    | transform a =>
        refine (ends_transform a s i.isQuiet).imp fun _ after => ?_
        rintro ⟨document, hgives, hdelivered⟩
        exact ⟨s, document, congrArg Prod.fst hs, hgives, hdelivered⟩
    | check a => exact (ends_check a i.isQuiet).imp fun _ after h => h ▸ .refl _
    | initSettings path isForced => exact ends_initSettings path isForced i.isQuiet
    | showSettings format =>
        refine (ends_printLine _).imp ?_
        rintro _ _ rfl
        exact .refl _
  cases hrun : Desk.run e userFolder i d with
  | mk result after =>
      cases result with
      | error failed => exact h.failure hrun
      | ok => exact h.result hrun

/-- A file is lost when its name leads to it only through a folder that is made on the way. -/
theorem run_effects_overwritten :
    ∃ i, Invocation.read [] ["config", "init", "a/../s.json"] = .ok i ∧
      i.action = .initSettings "a/../s.json" false ∧
      let before : Desk := ⟨⟨[(["s.json"], encode "\x7b\x7d")], [], []⟩, [], "", ""⟩
      let after := (Desk.run [] none i before).2
      (Desk.run [] none i before).1.toOption = some () ∧
        after.folder.content? ["s.json"] ≠ before.folder.content? ["s.json"] := by
  refine ⟨_, rfl, rfl, ?_, ?_⟩
  · rfl
  · decide +kernel

end Recast.Command
