import Mathlib.Data.Finset.Card
import Recast.Schema.File
import Recast.Proofs.Outcome

/-!
# Libraries over time

Files change while a library is in use. A schema stays as its first load since the last clearing found
it; a load that fails leaves no trace.
-/

namespace Recast.Schema

open Json (Value)
open Storage

variable {path : String} {content : Except Trouble String} {v : Value} {fault : FileFault}
variable {folder : Folder} {l : Library}

/-! ## Files -/

/-- A file is a schema: its name tells a format in which its text is an object. -/
def IsSchemaFile (path : String) (content : Except Trouble String) (v : Value) : Prop :=
  ∃ format text, FileFormat.ofPath? path = some format ∧ content = .ok text ∧
    format.parse text = .ok v ∧ v.isObject = true

theorem readFile_eq_ok_iff : readFile path content = .ok v ↔ IsSchemaFile path content v := by
  constructor
  · intro h
    unfold readFile at h
    split at h
    · cases h
    · cases h
    · rename_i format text hformat
      obtain ⟨⟨format', w⟩, hfile, h⟩ := bind_eq_ok h
      unfold parseFile at hfile
      rw [hformat] at hfile
      dsimp only at hfile h
      split at hfile
      · rename_i hparse
        cases hfile
        split at h
        · rename_i hobject
          cases h
          exact ⟨format, text, hformat, rfl, hparse, hobject⟩
        · cases h
      · cases hfile
  · rintro ⟨format, text, hformat, rfl, hparse, hobject⟩
    simp [readFile, parseFile, hformat, hparse, hobject, bind, Except.bind]

namespace Library

/-! ## Loads -/

/-- A name has a schema in the library, or else it gets the one that its file holds, if it holds one. -/
theorem load_cases (l : Library) (folder : Folder) (path : String) :
    (∃ v, l.loaded.lookup (Location.parts path) = some v ∧ l.load folder path = (.ok v, l)) ∨
      l.loaded.lookup (Location.parts path) = none ∧
        ((∃ v, readFile path (folder.read path) = .ok v ∧
            l.load folder path = (.ok v, ⟨(Location.parts path, v) :: l.loaded⟩)) ∨
          ∃ fault, readFile path (folder.read path) = .error fault ∧
            l.load folder path = (.error fault, l)) := by
  unfold load
  cases l.loaded.lookup (Location.parts path) with
  | some v => exact Or.inl ⟨v, rfl, rfl⟩
  | none =>
      refine Or.inr ⟨rfl, ?_⟩
      cases readFile path (folder.read path) with
      | ok v => exact Or.inl ⟨v, rfl, rfl⟩
      | error fault => exact Or.inr ⟨fault, rfl, rfl⟩

theorem load_of_error (h : (l.load folder path).1 = .error fault) : (l.load folder path).2 = l := by
  obtain ⟨v, _, hload⟩ | ⟨_, ⟨v, _, hload⟩ | ⟨fault', _, hload⟩⟩ := load_cases l folder path
  · rw [hload] at h
    cases h
  · rw [hload] at h
    cases h
  · rw [hload]

/-- A load that was made, and what it gave. -/
structure Load where
  path : String
  result : Except FileFault Value

/-- The schema that a load found for the name with certain parts. -/
def Load.found? (parts : List String) (made : Load) : Option Value :=
  if Location.parts made.path = parts then made.result.toOption else none

/-- The schema that the first successful one of some loads found. -/
def firstFound? (parts : List String) (loads : List Load) : Option Value :=
  loads.findSome? (Load.found? parts)

/-- The names, by their parts, that some loads found a schema for. -/
def foundNames (loads : List Load) : Finset (List String) :=
  ((loads.filter fun made => made.result.toOption.isSome).map fun made =>
    Location.parts made.path).toFinset

theorem mem_foundNames_iff {parts : List String} {loads : List Load} :
    parts ∈ foundNames loads ↔ (firstFound? parts loads).isSome = true := by
  simp only [foundNames, List.mem_toFinset, List.mem_map, List.mem_filter, firstFound?,
    List.findSome?_isSome_iff]
  constructor
  · rintro ⟨made, ⟨hmem, hsome⟩, rfl⟩
    exact ⟨made, hmem, by simpa [Load.found?] using hsome⟩
  · rintro ⟨made, hmem, hsome⟩
    unfold Load.found? at hsome
    split at hsome
    · rename_i hparts
      exact ⟨made, ⟨hmem, hsome⟩, hparts⟩
    · cases hsome

theorem firstFound?_append (parts : List String) (loads : List Load) (made : Load) :
    firstFound? parts (loads ++ [made]) = (firstFound? parts loads).or (made.found? parts) := by
  simp [firstFound?, List.findSome?_append]

/-- After a load every name has the schema it had, or else the one that the load found for it. -/
theorem lookup_load (l : Library) (folder : Folder) (path : String) (parts : List String) :
    (l.load folder path).2.loaded.lookup parts =
      (l.loaded.lookup parts).or (Load.found? parts ⟨path, (l.load folder path).1⟩) := by
  obtain ⟨v, hlookup, hload⟩ | ⟨hlookup, ⟨v, _, hload⟩ | ⟨fault, _, hload⟩⟩ :=
    load_cases l folder path
  · rw [hload, Load.found?]
    by_cases hparts : Location.parts path = parts
    · rw [if_pos hparts, ← hparts, hlookup]
      rfl
    · rw [if_neg hparts, Option.or_none]
  · rw [hload, Load.found?, List.lookup_cons]
    by_cases hparts : Location.parts path = parts
    · rw [if_pos hparts, ← hparts, hlookup, BEq.rfl]
      rfl
    · rw [if_neg hparts, Option.or_none, beq_eq_false_iff_ne.mpr (Ne.symm hparts)]
  · rw [hload, Load.found?]
    split <;> exact Option.or_none.symm

theorem nodup_load (h : (l.loaded.map Prod.fst).Nodup) (folder : Folder) (path : String) :
    ((l.load folder path).2.loaded.map Prod.fst).Nodup := by
  obtain ⟨v, _, hload⟩ | ⟨hlookup, ⟨v, _, hload⟩ | ⟨fault, _, hload⟩⟩ := load_cases l folder path
  · rw [hload]
    exact h
  · rw [hload, List.map_cons, List.nodup_cons]
    refine ⟨fun hmem => ?_, h⟩
    obtain ⟨entry, hentry, hname⟩ := List.mem_map.mp hmem
    have hne := List.lookup_eq_none_iff.mp hlookup entry hentry
    exact bne_iff_ne.mp hne hname.symm
  · rw [hload]
    exact h

/-! ## Sessions -/

/-- What happens around a library: files change in some way, a schema is loaded, or the library is
cleared. -/
inductive Event where
  | edit (change : Folder → Folder)
  | load (path : String)
  | clear

/-- A file is written, with the folders it needs, unless that fails. -/
def Event.write (path content : String) : Event :=
  .edit fun folder => (folder.place path content).toOption.getD folder

def Event.remove (path : String) : Event := .edit fun folder => folder.remove path

/-- A library with the folder that it reads from, and the loads since it was cleared, in order. -/
structure Session where
  folder : Folder
  library : Library
  loads : List Load

namespace Session

variable {s : Session}

def start (folder : Folder) : Session := ⟨folder, .empty, []⟩

def load (s : Session) (path : String) : Except FileFault Value × Library :=
  s.library.load s.folder path

def step (s : Session) : Event → Session
  | .edit change => { s with folder := change s.folder }
  | .load path => ⟨s.folder, (s.load path).2, s.loads ++ [⟨path, (s.load path).1⟩]⟩
  | .clear => { s with library := .empty, loads := [] }

def run (s : Session) (events : List Event) : Session := events.foldl step s

/-- The library has every name once, with the schema that was found for it first. -/
structure Remembers (s : Session) : Prop where
  lookup_eq : ∀ parts, s.library.loaded.lookup parts = firstFound? parts s.loads
  nodup : (s.library.loaded.map Prod.fst).Nodup

theorem remembers_start (folder : Folder) : (start folder).Remembers := ⟨fun _ => rfl, List.nodup_nil⟩

theorem Remembers.step (h : s.Remembers) (event : Event) : (s.step event).Remembers := by
  cases event with
  | edit change => exact ⟨h.lookup_eq, h.nodup⟩
  | clear => exact ⟨fun _ => rfl, List.nodup_nil⟩
  | load path =>
      refine ⟨fun parts => ?_, nodup_load h.nodup s.folder path⟩
      calc (s.load path).2.loaded.lookup parts
          = (s.library.loaded.lookup parts).or (Load.found? parts ⟨path, (s.load path).1⟩) :=
            lookup_load s.library s.folder path parts
        _ = (firstFound? parts s.loads).or (Load.found? parts ⟨path, (s.load path).1⟩) := by
            rw [h.lookup_eq]
        _ = firstFound? parts (s.loads ++ [⟨path, (s.load path).1⟩]) :=
            (firstFound?_append _ _ _).symm

theorem Remembers.run (h : s.Remembers) (events : List Event) : (s.run events).Remembers := by
  induction events generalizing s with
  | nil => exact h
  | cons event events ih => exact ih (h.step event)

theorem Remembers.load_fst (h : s.Remembers) (path : String) :
    (s.load path).1 = match firstFound? (Location.parts path) s.loads with
      | some v => .ok v
      | none => readFile path (s.folder.read path) := by
  rw [← h.lookup_eq]
  obtain ⟨v, hlookup, hload⟩ | ⟨hlookup, ⟨v, hread, hload⟩ | ⟨fault, hread, hload⟩⟩ :=
    load_cases s.library s.folder path
  · rw [Session.load, hload, hlookup]
  · rw [Session.load, hload, hlookup, hread]
  · rw [Session.load, hload, hlookup, hread]

theorem Remembers.size_eq (h : s.Remembers) : s.library.size = (foundNames s.loads).card := by
  have hnames : (s.library.loaded.map Prod.fst).toFinset = foundNames s.loads := by
    ext parts
    rw [mem_foundNames_iff, ← h.lookup_eq, List.lookup_isSome_iff]
    simp only [List.mem_toFinset, List.mem_map, beq_iff_eq, @eq_comm _ parts]
  rw [← hnames, List.toFinset_card_of_nodup h.nodup, List.length_map, size]

/-- Sessions that have the same folder and the same library go on alike, whatever was loaded. -/
theorem run_congr {t : Session} (hfolder : s.folder = t.folder) (hlibrary : s.library = t.library)
    (events : List Event) :
    (s.run events).folder = (t.run events).folder ∧
      (s.run events).library = (t.run events).library := by
  induction events generalizing s t with
  | nil => exact ⟨hfolder, hlibrary⟩
  | cons event events ih =>
      cases event with
      | edit change => exact ih (congrArg change hfolder) hlibrary
      | clear => exact ih hfolder rfl
      | load path =>
          refine ih hfolder ?_
          show (s.library.load s.folder path).2 = (t.library.load t.folder path).2
          rw [hfolder, hlibrary]

/-- After any events a load gives the schema that the first successful load of the name found since
the library was cleared. Where there was none, it gives the schema that the file holds now, or fails,
and then everything goes on as if it had not been made. The library always counts the names that were
found. -/
theorem run_load (folder : Folder) (events : List Event) (path : String) :
    let s := (start folder).run events
    (∀ v, firstFound? (Location.parts path) s.loads = some v → (s.load path).1 = .ok v) ∧
      (firstFound? (Location.parts path) s.loads = none →
        ∀ v, (s.load path).1 = .ok v ↔ IsSchemaFile path (s.folder.read path) v) ∧
      (∀ fault, (s.load path).1 = .error fault → (s.load path).2 = s.library ∧
        ∀ later, ((s.step (.load path)).run later).folder = (s.run later).folder ∧
          ((s.step (.load path)).run later).library = (s.run later).library) ∧
      s.library.size = (foundNames s.loads).card := by
  intro s
  have h : s.Remembers := (remembers_start folder).run events
  refine ⟨fun v hfirst => ?_, fun hfirst v => ?_, fun fault hfault => ?_, h.size_eq⟩
  · rw [h.load_fst, hfirst]
  · rw [h.load_fst, hfirst]
    exact readFile_eq_ok_iff
  · have hsame : (s.load path).2 = s.library := load_of_error hfault
    exact ⟨hsame, run_congr rfl hsame⟩

/-- A file that is no JSON at first, then a schema that is loaded by another spelling of its name, and
then gone. -/
def removed : List Event := [
  .write "d/s.json" "\x7b", .load "d/s.json", .write "d/s.json" "\x7b\x7d", .load "d//s.json",
  .remove "d/s.json"]

theorem run_load_removed :
    let s := (start .empty).run removed
    s.loads.map (fun made => made.result.toOption) = [none, some (.object [])] ∧
    (firstFound? (Location.parts "d/s.json") s.loads = some (.object []) ∧
      (s.load "d/s.json").1 = .ok (.object [])) ∧
    (firstFound? (Location.parts "t.json") s.loads = none ∧
      (s.load "t.json").1 = .error ⟨"t.json", .unreadable .notFound⟩ ∧
      (s.load "t.json").2 = s.library ∧
      ¬ IsSchemaFile "t.json" (s.folder.read "t.json") (.object [])) ∧
    s.library.size = 1 ∧ (foundNames s.loads).card = 1 := by
  intro s
  have hfirst : firstFound? (Location.parts "d/s.json") s.loads = some (.object []) := by
    decide +kernel
  have hnone : firstFound? (Location.parts "t.json") s.loads = none := by decide +kernel
  have hfault : (s.load "t.json").1 = .error ⟨"t.json", .unreadable .notFound⟩ := by
    decide +kernel
  have hsize : s.library.size = 1 := by decide +kernel
  obtain ⟨hkept, -, -, hcount⟩ := run_load .empty removed "d/s.json"
  obtain ⟨-, hread, hfailed, -⟩ := run_load .empty removed "t.json"
  refine ⟨by decide +kernel, ⟨hfirst, hkept _ hfirst⟩, ⟨hnone, hfault, (hfailed _ hfault).1, fun hfile => ?_⟩, hsize,
    hcount.symm.trans hsize⟩
  have hok := (hread hnone _).mpr hfile
  rw [hfault] at hok
  cases hok

end Session

end Library

end Recast.Schema
