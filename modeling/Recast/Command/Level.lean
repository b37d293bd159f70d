import Recast.Command.Grammar
import Recast.Settings.Basic

/-!
# Reading command lines

A command line gives arguments on levels: one for the command, one for its subcommand, and so on.
The last argument of a level stays open until the next one shows that it is complete; what is
missing is looked for when a level ends, on the innermost level first.
-/

namespace Recast.Command

open Settings (Environment)

/-- Where a value comes from. Later ones come before earlier ones. -/
inductive Origin where
  | standard
  | environment
  | line
deriving DecidableEq, Repr

def Origin.rank : Origin → Nat
  | standard => 0
  | environment => 1
  | line => 2

structure Given where
  name : String
  value : String
  origin : Origin
deriving DecidableEq, Repr

/-- An argument that is not complete yet. -/
structure Opened where
  argument : Argument
  value : Option String

structure Level where
  name : String
  given : List Given
  opened : Option Opened

namespace Level

def empty (name : String) : Level := ⟨name, [], none⟩

def has (l : Level) (name : String) : Bool := l.given.any fun g => g.name == name

def count (l : Level) (name : String) : Nat := (l.given.filter fun g => g.name == name).length

def value? (l : Level) (name : String) : Option String :=
  (l.given.find? fun g => g.name == name).map (·.value)

/-- Where the value of an argument comes from. -/
def origin (l : Level) (name : String) : Origin :=
  match l.given.find? fun g => g.name == name with
  | some g => g.origin
  | none => .standard

def add (l : Level) (a : Argument) (origin : Origin) (value : String) : Level :=
  { l with given := l.given ++ [⟨a.name, value, origin⟩] }

/-- Takes an argument. Only a counted one may be given again. -/
def take (l : Level) (a : Argument) (origin : Origin) (value : String) : Except Usage Level :=
  match a.purpose with
  | .counted => .ok (l.add a origin value)
  | .mark => if l.has a.name then .error .conflict else .ok (l.add a origin value)
  | .value accepts =>
    if l.has a.name then .error .conflict
    else if accepts value then .ok (l.add a origin value)
    else .error .invalidValue
  | .help => .error .help
  | .version => .error .version

/-- Closes the open argument, which needs its value. -/
def settle (l : Level) : Except Usage Level :=
  match l.opened with
  | none => .ok l
  | some ⟨_, none⟩ => .error .invalidValue
  | some ⟨a, some value⟩ => { l with opened := none }.take a .line value

/-- Takes a complete argument after the open one. -/
def close (l : Level) (a : Argument) (value : String) : Except Usage Level := do
  (← l.settle).take a .line value

/-- Opens an argument after the open one. -/
def openWith (l : Level) (a : Argument) (value : Option String) : Except Usage Level := do
  .ok { ← l.settle with opened := some ⟨a, value⟩ }

def long (g : Grammar) (l : Level) (name : String) (value : Option String) : Except Usage Level :=
  match g.long? name with
  | none => .error .unknownArgument
  | some a => match a.takesValue, value with
    | true, some v => l.close a v
    | true, none => l.openWith a none
    | false, some _ => .error .tooManyValues
    | false, none => l.close a ""

/-- Takes letters. The first one that takes a value takes what follows it, if anything does. -/
def short (g : Grammar) (l : Level) : List Char → Except Usage Level
  | [] => .ok l
  | c :: cs => match g.short? c with
    | none => .error .unknownArgument
    | some a =>
      if a.takesValue then
        match cs with
        | [] => l.openWith a none
        | '=' :: value => l.close a (String.ofList value)
        | value => l.close a (String.ofList value)
      else do short g (← l.close a "") cs

/-- What is wrong with an argument that is not expected. After a divider, a subcommand has no
place. -/
def unexpected (g : Grammar) (afterDivider : Bool) (s : String) : Usage :=
  if g.needsSubcommand && !(afterDivider && (g.subcommand? s).isSome) then .unknownSubcommand
  else .unknownArgument

def positional (g : Grammar) (afterDivider : Bool) (l : Level) (s : String) : Except Usage Level :=
  let isTaken (a : Argument) : Bool :=
    l.has a.name || (l.opened.any fun o => o.argument.name == a.name)
  match g.positional with
  | some a => if isTaken a then .error (unexpected g afterDivider s) else l.openWith a (some s)
  | none => .error (unexpected g afterDivider s)

def awaitsValue (l : Level) : Bool := l.opened.any fun o => o.value.isNone

/-- Takes an argument that is no option: the value that is awaited, or a positional one. -/
def plain (g : Grammar) (l : Level) (s : String) : Except Usage Level :=
  match l.opened with
  | some ⟨a, none⟩ => .ok { l with opened := some ⟨a, some s⟩ }
  | _ => l.positional g false s

/-- Takes the value of an argument from the environment, unless there is one. -/
def fromEnvironment (e : Environment) (l : Level) (a : Argument) : Except Usage Level :=
  match a.fallback.bind fun key => e.lookup key with
  | some v => if l.has a.name then .ok l else l.take a .environment v
  | none => .ok l

/-- Ends a level. -/
def finish (e : Environment) (conflicts : List (String × String)) (g : Grammar) (hasInner : Bool)
    (l : Level) : Except Usage Level := do
  let l ← l.settle
  let l ← g.options.foldlM (fromEnvironment e) l
  if g.needsSubcommand && !hasInner then
    .error (if l.given.isEmpty then .nothingGiven else .missingSubcommand)
  else if conflicts.any fun c => l.has c.1 && l.has c.2 then .error .conflict
  else if g.options.any fun a => a.isRequired && !l.has a.name then .error .missingArgument
  else .ok l

end Level

/-- Reads the arguments of a level, and those of the levels in it. -/
def readLevels (e : Environment) (conflicts : List (String × String)) (g : Grammar)
    (afterDivider : Bool) (l : Level) : List String → Except Usage (List Level)
  | [] => do .ok [← l.finish e conflicts g false]
  | s :: rest =>
    if afterDivider then do readLevels e conflicts g true (← l.positional g true s) rest
    else match (if l.awaitsValue then none else g.subcommand? s) with
      | some inner =>
        if s == Grammar.explainer.name then .error (g.explain rest)
        else do
          let levels ← readLevels e conflicts inner false (Level.empty s) rest
          .ok ((← l.finish e conflicts g true) :: levels)
      | none => match Form.of s with
        | .divider => readLevels e conflicts g true l rest
        | .long name value => do readLevels e conflicts g false (← l.long g name value) rest
        | .short letters => do readLevels e conflicts g false (← l.short g letters) rest
        | .plain => do readLevels e conflicts g false (← l.plain g s) rest

/-- The level on which an argument counts: the innermost one, unless the argument comes from a
better origin on an outer level. -/
def prevailing (name : String) : List Level → Option Level
  | [] => none
  | l :: rest => match prevailing name rest with
    | none => some l
    | some inner => if (inner.origin name).rank < (l.origin name).rank then some l else some inner

end Recast.Command
