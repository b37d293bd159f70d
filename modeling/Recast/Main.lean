import Recast.Command.Run

/-!
# The program

Commands run on the files and the streams of the process.
-/

namespace Recast.Command

def troubleOf : IO.Error → Storage.Trouble
  | .noFileOrDirectory .. => .notFound
  | .alreadyExists .. => .fileExists
  | .inappropriateType _ _ "is a directory" => .isFolder
  | .inappropriateType .. => .notFolder
  | e => .other (toString e)

def attempt (act : IO α) : IO (Except Storage.Trouble α) := do
  try return .ok (← act)
  catch e => return .error (troubleOf e)

/-- Reads a stream to its end. -/
partial def readAll (stream : IO.FS.Stream) (done : ByteArray) : IO ByteArray := do
  let bytes ← stream.read 65536
  if bytes.isEmpty then return done else readAll stream (done ++ bytes)

def put (stream : IO.FS.Stream) (s : String) : IO Unit := do
  stream.putStr s
  stream.flush

instance : Surroundings IO where
  contains path := do
    try
      let _ ← IO.FS.realPath path
      return true
    catch _ => return false
  readText path := do
    return (← attempt (IO.FS.readBinFile path)).bind fun bytes =>
      match String.fromUTF8? bytes with
      | some s => .ok s
      | none => .error .notText
  readBytes path := do return (← attempt (IO.FS.readBinFile path)).map (·.toList)
  write path content := attempt (IO.FS.writeFile path content)
  makeParent path := do
    match Storage.Location.parent path with
    | [] => return .ok ()
    | parts => attempt (IO.FS.createDirAll (Text.joinWith "/" parts))
  input := do return (← readAll (← IO.getStdin) ByteArray.empty).toList
  print s := do put (← IO.getStdout) s
  remark s := do put (← IO.getStderr) s

/-- The variables that count. -/
def knownVariables : List String := "RESHAPE_CONFIG" :: Settings.overrides.map (·.1)

def processEnvironment : IO Settings.Environment := do
  let found ← knownVariables.mapM fun key => do return (← IO.getEnv key).map fun v => (key, v)
  return found.filterMap id

/-- The folder of the settings of a user. -/
def userFolder : IO (Option String) := do
  match ← IO.getEnv "XDG_CONFIG_HOME" with
  | some folder => if folder.startsWith "/" then return some folder else homeFolder
  | none => homeFolder
where
  homeFolder : IO (Option String) := do
    return (← IO.getEnv "HOME").map fun home => home ++ "/.config"

def describeFailure (f : Failure) : String :=
  "Error: " ++ f.message ++ "\n" ++
    (if f.hintsAtHelp then "\nFor more information, try '--help'\n" else "")

/-- Runs a command line and gives its exit status. -/
def program (arguments : List String) : IO UInt32 := do
  let e ← processEnvironment
  match Invocation.read e arguments with
  | .error usage =>
    put (← if usage.exit == 0 then IO.getStdout else IO.getStderr) (usage.message ++ "\n")
    return UInt32.ofNat usage.exit
  | .ok i =>
    match ← (i.run e (← userFolder) : ExceptT Failure IO Unit).run with
    | .ok () => return 0
    | .error f =>
      put (← IO.getStderr) (describeFailure f)
      return UInt32.ofNat f.exit

end Recast.Command

def main (arguments : List String) : IO UInt32 := Recast.Command.program arguments
