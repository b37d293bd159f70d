import Recast.Settings.Basic

/-!
# Logging

How much is logged and in which form. Every mark of verbosity shows more, and the environment has
the last word.
-/

namespace Recast

structure Logging where
  level : String
  format : LogFormat
  ansi : Bool
  threadIds : Bool
  sourceLocation : Bool
  spanEvents : Bool
deriving DecidableEq, Repr

namespace Logging

def plain (level : String) : Logging := ⟨level, .compact, true, false, false, false⟩

/-- The logging of a verbosity. Without verbosity, the level is the given one. -/
def ofVerbosity (verbosity : Nat) (level : String) : Logging :=
  match verbosity with
  | 0 => plain level
  | 1 => plain "info"
  | 2 => { plain "debug" with sourceLocation := true }
  | _ => ⟨"trace", .full, true, true, true, true⟩

/-- The logging that an environment makes of another one; an unknown format does not count. -/
def withEnvironment (l : Logging) (e : Settings.Environment) : Logging :=
  let l := match e.lookup "RUST_LOG" with
    | some level => { l with level }
    | none => l
  match (e.lookup "RESHAPE_LOG_FORMAT").bind fun s => LogFormat.ofName? (Text.lowered s) with
  | some format => { l with format }
  | none => l

end Logging

end Recast
