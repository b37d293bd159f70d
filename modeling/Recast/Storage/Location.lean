import Recast.Text.Basic

/-!
# Names of files

A name is taken apart at its slashes. Empty parts and single dots do not count, except for a dot in
front; the extension is what follows the last dot of the last part.
-/

namespace Recast.Storage.Location

/-- The parts of a name as they are written. -/
def segments (path : String) : List String :=
  (Text.splitAt (· == '/') path.toList).map String.ofList

/-- The parts of a name that count. Two names with the same parts are the same name. -/
def parts (path : String) : List String :=
  match segments path with
  | "" :: rest => if path.isEmpty then [] else "/" :: rest.filter fun s => s != "" && s != "."
  | first :: rest => first :: rest.filter fun s => s != "" && s != "."
  | [] => []

/-- The last part, if it is the name of a file. -/
def fileName? (path : String) : Option String :=
  match (parts path).getLast? with
  | some "/" | some "." | some ".." | none => none
  | some name => some name

/-- What follows the last dot of the file name. A dot in front of the name does not count. -/
def extension? (path : String) : Option String := do
  let reversed := (← fileName? path).toList.reverse
  match reversed.dropWhile (· != '.') with
  | '.' :: _ :: _ => some (String.ofList (reversed.takeWhile (· != '.')).reverse)
  | _ => none

/-- The parts of the folder that a file is in. -/
def parent (path : String) : List String := (parts path).dropLast

/-- Whether a name stands for the standard input. -/
def isStandardInput (path : String) : Bool := parts path == ["-"]

end Recast.Storage.Location
