import Recast.Storage.Location
import Recast.Text.Utf8

/-!
# Folders

A folder with files and folders in it. Names are looked up part by part, and every part but the last
has to be a folder. A name that begins with a slash is looked up from the outermost folder, any other
from the current one.
-/

namespace Recast.Storage

/-- Why a file cannot be used. -/
inductive Trouble where
  | notFound
  | notFolder
  | isFolder
  | fileExists
  /-- The bytes of a file are no text. -/
  | notText
  | other (message : String)
deriving DecidableEq, Repr

def Trouble.message : Trouble → String
  | notFound => "No such file or directory (os error 2)"
  | notFolder => "Not a directory (os error 20)"
  | isFolder => "Is a directory (os error 21)"
  | fileExists => "File exists (os error 17)"
  | notText => "stream did not contain valid UTF-8"
  | other message => message

/-- The way to a file or a folder, from the outermost folder down. -/
abbrev Route := List String

/-- Files are bytes; only some of them are text. -/
structure Folder where
  files : List (Route × List UInt8)
  folders : List Route
  /-- The folder that names are seen from. -/
  current : Route

namespace Folder

def empty : Folder := ⟨[], [], []⟩

def content? (f : Folder) (route : Route) : Option (List UInt8) := f.files.lookup route

/-- Whether a folder is there: the outermost one, one that was made, or one with files in it. -/
def hasFolder (f : Folder) (route : Route) : Bool :=
  route.isEmpty || f.folders.any (Text.startsWith route) ||
    f.files.any fun file => Text.startsWith route file.1.dropLast

/-- Follows the segments of a name from a route on. -/
def follow (f : Folder) : Route → List String → Except Trouble Route
  | route, [] => .ok route
  | route, segment :: rest =>
    if f.hasFolder route then
      if segment == "" || segment == "." then follow f route rest
      else if segment == ".." then follow f route.dropLast rest
      else follow f (route ++ [segment]) rest
    else .error (if (f.content? route).isSome then .notFolder else .notFound)

/-- The route that a name stands for. No part leads out of the outermost folder. -/
def route (f : Folder) (path : String) : Except Trouble Route :=
  if path.isEmpty then .error .notFound
  else
    let start := if path.toList.head? == some '/' then [] else f.current
    f.follow start (Location.segments path)

/-- Whether a file or a folder of a name is there. -/
def contains (f : Folder) (path : String) : Bool :=
  match f.route path with
  | .ok route => f.hasFolder route || (f.content? route).isSome
  | .error _ => false

def readBytes (f : Folder) (path : String) : Except Trouble (List UInt8) := do
  let route ← f.route path
  match f.content? route with
  | some content => .ok content
  | none => .error (if f.hasFolder route then .isFolder else .notFound)

def read (f : Folder) (path : String) : Except Trouble String := do
  match Text.Utf8.decode? (← f.readBytes path) with
  | some content => .ok (String.ofList content)
  | none => .error .notText

/-- Gives a file its content. -/
def put (f : Folder) (route : Route) (content : List UInt8) : Folder :=
  { f with files := (route, content) :: f.files.filter (·.1 != route) }

/-- Writes a file into a folder that is there. A name with a slash at its end is one of a folder. -/
def write (f : Folder) (path content : String) : Except Trouble Folder := do
  let reversed := path.toList.reverse
  let name := String.ofList (reversed.dropWhile (· == '/')).reverse
  let route ← f.route (if name.isEmpty then path else name)
  if f.hasFolder route || reversed.head? == some '/' then .error .isFolder
  else .ok (f.put route (Text.Utf8.encode content))

/-- Follows segments and makes the folders that are missing. -/
def makeAlong (f : Folder) : Route → List String → Except Trouble Folder
  | _, [] => .ok f
  | route, segment :: rest =>
    if segment == "." then makeAlong f route rest
    else if segment == ".." then makeAlong f route.dropLast rest
    else
      let route := route ++ [segment]
      if f.hasFolder route then makeAlong f route rest
      else if (f.content? route).isSome then
        .error (if rest.isEmpty then .fileExists else .notFolder)
      else makeAlong { f with folders := route :: f.folders } route rest

/-- Makes the folder that a file is to be in. -/
def makeParent (f : Folder) (path : String) : Except Trouble Folder :=
  match Location.parent path with
  | "/" :: rest => f.makeAlong [] rest
  | parts => f.makeAlong f.current parts

/-- Writes a file and makes the folders it needs. -/
def place (f : Folder) (path content : String) : Except Trouble Folder := do
  (← f.makeParent path).write path content

def remove (f : Folder) (path : String) : Folder :=
  match f.route path with
  | .ok route => { f with files := f.files.filter (·.1 != route) }
  | .error _ => f

end Folder

end Recast.Storage
