import Recast.Storage.Folder

/-!
# Surroundings of commands

A command uses files, the standard input and two outputs: one for documents and reports, and one for
remarks. A desk has all of these at hand.
-/

namespace Recast.Command

open Storage (Folder Trouble)

/-- What a command can do with its surroundings. -/
class Surroundings (m : Type → Type) where
  /-- Whether a file or a folder of a name is there. -/
  contains : String → m Bool
  readText : String → m (Except Trouble String)
  readBytes : String → m (Except Trouble (List UInt8))
  /-- Gives a file its content. -/
  write : String → String → m (Except Trouble Unit)
  /-- Makes the folder that a file is to be in. -/
  makeParent : String → m (Except Trouble Unit)
  /-- The standard input. -/
  input : m (List UInt8)
  print : String → m Unit
  remark : String → m Unit

/-- Surroundings stay the same where something can fail. -/
instance {m : Type → Type} [Monad m] [Surroundings m] : Surroundings (ExceptT ε m) where
  contains path := ExceptT.lift (Surroundings.contains path)
  readText path := ExceptT.lift (Surroundings.readText path)
  readBytes path := ExceptT.lift (Surroundings.readBytes path)
  write path content := ExceptT.lift (Surroundings.write path content)
  makeParent path := ExceptT.lift (Surroundings.makeParent path)
  input := ExceptT.lift Surroundings.input
  print s := ExceptT.lift (Surroundings.print s)
  remark s := ExceptT.lift (Surroundings.remark s)

/-- Surroundings at hand. -/
structure Desk where
  folder : Folder
  input : List UInt8
  printed : String
  remarks : String

namespace Desk

/-- Changes the folder, unless that fails. -/
def change (f : Folder → Except Trouble Folder) : StateM Desk (Except Trouble Unit) := fun d =>
  match f d.folder with
  | .ok folder => (.ok (), { d with folder })
  | .error trouble => (.error trouble, d)

instance : Surroundings (StateM Desk) where
  contains path := fun d => (d.folder.contains path, d)
  readText path := fun d => (d.folder.read path, d)
  readBytes path := fun d => (d.folder.readBytes path, d)
  write path content := change fun f => f.write path content
  makeParent path := change fun f => f.makeParent path
  input := fun d => (d.input, { d with input := [] })
  print s := fun d => ((), { d with printed := d.printed ++ s })
  remark s := fun d => ((), { d with remarks := d.remarks ++ s })

end Desk

end Recast.Command
