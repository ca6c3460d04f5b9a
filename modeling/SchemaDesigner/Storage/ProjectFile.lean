/-
Projects in files.

* `ProjectFault`: why a project cannot be loaded or saved, with its `message` and its `cause?`;
* `Project.load`, `Project.save`: a project in a file with the extension of one.
-/
import SchemaDesigner.Storage.FileAccess
import SchemaDesigner.Storage.Path
import SchemaDesigner.Wire.Project

namespace SchemaDesigner

open Storage (FileAccess FileFault isProjectFile)

/-- Why a project cannot be loaded or saved. -/
inductive ProjectFault
  | inaccessible (path : String) (fault : FileFault)
  | unreadable (e : ReadError)
  | unsupported (path : String)
  deriving DecidableEq, Repr

namespace ProjectFault

/-- What lies behind a fault. -/
def cause? : ProjectFault → Option String
  | inaccessible _ fault => some fault.message
  | unreadable e => some e.message
  | unsupported _ => none

/-- The text of a fault. -/
def message : ProjectFault → String
  | inaccessible path fault => "Failed to access " ++ path ++ ": " ++ fault.message
  | unreadable e => "Invalid project file: " ++ e.message
  | unsupported path => "Unsupported project file " ++ path ++ ": expected .sf or .json"

end ProjectFault

namespace Project

variable {m : Type → Type} [Monad m]

/-- The project in a file, with the identities that are left. One without a time is as old as
`now`. -/
def load (files : FileAccess m) (now : Timestamp) (ids : IdSupply) (path : String) :
    m (Except ProjectFault (Project × IdSupply)) := do
  if !isProjectFile path then return .error (.unsupported path)
  match ← files.read path with
  | .error fault => return .error (.inaccessible path fault)
  | .ok text => match (Project.ofText now text).run ids with
    | .error e => return .error (.unreadable e)
    | .ok found => return .ok found

/-- Writes a project into a file. -/
def save (files : FileAccess m) (path : String) (p : Project) : m (Except ProjectFault Unit) := do
  if !isProjectFile path then return .error (.unsupported path)
  match ← files.write path p.toText with
  | .error fault => return .error (.inaccessible path fault)
  | .ok () => return .ok ()

end Project

end SchemaDesigner
