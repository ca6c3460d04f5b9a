/-
What the program does with its arguments.

* `Outcome`: the code and the two texts that a run ends with;
* `failure`: the outcome of an error with what lies behind it;
* `Setting`: the time, the identities and the files that a run depends on;
* `runRequest`, `run`: the outcome of a request and of arguments.
-/
import SchemaDesigner.CommandLine.Arguments
import SchemaDesigner.Import
import SchemaDesigner.Script.Render
import SchemaDesigner.Storage.ProjectFile
import SchemaDesigner.Summary

namespace SchemaDesigner.CommandLine

open Storage (FileAccess FileFault isProjectFile stem?)

/-- How a run ends. -/
structure Outcome where
  code : UInt32 := 0
  out : String := ""
  err : String := ""
  deriving DecidableEq, Repr

/-- The outcome of an error with what lies behind it. -/
def failure (message : String) (cause : Option String) : Outcome :=
  let behind := match cause with
    | some text => "\n\nCaused by:\n    " ++ text
    | none => ""
  { code := 1, err := "Error: " ++ message ++ behind ++ "\n" }

/-- The outcome of a project that cannot be loaded or saved. -/
def projectFailure (fault : ProjectFault) : Outcome :=
  failure fault.message fault.cause?

/-- The outcome of arguments that make no request. -/
def misuse : Outcome :=
  { code := 2, err := "Usage: [-v] generate|import|describe INPUT [OPTIONS]\n" }

/-- What a run depends on. -/
structure Setting (m : Type → Type) where
  files : FileAccess m
  now : Timestamp
  ids : IdSupply

/-- The name of a project whose script has no name. -/
def untitled : String := "Untitled"

section

variable {m : Type → Type} [Monad m]

/-- The schema of the tables that a script in a file defines. -/
def readScript (s : Setting m) (path : String) : m (Except Outcome Schema) := do
  match ← s.files.read path with
  | .error fault => return .error (failure ("Failed to read " ++ path) (some fault.message))
  | .ok text => match importTables text s.ids with
    | .error fault => return .error (failure ("Failed to import " ++ path) (some fault.message))
    | .ok (tables, _) => return .ok ⟨tables⟩

/-- The schema of a project in a file. -/
def readProject (s : Setting m) (path : String) : m (Except Outcome Schema) := do
  match ← Project.load s.files s.now s.ids path with
  | .error fault => return .error (projectFailure fault)
  | .ok (project, _) => return .ok project.toSchema

/-- Writes a text into a file, or to the output if there is no file. -/
def writeOutput (s : Setting m) (output : Option String) (text : String) : m Outcome := do
  match output with
  | none => return { out := text }
  | some path => match ← s.files.write path text with
    | .error fault => return failure ("Failed to write " ++ path) (some fault.message)
    | .ok () => return {}

/-- Saves a project in a file, or writes it to the output if there is no file. -/
def saveOutput (s : Setting m) (output : Option String) (tableCount : Nat) (p : Project) :
    m Outcome := do
  match output with
  | none => return { out := p.toText ++ "\n" }
  | some path => match ← p.save s.files path with
    | .error fault => return projectFailure fault
    | .ok () =>
      return { err := "Imported " ++ Nat.repr tableCount ++ " tables into " ++ path ++ "\n" }

/-- The outcome of a request. -/
def runRequest (s : Setting m) : Request → m Outcome
  | .generate input dialect output header => do
    match ← readProject s input with
    | .error o => return o
    | .ok schema =>
      writeOutput s output (Script.render schema.tables dialect { header } s.now)
  | .importScript input name output => do
    match ← readScript s input with
    | .error o => return o
    | .ok schema =>
      let name := name.getD ((stem? input).getD untitled)
      saveOutput s output schema.tables.length (Project.ofSchema name s.now schema)
  | .describe input => do
    match ← if isProjectFile input then readProject s input else readScript s input with
    | .error o => return o
    | .ok schema => return { out := schema.summary }

/-- The outcome of some arguments. -/
def run (s : Setting m) (arguments : List String) : m Outcome :=
  match Request.ofArguments? arguments with
  | some request => runRequest s request
  | none => return misuse

end

end SchemaDesigner.CommandLine
