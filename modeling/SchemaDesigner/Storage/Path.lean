/-
Paths of files.

* `pathSteps`, `pathParts`: the steps along a path, and the names among them;
* `fileName?`: the name at the end of a path;
* `stem?`, `extension?`: that name without its extension, and the extension;
* `isProjectFile`: whether a path has the extension of a project.
-/
import SchemaDesigner.Name

namespace SchemaDesigner.Storage

/-- The pieces of a text between separators. -/
def splitAt (separator : Char) : List Char → List (List Char)
  | [] => [[]]
  | c :: cs =>
    if c = separator then [] :: splitAt separator cs
    else match splitAt separator cs with
      | [] => [[c]]
      | p :: ps => (c :: p) :: ps

/-- The steps along a path. -/
def pathSteps (path : String) : List String :=
  ((splitAt '/' path.toList).map String.ofList).filter fun step => step != ""

/-- The names along a path, without the dots that stand for the folder that one is in. -/
def pathParts (path : String) : List String :=
  (pathSteps path).filter fun step => step != "."

/-- The name at the end of a path. -/
def fileName? (path : String) : Option String :=
  (pathParts path).getLast?.filter fun name => name != ".."

/-- A name split at its last dot, which may not be its first character. -/
def splitName (name : String) : String × Option String :=
  let ending := name.toList.reverse.takeWhile (· != '.')
  let rest := name.toList.reverse.drop ending.length
  match rest.drop 1 with
  | [] => (name, none)
  | stem => (String.ofList stem.reverse, some (String.ofList ending.reverse))

/-- The name at the end of a path without its extension. -/
def stem? (path : String) : Option String :=
  (fileName? path).map fun name => (splitName name).1

/-- The extension of the name at the end of a path. -/
def extension? (path : String) : Option String :=
  (fileName? path).bind fun name => (splitName name).2

/-- Whether a path has the extension of a project, in any case. -/
def isProjectFile (path : String) : Bool :=
  (extension? path).any fun e => namesMatch e "sf" || namesMatch e "json"

end SchemaDesigner.Storage
