/-
A directory in memory.

* `Directory`: files by the names along their paths;
* `Place`: where a path can lead, in the directory or outside of it;
* `Directory.walk`: the place that the steps along a path lead to;
* `Directory.read`, `Directory.write`: access by path;
* `Directory.access`: the access to files that keeps the directory as its state.

A folder exists as soon as a file in it does, and the directory itself always exists. Outside of
it every folder that holds it counts as the root, where nothing is found but the null device.
-/
import SchemaDesigner.Storage.FileAccess
import SchemaDesigner.Storage.Path

namespace SchemaDesigner.Storage

/-- Files by the names along their paths. -/
structure Directory where
  files : List (List String × ByteArray) := []

/-- Where a path leads: by names from the directory, or by names from the root. -/
inductive Place
  | inside (names : List String)
  | outside (names : List String)
  deriving DecidableEq, Repr

/-- The folder that holds a place. The root holds itself. -/
def Place.parent : Place → Place
  | inside [] => outside []
  | inside names => inside names.dropLast
  | outside names => outside names.dropLast

/-- The place of a name in a folder. -/
def Place.child (name : String) : Place → Place
  | inside names => inside (names ++ [name])
  | outside names => outside (names ++ [name])

/-- Whether some names lead to a folder, given all files. -/
def leadToFolder (files : List (List String × ByteArray)) (names : List String) : Bool :=
  names.isEmpty || files.any fun f => names.isPrefixOf f.1 && names.length < f.1.length

/-- The files outside of the directory: the null device, which is read as an empty file. -/
def outsideFiles : List (List String × ByteArray) :=
  [(["dev", "null"], ByteArray.empty)]

/-- The number of bytes that a path must not reach. -/
def pathLimit : Nat := 4096

/-- The greatest number of bytes in a name. -/
def nameLimit : Nat := 255

/-- Whether a path is written as that of a folder. -/
def endsAsFolder (path : String) : Bool :=
  path.toList.getLast? == some '/'

/-- Where the steps along a path begin, for a path that can be looked up at all. -/
def startOf (path : String) : Except FileFault Place :=
  if path.toList.contains '\x00' then .error .nulInPath
  else if path = "" then .error .notFound
  else if pathLimit ≤ path.utf8ByteSize then .error .nameTooLong
  else .ok (if path.toList.head? == some '/' then .outside [] else .inside [])

namespace Directory

/-- The file at the end of some names. -/
def file? (d : Directory) (names : List String) : Option ByteArray :=
  d.files.lookup names

/-- The content of a file at a place. -/
def content? (d : Directory) : Place → Option ByteArray
  | .inside names => d.file? names
  | .outside names => outsideFiles.lookup names

/-- Whether a folder is at a place. -/
def isFolder (d : Directory) : Place → Bool
  | .inside names => leadToFolder d.files names
  | .outside names => leadToFolder outsideFiles names

/-- Where some steps lead from a place. Only folders can be walked through. -/
def walk (d : Directory) (place : Place) : List String → Except FileFault Place
  | [] => .ok place
  | step :: steps =>
    if !d.isFolder place then
      .error (if (d.content? place).isSome then .notDirectory else .notFound)
    else if step = "." then d.walk place steps
    else if step = ".." then d.walk place.parent steps
    else if nameLimit < step.utf8ByteSize then .error .nameTooLong
    else d.walk (place.child step) steps

/-- The text of a file. -/
def read (d : Directory) (path : String) : Except FileFault String := do
  let steps := pathSteps path
  let place ← d.walk (← startOf path) (if endsAsFolder path then steps ++ ["."] else steps)
  match d.content? place with
  | some bytes => decodeText bytes
  | none => .error (if d.isFolder place then .isDirectory else .notFound)

/-- The directory with a file. -/
def put (d : Directory) (names : List String) (bytes : ByteArray) : Directory :=
  if (d.file? names).isSome then
    ⟨d.files.map fun f => if f.1 = names then (names, bytes) else f⟩
  else ⟨d.files ++ [(names, bytes)]⟩

/-- The directory with a text in a file, whose folder has to exist. What is written outside of the
directory leaves no trace in it. -/
def write (d : Directory) (path text : String) : Except FileFault Directory := do
  let start ← startOf path
  let steps := pathSteps path
  let place ← d.walk start (if endsAsFolder path then steps.dropLast ++ ["."] else steps)
  if endsAsFolder path || d.isFolder place then .error .isDirectory
  else match place with
    | .inside names => .ok (d.put names text.toUTF8)
    | .outside _ => .ok d

/-- The access to the files of a directory, which is the state. -/
def access : FileAccess (StateM Directory) where
  read path := return (← get).read path
  write path text := do
    match (← get).write path text with
    | .ok d => set d; return .ok ()
    | .error fault => return .error fault

end Directory

end SchemaDesigner.Storage
