/-
Access to files, for programs that do not know where these are.

* `FileFault`: why a file cannot be read or written, with its `message`;
* `FileAccess`: reading and writing of texts by path, with the effects of a monad;
* `decodeText`: the bytes of a file as a text.
-/

namespace SchemaDesigner.Storage

/-- Why a file cannot be read or written. -/
inductive FileFault
  | notFound
  | permissionDenied
  | notDirectory
  | isDirectory
  /-- A name in the path, or the whole path, has too many bytes. -/
  | nameTooLong
  /-- The path holds the character NUL, which ends the paths of the system. -/
  | nulInPath
  /-- The bytes of the file are no text. -/
  | notText
  | other (text : String)
  deriving DecidableEq, Repr

/-- The text of a fault, with the number of those that the system reports. -/
def FileFault.message : FileFault → String
  | notFound => "No such file or directory (os error 2)"
  | permissionDenied => "Permission denied (os error 13)"
  | notDirectory => "Not a directory (os error 20)"
  | isDirectory => "Is a directory (os error 21)"
  | nameTooLong => "File name too long (os error 36)"
  | nulInPath => "file name contained an unexpected NUL byte"
  | notText => "stream did not contain valid UTF-8"
  | other text => text

/-- Reading and writing of whole files. -/
structure FileAccess (m : Type → Type) where
  read : String → m (Except FileFault String)
  write : String → String → m (Except FileFault Unit)

/-- The text that some bytes encode. -/
def decodeText (bytes : ByteArray) : Except FileFault String :=
  match String.fromUTF8? bytes with
  | some s => .ok s
  | none => .error .notText

end SchemaDesigner.Storage
