/-
The program on the command line.

* `errorNumber`, `fileFault`: what the system reports about a file;
* `diskAccess`: access to the files of the disk;
* `main`: runs the arguments and passes the outcome on.
-/
import SchemaDesigner.CommandLine.Run
import Std.Time.DateTime.Timestamp

namespace SchemaDesigner.CommandLine

open Storage (FileAccess FileFault decodeText)

/-- The number of an error, which some calls report with the opposite sign. -/
def errorNumber (n : UInt32) : Nat :=
  n.toInt32.toInt.natAbs

/-- What the system reports about a file. -/
def fileFault (e : IO.Error) : FileFault :=
  match e with
  | .noFileOrDirectory .. => .notFound
  | .permissionDenied .. => .permissionDenied
  | .inappropriateType _ n _ => if errorNumber n = 20 then .notDirectory else .isDirectory
  | .invalidArgument _ n _ => if errorNumber n = 36 then .nameTooLong else .other (toString e)
  | e => .other (toString e)

/-- Access to the files of the disk. -/
def diskAccess : FileAccess IO where
  read path := do
    try return decodeText (← IO.FS.readBinFile path)
    catch e => return .error (fileFault e)
  write path text := do
    try
      IO.FS.writeFile path text
      return .ok ()
    catch e => return .error (fileFault e)

/-- The present point of time. -/
def presentTime : IO Timestamp := do
  let now ← Std.Time.Timestamp.now
  return ⟨now.val.second.val, now.val.nano.val.toNat⟩

/-- A source of identities that nobody has drawn from. -/
def randomIds : IO IdSupply := do
  let bytes ← IO.getRandomBytes 15
  return ⟨bytes.toList.foldl (fun n b => 256 * n + b.toNat) 0⟩

end SchemaDesigner.CommandLine

open SchemaDesigner.CommandLine in
/-- Runs the arguments and passes the outcome on. -/
def main (arguments : List String) : IO UInt32 := do
  let setting : Setting IO := ⟨diskAccess, ← presentTime, ← randomIds⟩
  let outcome ← run setting arguments
  IO.print outcome.out
  IO.eprint outcome.err
  return outcome.code
