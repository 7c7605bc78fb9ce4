import Issuebook.CommandLine.Conclusion
import Issuebook.Disk.Changes
import Std.Time.DateTime.Timestamp

/-!
# The program

Reads the environment, the clock and the files of a project, calls the command line on them,
and makes the changes that it leaves behind. Files outside the project are not seen, and the
store's program is not run: every call of it is answered as if it was not there.
-/

namespace Issuebook.Outside

/-- The variables of the environment that matter. -/
def environment : IO Settings.Environment := do
  let names := [Surroundings.homeVariable, CommandLine.levelVariable] ++ Settings.variableNames
  let found ← names.mapM fun name => do
    return (← IO.getEnv (String.ofList name)).map fun value => (name, value.toList)
  return found.filterMap id

/-- The present time. -/
def now : IO Stamp := do
  let nanoseconds := (← Std.Time.Timestamp.now).toNanosecondsSinceUnixEpoch
  return Stamp.ofInstant (nanoseconds.val.toNat / 1000)

/-- The home directories of users. -/
def homes : IO Homes := do
  let accounts ← (IO.FS.readFile "/etc/passwd").toBaseIO
  return match accounts with
    | .ok written => Homes.ofAccounts written.toList
    | .error _ => Homes.usual

/-- The root of the project that arguments name, as far as they name one. -/
def rootOf (around : Surroundings) (arguments : List Text) : Path :=
  match Invocation.ofArguments arguments with
  | .ok (.run _ command) =>
    match command.root?.map fun root => around.expandHome (Path.ofText root) with
    | some (.ok root) => root
    | _ => ⟨.none, []⟩
  | _ => ⟨.none, []⟩

/-- A disk with what the file system holds under a name: the bytes of a file, or else a
directory. -/
def withName (disk : Disk) (name : String) : IO Disk := do
  let content ← (IO.FS.readBinFile name).toBaseIO
  return disk.install (Path.ofText name.toList) <|
    match content with
    | .ok bytes => .file (Content.ofBytes bytes.toList)
    | .error _ => .directory

/-- The disk of a project in the file system. -/
def disk (root : Path) : IO Disk := do
  let here ← IO.currentDir
  let place := (Path.ofText here.toString.toList).segments
  let empty : Disk := { nodes := [], here := place }
  let top := here / String.ofList root.toText
  let names ← if ← top.isDir then top.walkDir else pure #[]
  let start := empty.install (Disk.pathOf place) .directory
  names.foldlM (fun disk name => withName disk name.toString) start

/-- Makes a change in the file system. -/
def make (change : Disk.Change) : IO Unit := do
  let name := String.ofList (Disk.pathOf change.place).toText
  match change.after with
  | some (.file content) => IO.FS.writeBinFile name ⟨content.toBytes.toArray⟩
  | some .directory => IO.FS.createDirAll name
  | some (.link _) => pure ()
  | none => IO.FS.removeFile name

end Issuebook.Outside

/-- Calls the program. -/
def main (arguments : List String) : IO UInt32 := do
  let arguments := arguments.map String.toList
  let surroundings : Issuebook.Surroundings :=
    ⟨← Issuebook.Outside.now, ← Issuebook.Outside.environment, ← Issuebook.Outside.homes⟩
  let disk ← Issuebook.Outside.disk (Issuebook.Outside.rootOf surroundings arguments)
  let done :=
    Issuebook.CommandLine.call surroundings Issuebook.nothingInstalled disk () arguments
  (Issuebook.Disk.changes disk done.disk).forM Issuebook.Outside.make
  IO.print (String.ofList done.output)
  IO.eprint (String.ofList done.errors)
  return UInt32.ofNat done.exitCode
