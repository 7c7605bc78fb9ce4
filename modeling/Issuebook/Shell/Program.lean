import Issuebook.Disk.Walk
import Issuebook.Entries
import Issuebook.Text.Basic
import Issuebook.Disk.Files

/-!
# Programs

A program gets arguments, an environment, a working directory, files and an input, and leaves a
trace: what it prints, the number it ends with, the time it takes and the files it changes.
Programs see text byte by byte, so the characters of their texts are bytes.
-/

namespace Issuebook.Shell

namespace Bytes

/-- The text whose characters are bytes. -/
def toText (bytes : List UInt8) : Text :=
  bytes.map fun byte => Char.ofNat byte.toNat

/-- The bytes that the characters of a text are. -/
def ofText (text : Text) : List UInt8 :=
  text.map fun char => char.toNat.toUInt8

/-- The bytes of a text in UTF-8, as characters. -/
def encode (text : Text) : Text :=
  toText (Text.toUtf8 text)

/-- The text of bytes in UTF-8; other bytes stay as they are. -/
def decode (text : Text) : Text :=
  (Text.ofUtf8? (ofText text)).getD text

end Bytes

/-- What a program runs in. -/
structure Context where
  /-- The name under which it was started. -/
  name : Text
  /-- The variables of its environment. -/
  environment : Entries Text
  /-- Its working directory. -/
  directory : Path
  /-- The files. -/
  disk : Disk
  /-- What it can read. -/
  input : Text := []
  /-- The number under which it runs. -/
  number : Nat := 1000
  /-- The millionths of a second after which nobody waits for it any longer. -/
  deadline : Option Nat := none
  /-- The signals that do not reach it. -/
  ignored : List Nat := []

namespace Context

/-- The path that a text writes, seen from the working directory. -/
def path (context : Context) (written : Text) : Path :=
  context.directory.join (Bytes.decode written)

end Context

/-- How many characters are taken of a file or a program that has no end. -/
def endlessLength : Nat := 200000

/-- Something that a program prints. -/
structure Print where
  /-- Whether it goes to the stream for errors. -/
  isError : Bool
  /-- What is printed. -/
  text : Text
  deriving Repr, DecidableEq, Inhabited

/-- What a run of a program gives. -/
structure Trace where
  /-- What it prints, in order. -/
  prints : List Print := []
  /-- The number it ends with, negative when a signal ends it. -/
  code : Int := 0
  /-- The time it takes, in millionths of a second. -/
  elapsed : Nat := 0
  /-- Whether it never ends. -/
  isEndless : Bool := false
  /-- The files it leaves, unless it changes none. -/
  disk : Option Disk := none
  /-- What it leaves of its input, unless it leaves all. -/
  input : Option Text := none

/-- A program: what it does in a context with its arguments. -/
abbrev Utility := Context → List Text → Trace

namespace Trace

/-- What is printed to one of the two streams. -/
def printed (isError : Bool) (trace : Trace) : Text :=
  trace.prints.flatMap fun print => if print.isError = isError then print.text else []

/-- The trace of a program that only prints. -/
def printing (text : Text) : Trace :=
  { prints := [⟨false, text⟩] }

/-- The trace of a program that prints a line. -/
def line (text : Text) : Trace :=
  printing (text ++ ['\n'])

/-- The trace of a program that complains and fails. -/
def complaint (text : Text) (code : Int) : Trace :=
  { prints := [⟨true, text ++ ['\n']⟩], code := code }

/-- The trace of one program after another; the first number other than zero counts. -/
def followedBy (first second : Trace) : Trace :=
  { second with
    prints := first.prints ++ second.prints
    code := if first.code = 0 then second.code else first.code
    elapsed := first.elapsed + second.elapsed
    disk := second.disk.or first.disk
    input := second.input.or first.input }

/-- The trace after which nothing of the input is left. -/
def reading (trace : Trace) : Trace :=
  { trace with input := some [] }

/-- The trace of a program that complains under its name and fails. -/
def refusal (context : Context) (text : Text) (code : Int := 1) : Trace :=
  complaint (context.name ++ (": " : Text) ++ text) code

/-- The complaint with the hint where help is. -/
def misuse (context : Context) (text : Text) (code : Int := 1) : Trace :=
  refusal context (text ++ ("\nTry '" : Text) ++ context.name ++
    (" --help' for more information." : Text)) code

end Trace

end Issuebook.Shell

/-!
## Looking for programs

A name with a slash is the path of a program; any other name is looked for in directories, one
after the other. The system refuses what is no program, and of several refusals the first one
counts that says more than that nothing is there.
-/

namespace Issuebook.Shell

/-- The directory of all programs. -/
def programDirectory : Place := ["usr", "bin"]

/-- The directories of a small system. -/
def systemDirectories : List Place :=
  [["usr"], ["usr", "bin"], ["tmp"], ["etc"], ["dev"], ["home"], ["root"], ["var"],
   ["var", "tmp"], ["usr", "lib"], ["usr", "share"], ["usr", "local"], ["usr", "local", "bin"],
   ["opt"], ["proc"], ["sys"], ["run"], ["mnt"], ["srv"]]

/-- The content of a program. -/
def programContent : Content := .binary [127]

/-- The file that is always empty. -/
def nullDevice : Place := ["dev", "null"]

/-- The file of zeros, which has no end. -/
def zeroDevice : Place := ["dev", "zero"]

/-- Whether a place is no place for content. -/
def isDevice (place : Place) : Bool :=
  place = nullDevice || place = zeroDevice

/-- The files of a small system. -/
def systemFiles : List (Place × Node) :=
  [(["bin"], .link "usr/bin"),
   (["etc", "passwd"], .file (.text "root:x:0:0:root:/root:/bin/bash\n")),
   (nullDevice, .file (.text [])),
   (zeroDevice, .file (.text (List.replicate endlessLength '\x00')))]

/-- The disk of a small system with some programs. -/
def systemDisk (programs : List Text) : Disk where
  nodes :=
    (systemDirectories.map fun place => (place, Node.directory)) ++ systemFiles ++
    programs.map fun name => (programDirectory ++ [name], Node.file programContent)

namespace Search

/-- The program at a path, or why the system does not run it. -/
def at? (disk : Disk) (directory : Path) (written : Text) : Except Refusal Text :=
  let path := directory.join (Bytes.decode written)
  match disk.walk path with
  | .error refusal => .error refusal
  | .ok (.free _) => .error .absent
  | .ok (.there place (.file content)) =>
    if written.getLast? = some '/' then .error .notDirectory
    else if place.dropLast = programDirectory ∧ content = programContent then
      .ok (place.getLastD [])
    else .error .forbidden
  | .ok (.there _ _) => .error .forbidden

/-- The program in one of some directories. `known` is the refusal that counts so far. -/
def amongFrom (disk : Disk) (directory : Path) (name : Text) (known : Option Refusal)
    (last : Refusal) : List Text → Except Refusal Text
  | [] => .error (known.getD last)
  | place :: places =>
    let written := if place.isEmpty then name else place ++ '/' :: name
    match at? disk directory written with
    | .ok program => .ok program
    | .error refusal =>
      let saysMore := refusal ≠ .absent ∧ refusal ≠ .notDirectory
      amongFrom disk directory name
        (known.or (if saysMore then some refusal else none)) refusal places

/-- The program of a name, looked for in the directories between colons. -/
def find? (disk : Disk) (directory : Path) (places name : Text) : Except Refusal Text :=
  if name.contains '/' then at? disk directory name
  else amongFrom disk directory name none .absent (Text.splitOn ':' places)

/-- The path of the program of a name. -/
def path? (disk : Disk) (directory : Path) (places name : Text) : Option Text :=
  if name.contains '/' then
    match at? disk directory name with
    | .ok _ => some name
    | .error _ => none
  else
    let paths := (Text.splitOn ':' places).map fun place =>
      if place.isEmpty then name else place ++ '/' :: name
    paths.find? fun path =>
      match at? disk directory path with
      | .ok _ => true
      | .error _ => false

end Search

end Issuebook.Shell
