import Issuebook.Disk.Walk
import Issuebook.Shell.Own.Basic
import Issuebook.Shell.Program

/-!
# Own commands for the working directory

Where the shell works, and which permissions new files get.
-/

namespace Issuebook.Shell.OwnCommand

/-- The path of the working directory as bytes. -/
def directoryText (path : Path) : Text :=
  Bytes.encode path.toText

/-- Works in a directory from now on. -/
def enter (path : Path) (shell : State) : State :=
  let publish (name value : Text) (shell : State) : State :=
    { shell with
      bindings := shell.bindings.put name { value := some value, isPublic := true } }
  publish "PWD" (directoryText path)
    (publish "OLDPWD" (directoryText shell.directory) { shell with directory := path })

/-- The directory that a text names, seen from another one, when there is one. -/
def directoryAt? (shell : State) (outer : Path) (target : Text) : Option Path :=
  let joined := outer.join (Bytes.decode target)
  let anchor : Path.Anchor := if joined.anchor = .none then .root else joined.anchor
  let path : Path := ⟨anchor, Path.tidy [] joined.segments⟩
  match shell.disk.isDirectory path with
  | .ok true => some path
  | _ => none

/-- The directory that a text names, and whether it was looked for in other directories than
the working directory. -/
def findDirectory? (shell : State) (target : Text) : Option (Path × Bool) :=
  let starts := match target with
    | '/' :: _ | ['.'] | '.' :: '/' :: _ | ['.', '.'] | '.' :: '.' :: '/' :: _ => []
    | _ => ((shell.valueOf? "CDPATH").map (Text.splitOn ':')).getD []
  let found := (starts.filter fun start => !start.isEmpty).findSome? fun start =>
    directoryAt? shell (shell.directory.join (Bytes.decode start)) target
  match found with
  | some path => some (path, true)
  | none => (directoryAt? shell shell.directory target).map fun path => (path, false)

/-- Changes the working directory. -/
def changeDirectory : OwnCommand := fun arguments => do
  let (letters, targets) ← options ['L', 'P'] arguments
  let shell ← get
  let (isTold, target) : Bool × Text :=
    match targets with
    | [] => (false, (shell.valueOf? "HOME").getD [])
    | ['-'] :: _ => (true, (shell.valueOf? "OLDPWD").getD [])
    | target :: _ => (false, target)
  let refuse : Act Unit := Act.fail (("can't cd to " : Text) ++ target)
  match findDirectory? shell target with
  | some (path, isElsewhere) =>
    match if letters.contains 'P' then shell.disk.resolve path else .ok path with
    | .ok path =>
      set { enter path shell with status := 0 }
      if isTold ∨ isElsewhere then Act.print (directoryText path ++ ['\n'])
    | .error _ => refuse
  | none => refuse

/-- Tells the working directory. -/
def tellDirectory : OwnCommand := fun arguments => do
  let (letters, _) ← options ['L', 'P'] arguments
  let shell ← get
  let path :=
    if letters.getLast? = some 'P' then
      match shell.disk.resolve shell.directory with
      | .ok path => path
      | .error _ => shell.directory
    else shell.directory
  Act.print (directoryText path ++ ['\n'])

/-- The letters of permissions, with their bits. -/
def permissionBits : List (Char × Nat) :=
  [('r', 4), ('w', 2), ('x', 1)]

/-- The letters of those who have permissions, with the place of their bits. -/
def ownerShifts : List (Char × Nat) :=
  [('u', 64), ('g', 8), ('o', 1)]

/-- The permissions that a mask leaves, as text. -/
def permissionsText (mask : Nat) : Text :=
  Text.join [','] (ownerShifts.map fun (owner, shift) =>
    owner :: '=' :: permissionBits.filterMap fun (letter, bit) =>
      if (mask / shift) &&& bit = 0 then some letter else none)

/-- The mask after a clause that gives or takes permissions. -/
def clauseMask? (mask : Nat) (clause : Text) : Option Nat :=
  let owners := clause.takeWhile fun char => ['u', 'g', 'o', 'a'].contains char
  let shifts := ownerShifts.filterMap fun (owner, shift) =>
    if owners.isEmpty ∨ owners.contains 'a' ∨ owners.contains owner then some shift else none
  match clause.drop owners.length with
  | sign :: letters =>
    (letters.mapM fun letter => permissionBits.lookup letter).bind fun bits =>
      let bits := bits.foldl (fun sum bit => sum ||| bit) 0
      let all := shifts.foldl (fun sum shift => sum ||| (bits * shift)) 0
      let whole := shifts.foldl (fun sum shift => sum ||| (7 * shift)) 0
      match sign with
      | '+' => some (mask &&& (511 ^^^ all))
      | '-' => some (mask ||| all)
      | '=' => some ((mask ||| whole) &&& (511 ^^^ all))
      | _ => none
  | [] => none

/-- Tells or sets the mask of new files. -/
def changeMask : OwnCommand := fun arguments => do
  let (letters, modes) ← options ['S'] arguments
  let mask := (← get).mask
  match modes with
  | [] =>
    let text :=
      if letters.isEmpty then
        let digits := Nat.toDigits 8 mask
        List.replicate (4 - digits.length) '0' ++ digits
      else permissionsText mask
    Act.print (text ++ ['\n'])
  | mode :: _ =>
    if mode.head?.any Char.isDigit then
      if mode.all fun char => '0' ≤ char && char ≤ '7' then
        let number := mode.foldl (fun sum char => 8 * sum + (char.toNat - '0'.toNat)) 0
        Act.change fun shell => { shell with mask := number % 512, status := 0 }
      else Act.fail (("Illegal number: " : Text) ++ mode)
    else
      let changed := (Text.splitOn ',' mode).foldl
        (fun mask clause => mask.bind fun mask => clauseMask? mask clause) (some mask)
      match changed with
      | some mask => Act.change fun shell => { shell with mask := mask, status := 0 }
      | none => Act.fail (("Illegal mode: " : Text) ++ mode)

end Issuebook.Shell.OwnCommand

/-!
## Own commands that explain names

What a name means where a command begins: a reserved word, a command of the shell itself, a
function or a program.
-/

namespace Issuebook.Shell

/-- What the name of a command means. -/
inductive Meaning where
  /-- A reserved word. -/
  | reserved
  /-- A command of the shell itself whose faults end the script. -/
  | special
  /-- A function. -/
  | function
  /-- Another command of the shell itself. -/
  | own
  /-- A program at a path. -/
  | program (path : Text)
  /-- Nothing. -/
  | nothing
  deriving Repr, DecidableEq, Inhabited

namespace Meaning

/-- The shell's other own commands. -/
def ownNames : List Text :=
  ["[", "alias", "bg", "cd", "chdir", "command", "echo", "false", "fc", "fg", "getopts", "hash",
   "jobs", "kill", "printf", "pwd", "read", "test", "true", "type", "ulimit", "umask",
   "unalias", "wait"]

/-- Where programs are looked for. -/
def places (shell : State) : Text :=
  (shell.valueOf? "PATH").getD []

/-- What a name means. -/
def ofName (shell : State) (name : Text) : Meaning :=
  if Script.reserved.contains name then reserved
  else if Script.isLasting name then special
  else if shell.functions.has name then function
  else if ownNames.contains name then own
  else
    match Search.path? shell.disk shell.directory (places shell) name with
    | some path => program path
    | none => nothing

/-- What is said about the meaning of a name, and whether it has one. -/
def explain (shell : State) (name : Text) : Text × Bool :=
  let say (text : String) : Text × Bool := (name ++ text.toList ++ ['\n'], true)
  match ofName shell name with
  | reserved => say " is a shell keyword"
  | special => say " is a special shell builtin"
  | function => say " is a shell function"
  | own => say " is a shell builtin"
  | program path =>
    let isKnown := shell.known.contains name && !name.contains '/'
    (name ++ (if isKnown then (" is a tracked alias for " : Text) else " is ") ++ path ++ ['\n'],
      true)
  | nothing => (name ++ (": not found\n" : Text), false)

/-- The shortest text that means the same as a name, if it means anything. -/
def short? (shell : State) (name : Text) : Option Text :=
  match ofName shell name with
  | program path => some path
  | nothing => none
  | _ => some name

end Meaning

namespace OwnCommand

/-- Remembers where a program is. -/
def remember (name : Text) (shell : State) : State :=
  match Meaning.ofName shell name with
  | .program _ =>
    if shell.known.contains name then shell else { shell with known := name :: shell.known }
  | _ => shell

/-- Explains names. -/
def explainNames : OwnCommand := fun names => do
  let told ← names.mapM fun name => do
    let (text, isFound) := Meaning.explain (← get) name
    Act.print text
    Act.change (remember name)
    pure isFound
  Act.finish (if told.all id then 0 else 127)

/-- Explains one name, at length or in short. -/
def explainName (atLength : Bool) (name : Text) : Act Unit := do
  let shell ← get
  if atLength then
    let (text, isFound) := Meaning.explain shell name
    Act.print text
    Act.finish (if isFound then 0 else 127)
  else
    match Meaning.short? shell name with
    | some text => Act.print (text ++ ['\n'])
    | none => Act.finish 127
  Act.change (remember name)

end OwnCommand

end Issuebook.Shell
