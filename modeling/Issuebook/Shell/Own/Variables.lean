import Issuebook.Shell.Own.Basic
import Issuebook.Shell.Field

/-!
# Own commands for variables

Variables become public, fixed, local to a function, or vanish; arguments move up.
-/

namespace Issuebook.Shell.OwnCommand

/-- The name and the value of an argument that sets a variable. -/
def cutSetting (argument : Text) : Text × Option Text :=
  match Text.cutAtChar? '=' argument with
  | some (name, value) => (name, some value)
  | none => (argument, none)

/-- Sets variables and marks them, or tells which ones are marked. -/
def mark (start : Text) (isMarked : Variable → Bool) (set : Variable → Variable) :
    OwnCommand := fun arguments => do
  let (_, settings) ← options ['p'] arguments
  if settings.isEmpty then
    let marked := (← get).bindings.filter fun (_, found) => isMarked found
    Act.print (settingLines start marked)
  else
    settings.forM fun setting => do
      let (name, value) := cutSetting setting
      checkName name
      match value with
      | some value => Act.assign name value
      | none => pure ()
      Act.change fun shell =>
        { shell with
          bindings := shell.bindings.put name (set ((shell.bindings.get? name).getD {})) }
    Act.finish 0

/-- Makes variables public. -/
def publish : OwnCommand :=
  mark "export " Variable.isPublic fun found => { found with isPublic := true }

/-- Fixes the values of variables. -/
def fix : OwnCommand :=
  mark "readonly " Variable.isFixed fun found => { found with isFixed := true }

/-- Forgets variables or functions. -/
def forget : OwnCommand := fun arguments => do
  let (letters, names) ← options ['v', 'f'] arguments
  names.forM fun name => do
    if letters.getLast? = some 'f' then
      Act.change fun shell => { shell with functions := shell.functions.erase name }
    else
      checkName name
      if (← get).isFixed name then Act.fail (name ++ (": is read only" : Text))
      else Act.change (State.restoreVariable name none)
  Act.finish 0

/-- Keeps variables of a function apart from those outside. -/
def keep : OwnCommand := fun arguments => do
  if (← get).depth = 0 then Act.fail "not in a function"
  else
    arguments.forM fun setting => do
      let (name, value) := cutSetting setting
      checkName name
      Act.change fun shell =>
        if shell.saved.has name then shell
        else { shell with saved := shell.saved.put name (shell.bindings.get? name) }
      match value with
      | some value => Act.assign name value
      | none => pure ()
    Act.finish 0

/-- Drops the first arguments. -/
def shift : OwnCommand := fun arguments => do
  let count ←
    match arguments with
    | [] => pure 1
    | written :: _ => number written
  let shell ← get
  if shell.arguments.length < count then Act.fail "can't shift that many"
  else set { shell with arguments := shell.arguments.drop count, status := 0 }

/-- The options with their letters, in the order in which they are told. -/
def optionNames : List (Text × Option Char) :=
  [("errexit", some 'e'), ("noglob", some 'f'), ("ignoreeof", some 'I'),
   ("interactive", some 'i'), ("monitor", some 'm'), ("noexec", some 'n'), ("stdin", some 's'),
   ("xtrace", some 'x'), ("verbose", some 'v'), ("vi", some 'V'), ("emacs", some 'E'),
   ("noclobber", some 'C'), ("allexport", some 'a'), ("notify", some 'b'),
   ("nounset", some 'u'), ("privileged", some 'p'), ("nolog", none), ("debug", none)]

/-- Sets or drops the option of a letter. -/
def setOption (isSet : Bool) (letter : Char) : Act Unit :=
  if optionNames.any fun (_, found) => found = some letter then
    Act.change fun shell =>
      let others := shell.options.filter (· ≠ letter)
      { shell with options := if isSet then letter :: others else others }
  else Act.fail (("Illegal option -" : Text) ++ [letter])

/-- Sets or drops the option of a name. -/
def setNamed (isSet : Bool) (name : Text) : Act Unit :=
  match optionNames.lookup name with
  | some (some letter) => setOption isSet letter
  | some none => pure ()
  | none =>
    Act.fail (("Illegal option " : Text) ++ (if isSet then '-' else '+') :: 'o' :: ' ' :: name)

/-- Tells which options are set. -/
def tellOptions (isSet : Bool) : Act Unit := do
  let shell ← get
  let has (letter : Option Char) : Bool := letter.any shell.hasOption
  if isSet then
    Act.print (("Current option settings\n" : Text) ++ optionNames.flatMap fun (name, letter) =>
      name ++ List.replicate (16 - name.length) ' ' ++
        (if has letter then ("on\n" : Text) else "off\n"))
  else
    Act.print (optionNames.flatMap fun (name, letter) =>
      (if has letter then ("set -o " : Text) else "set +o ") ++ name ++ ['\n'])

/-- Sets the options of the letters behind a sign; the letter `o` takes the next argument as a
name. The arguments that are left follow. -/
def setLetters (isSet : Bool) : List Char → List Text → Act (List Text)
  | [], rest => pure rest
  | 'o' :: letters, name :: rest => do
    setNamed isSet name
    setLetters isSet letters rest
  | 'o' :: letters, [] => do
    tellOptions isSet
    setLetters isSet letters []
  | letter :: letters, rest => do
    setOption isSet letter
    setLetters isSet letters rest

/-- Sets options, and gives the arguments behind them; none when there are no others. -/
def setOptions : (fuel : Nat) → List Text → Act (Option (List Text))
  | 0, arguments => pure (some arguments)
  | _, [] => pure none
  | _, ['-', '-'] :: rest => pure (some rest)
  | _, ['-'] :: rest => do
    Act.change fun shell =>
      { shell with options := shell.options.filter fun letter => letter ≠ 'x' ∧ letter ≠ 'v' }
    pure (if rest.isEmpty then none else some rest)
  | fuel + 1, ('-' :: letters) :: rest => do setOptions fuel (← setLetters true letters rest)
  | fuel + 1, ('+' :: letters) :: rest => do setOptions fuel (← setLetters false letters rest)
  | _, arguments => pure (some arguments)

/-- Sets options and the arguments, or tells all variables. -/
def configure : OwnCommand := fun arguments => do
  if arguments.isEmpty then Act.print (settingLines [] ((← get).bindings.filter fun (_, found) =>
    found.value.isSome))
  else
    match ← setOptions (arguments.length + 1) arguments with
    | some arguments =>
      Act.change fun shell => { shell with arguments := arguments, optionOffset := 0 }
    | none => pure ()
    Act.finish 0

end Issuebook.Shell.OwnCommand

/-!
## Own commands that read

A line of the input is cut into the values of variables; the arguments of a script are read
option by option.
-/

namespace Issuebook.Shell.OwnCommand

/-- The line at the front of a text, with escapes resolved unless `isRaw`; whether it has an
end; and the rest. A glyph is active when no backslash stands before it. -/
def takeLine (isRaw : Bool) : Text → List Glyph × Bool × Text
  | [] => ([], false, [])
  | '\n' :: rest => ([], true, rest)
  | '\\' :: '\n' :: rest =>
    if isRaw then ([⟨'\\', true⟩], true, rest) else takeLine isRaw rest
  | '\\' :: char :: rest =>
    if isRaw then
      let (line, isWhole, rest) := takeLine isRaw (char :: rest)
      (⟨'\\', true⟩ :: line, isWhole, rest)
    else
      let (line, isWhole, rest) := takeLine isRaw rest
      (⟨char, false⟩ :: line, isWhole, rest)
  | char :: rest =>
    let (line, isWhole, rest) := takeLine isRaw rest
    (if char.val = 0 then line else ⟨char, true⟩ :: line, isWhole, rest)

/-- Cuts a line into the values of variables; the last one gets all that is left. -/
def cutLine (cutters : Text) : (count : Nat) → List Glyph → List Text
  | 0, _ => []
  | count + 1, line =>
    let cuts (glyph : Glyph) : Bool := glyph.isActive && cutters.contains glyph.char
    let isSpace (glyph : Glyph) : Bool := cuts glyph && Fields.isBlank glyph.char
    let line := line.dropWhile isSpace
    let field := line.takeWhile fun glyph => !cuts glyph
    let behind := (line.drop field.length).dropWhile isSpace
    let next :=
      match behind with
      | glyph :: rest => if cuts glyph then rest.dropWhile isSpace else behind
      | [] => []
    if count = 0 then
      let last := if next.isEmpty then field else (line.reverse.dropWhile isSpace).reverse
      [last.map Glyph.char]
    else field.map Glyph.char :: cutLine cutters count next

/-- Reads a line into variables. -/
def readLine : OwnCommand := fun arguments => do
  let (letters, names) ← optionsWithPrompt (arguments.length + 1) arguments
  if names.isEmpty then Act.fail "arg count"
  else
    let shell ← get
    let (line, isWhole, rest) :=
      takeLine (letters.contains 'r') (shell.readable (shell.endpoint? 0))
    set (shell.leaveInput (shell.endpoint? 0) rest)
    (names.zip (cutLine shell.cutters names.length line)).forM fun (name, value) => do
      checkName name
      Act.assign name value
    Act.finish (if isWhole then 0 else 1)
where
  /-- The options in front, one of which is followed by a text, and the arguments. -/
  optionsWithPrompt : (fuel : Nat) → List Text → Act (List Char × List Text)
    | 0, arguments => pure ([], arguments)
    | fuel + 1, ['-', 'p'] :: _ :: rest => optionsWithPrompt fuel rest
    | fuel + 1, ['-', 'r'] :: rest => do
      let (letters, names) ← optionsWithPrompt fuel rest
      pure ('r' :: letters, names)
    | _, arguments => options ['r'] arguments

/-- What reading an option gives: its letter, its argument, the index of the next argument and
the characters read of the one before it. -/
structure OptionStep where
  /-- The letter, or a sign in its place. -/
  letter : Char
  /-- The argument of the option, if it is to be set. -/
  argument : Option Text
  /-- The index of the next argument, from one on. -/
  index : Nat
  /-- The characters read of the argument before it, zero when all are read. -/
  offset : Nat
  /-- What there is to complain about. -/
  complaint : Text := []
  /-- Whether no option is left. -/
  isOver : Bool := false

/-- The step that finds no option. -/
def noOption (index : Nat) : OptionStep :=
  { letter := '?', argument := none, index := index, offset := 0, isOver := true }

/-- Reads an option whose letter is known, with what follows it in its argument. -/
def optionStep (known : Text) (arguments : List Text) (index offset : Nat) (letter : Char)
    (rest : Text) : OptionStep :=
  let isQuiet := known.head? = some ':'
  let behind := (known.dropWhile (· ≠ letter)).drop 1
  let offset := if rest.isEmpty then 0 else offset + 1
  if letter = ':' ∨ !known.contains letter then
    if isQuiet then ⟨'?', some [letter], index, offset, [], false⟩
    else
      ⟨'?', none, index, offset, ("Illegal option -" : Text) ++ [letter, '\n'], false⟩
  else if behind.head? = some ':' then
    if !rest.isEmpty then ⟨letter, some rest, index, 0, [], false⟩
    else
      match arguments[index - 1]? with
      | some argument => ⟨letter, some argument, index + 1, 0, [], false⟩
      | none =>
        if isQuiet then ⟨':', some [letter], index, 0, [], false⟩
        else
          ⟨'?', none, index, 0,
            ("No arg for -" : Text) ++ letter :: (" option\n" : Text), false⟩
  else ⟨letter, some [], index, offset, [], false⟩

/-- Reads the next option of arguments. -/
def nextOption (known : Text) (arguments : List Text) (index offset : Nat) : OptionStep :=
  let current := if index ≤ 1 then [] else (arguments[index - 2]?).getD []
  match if offset = 0 then [] else current.drop offset with
  | letter :: rest => optionStep known arguments index offset letter rest
  | [] =>
    match arguments[index - 1]? with
    | some ['-', '-'] => noOption (index + 1)
    | some ('-' :: letter :: rest) => optionStep known arguments (index + 1) 1 letter rest
    | _ => noOption index

/-- Reads the next option of the arguments into a variable. -/
def readOption : OwnCommand := fun arguments => do
  match arguments with
  | known :: name :: rest =>
    let shell ← get
    let words := if rest.isEmpty then shell.arguments else rest
    let index := ((shell.valueOf? "OPTIND").bind number?).getD 1
    let index := if index = 0 then 1 else index
    let offset := if index ≤ 1 then 0 else shell.optionOffset
    let step := nextOption known words index offset
    Act.change (State.print 2 step.complaint)
    match step.argument with
    | some argument => Act.assign "OPTARG" argument
    | none => if step.isOver then pure () else Act.change (State.restoreVariable "OPTARG" none)
    Act.assign "OPTIND" (Text.ofNat step.index)
    checkName name
    Act.assign name [step.letter]
    Act.change fun shell =>
      { shell with optionOffset := step.offset, status := if step.isOver then 1 else 0 }
  | _ => Act.fail "Usage: getopts optstring var [arg...]"

end Issuebook.Shell.OwnCommand
