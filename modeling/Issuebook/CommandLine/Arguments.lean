import Issuebook.Entries

/-!
# Arguments

How a list of arguments is cut into options, their values and words. A long option takes
its value from behind an equals sign or from the next argument, a short one from the
characters behind it or from the next argument.
-/

namespace Issuebook

/-- An option that a command knows. -/
structure OptionSpec where
  /-- Its name with dashes. -/
  name : Text
  /-- Its letter, if it has a short form. -/
  letter : Option Char
  /-- Whether it takes a value. -/
  takesValue : Bool
  /-- What it is for. -/
  purpose : Text
  deriving Repr, DecidableEq, Inhabited

/-- The reasons why arguments make no command. -/
inductive UsageFault where
  /-- Nothing is asked for. -/
  | empty
  /-- No option has this name. -/
  | unknownOption (written : Text)
  /-- An option lacks its value. -/
  | missingValue (name : Text)
  /-- An option takes no value, but has one. -/
  | needlessValue (name : Text)
  /-- An option does not allow its value. -/
  | badValue (name value : Text)
  /-- No command has this name. -/
  | unknownCommand (name : Text)
  /-- The command takes no words. -/
  | extraWord (word : Text)
  deriving Repr, DecidableEq, Inhabited

/-- Arguments cut into options and words. -/
structure Arguments where
  /-- The options in order, each with its value if it takes one. -/
  options : List (Text × Option Text)
  /-- The words in order. -/
  words : List Text
  deriving Repr, DecidableEq, Inhabited

namespace Arguments

/-- How one argument reads. -/
inductive Reading where
  /-- As the end of all options. -/
  | endMark
  /-- As a word. -/
  | word
  /-- As an option with everything it needs. -/
  | complete (name : Text) (value : Option Text)
  /-- As an option whose value is the next argument. -/
  | pending (name : Text)
  deriving Repr, DecidableEq

/-- The argument as a long option. -/
def readLong? (specs : List OptionSpec) (argument : Text) : Option (Except UsageFault Reading) :=
  let (name, value) :=
    match Text.cutAtChar? '=' argument with
    | some (name, value) => (name, some value)
    | none => (argument, none)
  (specs.find? fun spec => spec.name = name).map fun spec =>
    match spec.takesValue, value with
    | true, some value => .ok (.complete name (some value))
    | true, none => .ok (.pending name)
    | false, some _ => .error (.needlessValue name)
    | false, none => .ok (.complete name none)

/-- The argument as a short option that takes a value. -/
def readShort (specs : List OptionSpec) (argument : Text) : Except UsageFault Reading :=
  match argument with
  | _ :: letter :: value =>
    match specs.find? fun spec => spec.letter = some letter && spec.takesValue with
    | some spec =>
      .ok (if value.isEmpty then .pending spec.name else .complete spec.name (some value))
    | none => .error (.unknownOption argument)
  | _ => .error (.unknownOption argument)

/-- How an argument reads by itself. -/
def read (specs : List OptionSpec) (argument : Text) : Except UsageFault Reading :=
  if argument = ("--" : Text) then .ok .endMark
  else if argument.head? = some '-' ∧ 1 < argument.length then
    match readLong? specs argument with
    | some reading => reading
    | none =>
      if Text.startsWith argument ['-', '-'] then .error (.unknownOption argument)
      else readShort specs argument
  else .ok .word

/-- The arguments with one more option in front. -/
def withOption (name : Text) (value : Option Text) (rest : Arguments) : Arguments :=
  { rest with options := (name, value) :: rest.options }

/-- Cuts arguments into options and words. Where `stopsAtWord`, everything from the first
word on is words. -/
def scan (specs : List OptionSpec) (stopsAtWord : Bool) :
    List Text → Except UsageFault Arguments
  | [] => .ok ⟨[], []⟩
  | argument :: rest =>
    match read specs argument with
    | .error fault => .error fault
    | .ok .endMark => .ok ⟨[], rest⟩
    | .ok .word =>
      if stopsAtWord then .ok ⟨[], argument :: rest⟩
      else (scan specs stopsAtWord rest).map fun later =>
        { later with words := argument :: later.words }
    | .ok (.complete name value) =>
      (scan specs stopsAtWord rest).map (withOption name value)
    | .ok (.pending name) =>
      match rest with
      | [] => .error (.missingValue name)
      | value :: rest => (scan specs stopsAtWord rest).map (withOption name (some value))

/-- Whether an option is given. -/
def hasOption (arguments : Arguments) (name : Text) : Bool :=
  arguments.options.any fun (found, _) => found = name

/-- The value of an option; the last one counts. -/
def value? (arguments : Arguments) (name : Text) : Option Text :=
  arguments.options.reverse.findSome? fun (found, value) =>
    if found = name then value else none

end Arguments

end Issuebook
