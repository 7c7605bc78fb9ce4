import Issuebook.CommandLine.Arguments
import Issuebook.Journal
import Issuebook.Number.Reading
import Issuebook.Reconciliation.Plan
import Issuebook.Rollup.Compilation

/-!
# Invocations

The commands of the program and how they are written: options for all commands in front,
the name of the command, and its own options.
-/

namespace Issuebook

/-- A command with its options. -/
inductive Command where
  /-- Reconciles both sides. -/
  | sync (direction : Direction) (isDry deletes : Bool) (strategy : Option Strategy)
      (lastAgreedAt root : Option Text)
  /-- Writes the rollup. -/
  | build (output : Text) (options : RollupOptions) (root : Option Text)
  /-- Sets up a project. -/
  | init (preset : Option Text) (withoutBeads force : Bool) (root : Option Text)
  deriving Repr, DecidableEq

/-- The root of the project that a command names. -/
def Command.root? : Command → Option Text
  | .sync _ _ _ _ _ root => root
  | .build _ _ root => root
  | .init _ _ _ root => root

/-- What the program is asked to do. -/
inductive Invocation where
  /-- To tell its version. -/
  | version
  /-- To tell how it or one of its commands is used. -/
  | help (command : Option Text)
  /-- To run a command, printing notices from a level on. -/
  | run (level : Option Level) (command : Command)
  deriving Repr, DecidableEq

namespace Invocation

/-- An option without a value. -/
def flag (name purpose : String) : OptionSpec :=
  ⟨name.toList, none, false, purpose.toList⟩

/-- An option with a value. -/
def valued (name : String) (letter : Option Char) (purpose : Text) : OptionSpec :=
  ⟨name.toList, letter, true, purpose⟩

/-- What an option is for whose value is one of some names. -/
def choiceOf (subject : String) (names : List Text) : Text :=
  subject.toList ++ (": " : Text) ++ Text.join ", " names

/-- The option that asks for help. -/
def helpOption : OptionSpec := flag "--help" "Show this message and exit."

/-- The option that names the root of a project. -/
def rootOption : OptionSpec := valued "--root" none "Project directory."

/-- The options for all commands. -/
def globalOptions : List OptionSpec :=
  [valued "--log-level" none (choiceOf "Log level" (Level.all.map Level.name)),
   flag "--no-color" "Disable colorized log output.",
   flag "--version" "Show the version and exit.", helpOption]

/-- The options of the reconciliation. -/
def syncOptions : List OptionSpec :=
  [valued "--direction" (some 'd') (choiceOf "One of" (Direction.all.map Direction.name)),
   flag "--dry-run" "Report planned changes without writing.",
   flag "--handle-deletions" "Propagate deletions instead of recreating missing issues.",
   valued "--strategy" none (choiceOf "Conflict strategy" Strategy.names),
   valued "--last-synced" none
     "ISO-8601 time of the previous sync, for conflict detection.",
   rootOption, helpOption]

/-- The options of the rollup. -/
def buildOptions : List OptionSpec :=
  [valued "--output" (some 'o') "Output file.",
   flag "--no-completed" "Omit the recently completed section.",
   valued "--completed-limit" none "Closed issues to list.", rootOption, helpOption]

/-- The options of the setting up. -/
def initOptions : List OptionSpec :=
  [valued "--preset" none "Built-in issue template preset.",
   flag "--no-beads" "Disable beads integration.",
   flag "--force" "Overwrite an existing todo.config.json.", rootOption, helpOption]

/-- The value of an option among choices, in any case. -/
def choice {α : Type} (arguments : Arguments) (name : Text) (ofName? : Text → Option α) :
    Except UsageFault (Option α) :=
  match arguments.value? name with
  | none => .ok none
  | some written =>
    match ofName? (Text.lower (Text.trim written)) with
    | some chosen => .ok (some chosen)
    | none => .error (.badValue name written)

/-- The value of an option, none when it is empty. -/
def nonEmpty? (arguments : Arguments) (name : Text) : Option Text :=
  match arguments.value? name with
  | some [] => none
  | value => value

/-- The greatest number of closed issues to show, which is not negative. -/
def closedLimit (arguments : Arguments) : Except UsageFault Int :=
  let name : Text := "--completed-limit"
  match arguments.value? name with
  | none => .ok ({} : RollupOptions).closedLimit
  | some written =>
    match Number.ofWritten? written with
    | some limit => if limit < 0 then .error (.badValue name written) else .ok limit
    | none => .error (.badValue name written)

/-- The first word, which no command takes. -/
def refuseWords (arguments : Arguments) : Except UsageFault Unit :=
  match arguments.words with
  | [] => .ok ()
  | word :: _ => .error (.extraWord word)

/-- The command that reconciles. -/
def readSync (arguments : Arguments) : Except UsageFault Command := do
  let direction ← choice arguments "--direction" Direction.ofName?
  let strategy ← choice arguments "--strategy" Strategy.ofName?
  refuseWords arguments
  pure (.sync (direction.getD .bothWays) (arguments.hasOption "--dry-run")
    (arguments.hasOption "--handle-deletions") strategy (nonEmpty? arguments "--last-synced")
    (nonEmpty? arguments "--root"))

/-- The name of the rollup's file. -/
def standardOutput : Text := "TODO.md"

/-- The command that writes the rollup. -/
def readBuild (arguments : Arguments) : Except UsageFault Command := do
  let limit ← closedLimit arguments
  refuseWords arguments
  pure (.build ((nonEmpty? arguments "--output").getD standardOutput)
    ⟨!arguments.hasOption "--no-completed", limit⟩ (nonEmpty? arguments "--root"))

/-- The command that sets up a project. -/
def readInit (arguments : Arguments) : Except UsageFault Command := do
  refuseWords arguments
  pure (.init (nonEmpty? arguments "--preset") (arguments.hasOption "--no-beads")
    (arguments.hasOption "--force") (nonEmpty? arguments "--root"))

/-- The options of each command, and how its arguments are read. -/
def commands : Entries (List OptionSpec × (Arguments → Except UsageFault Command)) :=
  [("sync", syncOptions, readSync), ("build", buildOptions, readBuild),
   ("init", initOptions, readInit)]

/-- The level of a name; only the full names count. -/
def levelOfName? (name : Text) : Option Level :=
  Level.all.find? fun level => level.name = name

/-- What the first option that asks about the program itself asks for. -/
def asked? (front : Arguments) : Option Invocation :=
  front.options.findSome? fun (name, _) =>
    if name = helpOption.name then some (.help none)
    else if name = ("--version" : Text) then some .version
    else none

/-- The invocation of words that begin with no command. Behind the mark that ends the options
they may still be options, which can ask about the program itself and nothing else. -/
def ofOtherWords (name : Text) (rest : List Text) : Except UsageFault Invocation := do
  let again ← Arguments.scan globalOptions true (name :: rest)
  match asked? again with
  | some invocation => pure invocation
  | none => .error (.unknownCommand name)

/-- The invocation of a command by its name and its arguments. -/
def ofCommand (level : Option Level) (name : Text) (rest : List Text) :
    Except UsageFault Invocation :=
  match commands.get? name with
  | none => ofOtherWords name rest
  | some (specs, read) => do
    let arguments ← Arguments.scan specs false rest
    if arguments.hasOption helpOption.name then pure (.help (some name))
    else
      let command ← read arguments
      pure (.run level command)

/-- The invocation that arguments write. -/
def ofArguments (arguments : List Text) : Except UsageFault Invocation :=
  if arguments.isEmpty then .error .empty
  else do
    let front ← Arguments.scan globalOptions true arguments
    match asked? front with
    | some invocation => pure invocation
    | none =>
      let level ← choice front "--log-level" levelOfName?
      match front.words with
      | [] => .error .empty
      | name :: rest => ofCommand level name rest

end Invocation

end Issuebook

/-!
## Usage

What the program says about itself: its version, how it and its commands are used, and why
arguments make no command.
-/

namespace Issuebook

/-- The sentence about arguments that make no command. -/
def UsageFault.message : UsageFault → Text
  | .empty => "Missing command."
  | .unknownOption written => ("No such option: " : Text) ++ written
  | .missingValue name =>
    ("Option " : Text) ++ Text.quoted name ++ (" requires an argument." : Text)
  | .needlessValue name =>
    ("Option " : Text) ++ Text.quoted name ++ (" does not take a value." : Text)
  | .badValue name value =>
    ("Invalid value for " : Text) ++ Text.quoted name ++ (": " : Text) ++ Text.quoted value
  | .unknownCommand name =>
    ("No such command " : Text) ++ Text.quoted name ++ ['.']
  | .extraWord word =>
    ("Got unexpected extra argument (" : Text) ++ word ++ [')']

namespace Usage

/-- The name under which the program is called. -/
def programName : Text := "todomd"

/-- The version of the program. -/
def version : Text := "0.0.0"

/-- The line that tells the version. -/
def versionLine : Text :=
  programName ++ ' ' :: (version ++ ['\n'])

/-- How the program, or one of its commands, is called. -/
def synopsis : Option Text → Text
  | none => ("Usage: " : Text) ++ programName ++ (" [OPTIONS] COMMAND [ARGS]...\n" : Text)
  | some command =>
    ("Usage: " : Text) ++ programName ++ ' ' :: (command ++ (" [OPTIONS]\n" : Text))

/-- How an option is written. -/
def optionForm (spec : OptionSpec) : Text :=
  let short : Text :=
    match spec.letter with
    | some letter => [',', ' ', '-', letter]
    | none => []
  spec.name ++ short ++ if spec.takesValue then (" TEXT" : Text) else []

/-- The line about an option. -/
def optionLine (spec : OptionSpec) : Text :=
  ("  " : Text) ++ optionForm spec ++ ("  " : Text) ++ spec.purpose ++ ['\n']

/-- The lines that name the commands. -/
def commandLines : Text :=
  ("Commands:\n" : Text) ++ Invocation.commands.flatMap fun (name, _) =>
    ("  " : Text) ++ name ++ ['\n']

/-- The options that are known at a command, or before all commands. -/
def optionsOf : Option Text → List OptionSpec
  | none => Invocation.globalOptions
  | some command => ((Invocation.commands.get? command).map Prod.fst).getD []

/-- How the program, or one of its commands, is used. -/
def help (command : Option Text) : Text :=
  synopsis command ++ ("Options:\n" : Text) ++ (optionsOf command).flatMap optionLine ++
    if command.isNone then commandLines else []

/-- What is printed about arguments that make no command. -/
def refusal (fault : UsageFault) : Text :=
  synopsis none ++ ("Error: " : Text) ++ fault.message ++ ['\n']

end Usage

end Issuebook
