import Issuebook.CommandLine.Session
import Issuebook.CommandLine.Invocation

/-!
# Conclusions

What a call of the program leaves behind, whatever its arguments are. A call that makes no
command changes nothing and ends with two.
-/

namespace Issuebook

/-- What a call of the program leaves behind. -/
structure Conclusion (State : Type) where
  /-- What it prints. -/
  output : Text
  /-- What it prints to the error stream. -/
  errors : Text
  /-- The number it ends with. -/
  exitCode : Nat
  /-- The notices in order, printed or not. -/
  notices : List Notice
  /-- The disk. -/
  disk : Disk
  /-- What runs the store's program. -/
  state : State
  /-- The fault that the command does not expect, if one ended it. -/
  fault : Option Fault

namespace Conclusion

variable {State : Type}

/-- The conclusion of a call that only prints. -/
def printing (output : Text) (disk : Disk) (state : State) : Conclusion State :=
  ⟨output, [], 0, [], disk, state, none⟩

/-- The conclusion of a call that makes no command. -/
def refusing (fault : UsageFault) (disk : Disk) (state : State) : Conclusion State :=
  ⟨[], Usage.refusal fault, 2, [], disk, state, none⟩

/-- The conclusion of a session whose notices are printed from a level on. -/
def ofSession (least : Level) (session : Session State) : Conclusion State where
  output := session.output least
  errors := session.errors least
  exitCode := session.exitCode
  notices := session.notices
  disk := session.disk
  state := session.state
  fault := session.fault?

end Conclusion

/-- Calls the program with arguments. -/
def CommandLine.call {State : Type} (around : Surroundings) (runner : Runner State)
    (disk : Disk) (state : State) (arguments : List Text) : Conclusion State :=
  match Invocation.ofArguments arguments with
  | .error fault => .refusing fault disk state
  | .ok .version => .printing Usage.versionLine disk state
  | .ok (.help command) => .printing (Usage.help command) disk state
  | .ok (.run level command) =>
    .ofSession (levelOf around.environment level) (run around runner disk state command)

end Issuebook
