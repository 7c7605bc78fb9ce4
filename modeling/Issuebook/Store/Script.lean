import Issuebook.Store.Backend

/-!
# Scripted runs

A runner that follows a script in place of a program. Each command gets the next reply, and
every request is kept. After the last reply commands succeed and say nothing.
-/

namespace Issuebook

/-- What a command is answered. -/
structure Reply where
  /-- The number it ends with. -/
  code : Int := 0
  /-- What it prints. -/
  output : Text := []
  /-- What it prints about errors. -/
  errors : Text := []
  /-- Whether it takes too long. -/
  timedOut : Bool := false
  deriving Repr, DecidableEq, Inhabited

/-- The end of a command that gets a reply. -/
def Reply.completion (argv : List Text) (reply : Reply) : Completion :=
  ⟨argv, reply.code, reply.output, reply.errors, reply.timedOut⟩

/-- The replies that are left, none for a program that is not there, and the requests so
far. -/
structure Script where
  /-- The replies that are left. -/
  replies : List (Option Reply)
  /-- The requests, the last one first. -/
  asked : List Request := []
  deriving Repr, DecidableEq

namespace Script

/-- The requests in order. -/
def requests (script : Script) : List Request :=
  script.asked.reverse

/-- The runner that follows a script. -/
def runner : Runner Script := fun script request =>
  let asked := request :: script.asked
  match script.replies with
  | [] => (some (({} : Reply).completion request.argv), ⟨[], asked⟩)
  | reply :: replies => (reply.map (Reply.completion request.argv), ⟨replies, asked⟩)

end Script

end Issuebook
