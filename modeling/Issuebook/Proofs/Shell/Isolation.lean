import Issuebook.Shell.Subshell
import Mathlib.Tactic.SplitIfs

/-!
# Subshells

A part of a script that runs in a shell of its own cannot change what the shell around it keeps for
itself: its variables, arguments, functions, traps, options, working directory, mask and streams. So
it is for a part between parentheses, for the output inside a word, and for a command that is not
waited for, whatever the part does: `run_isolated`, `sameSelf_output`, `sameSelf_background`. Only a
signal to the part reaches the shell, which may have a script for it.
-/

namespace Issuebook.Shell

/-- Two states of a shell with the same of all that it keeps for itself. -/
structure State.SameSelf (before after : State) : Prop where
  /-- The name it complains under. -/
  name : after.name = before.name
  /-- The number under which it runs. -/
  number : after.number = before.number
  /-- The variables. -/
  bindings : after.bindings = before.bindings
  /-- The arguments. -/
  arguments : after.arguments = before.arguments
  /-- The functions. -/
  functions : after.functions = before.functions
  /-- The scripts that run at signals. -/
  traps : after.traps = before.traps
  /-- The options. -/
  options : after.options = before.options
  /-- The working directory. -/
  directory : after.directory = before.directory
  /-- The mask of new files. -/
  mask : after.mask = before.mask
  /-- Where the streams lead. -/
  streams : after.streams = before.streams
  /-- The programs whose place is known. -/
  known : after.known = before.known
  /-- The number of functions that are running. -/
  depth : after.depth = before.depth
  /-- The number of loops that are running. -/
  loops : after.loops = before.loops
  /-- What the variables of the running function were before. -/
  saved : after.saved = before.saved

namespace State.SameSelf

variable {before between after : State}

/-- A shell is the same self as itself. -/
theorem refl (shell : State) : SameSelf shell shell := by
  constructor <;> rfl

/-- It stays so through several changes. -/
theorem trans (first : SameSelf before between) (second : SameSelf between after) :
    SameSelf before after where
  name := second.name.trans first.name
  number := second.number.trans first.number
  bindings := second.bindings.trans first.bindings
  arguments := second.arguments.trans first.arguments
  functions := second.functions.trans first.functions
  traps := second.traps.trans first.traps
  options := second.options.trans first.options
  directory := second.directory.trans first.directory
  mask := second.mask.trans first.mask
  streams := second.streams.trans first.streams
  known := second.known.trans first.known
  depth := second.depth.trans first.depth
  loops := second.loops.trans first.loops
  saved := second.saved.trans first.saved

/-- Time that passes brings in what others printed, and nothing else. -/
theorem pass (time : Nat) (shell : State) : SameSelf shell (shell.pass time) := by
  unfold State.pass
  dsimp only
  split
  · exact refl shell
  · constructor <;> rfl

end State.SameSelf

open State (SameSelf)

/-! ## Actions -/

/-- An action that gives a value is followed by what is made of the value. -/
theorem Act.bind_of_gives {α β : Type} {act : Act α} {next : α → Act β} {shell left : State}
    {value : α} (gives : act shell = (.ok value, left)) :
    (act >>= next) shell = next value left := by
  simp only [bind, ExceptT.bind, ExceptT.mk, StateT.bind]
  rw [gives]
  rfl

/-- What follows a look at the shell sees the shell. -/
theorem Act.get_bind {β : Type} (next : State → Act β) (shell : State) :
    (get >>= next : Act β) shell = next shell shell := rfl

/-- What follows a new state runs in it. -/
theorem Act.set_bind {β : Type} (new : State) (next : PUnit → Act β) (shell : State) :
    (set new >>= next : Act β) shell = next () new := rfl

/-- What follows a change runs in the changed shell. -/
theorem Act.change_bind {β : Type} (update : State → State) (next : Unit → Act β)
    (shell : State) : (Act.change update >>= next : Act β) shell = next () (update shell) := rfl

/-- An action that leaves early is followed by nothing. -/
theorem Act.bind_of_leaves {α β : Type} {act : Act α} {next : α → Act β} {shell left : State}
    {flow : Flow} (leaves : act shell = (.error flow, left)) :
    (act >>= next) shell = (.error flow, left) := by
  simp only [bind, ExceptT.bind, ExceptT.mk, StateT.bind]
  rw [leaves]
  rfl

/-- An action that is run to its end gives what follows it. -/
theorem Act.exists_settle (act : Act Unit) (shell : State) :
    ∃ flow after, Act.settle act shell = (.ok flow, after) := by
  unfold Act.settle
  rcases act shell with ⟨⟨⟩ | ⟨⟩, after⟩ <;> exact ⟨_, _, rfl⟩

/-- Running an action to its end leaves the shell that the action leaves. -/
theorem Act.settle_snd (act : Act Unit) (shell : State) :
    (Act.settle act shell).2 = (act shell).2 := by
  unfold Act.settle
  rcases act shell with ⟨⟨⟩ | ⟨⟩, after⟩ <;> rfl

namespace Subshell

/-- What a part of a script leaves is not what its shell keeps for itself. -/
theorem sameSelf_leave (before after : State) : SameSelf before (leave before after) := by
  refine .trans ?_ (.pass _ _)
  constructor <;> rfl

/-- What follows a part of a script: a signal to the part reaches the shell. -/
def conclude (script : ScriptRunner) : Option Flow → Act Unit
  | some (.signal number) => deliver script number
  | flow => Act.resume flow

/-- A shell without scripts for signals is not changed by one. -/
theorem deliver_of_untrapped {shell : State} (untrapped : ∀ trap ∈ shell.traps, trap.2 = [])
    (script : ScriptRunner) (signal : Nat) : (deliver script signal shell).2 = shell := by
  have empty {text : Text} (known : (if signal = Signal.kill then none
      else shell.traps.lookup signal) = some text) : text = [] := by
    split_ifs at known
    obtain ⟨front, back, whole, -⟩ := List.lookup_eq_some_iff.mp known
    exact untrapped (signal, text) (by simp [whole])
  unfold deliver
  by_cases none : signal = 0
  · rw [if_pos none]
    rfl
  · rw [if_neg none, Act.get_bind]
    generalize (if signal = Signal.kill then Option.none else shell.traps.lookup signal) = found
      at empty ⊢
    cases found with
    | some text =>
        rw [empty rfl]
        rfl
    | none =>
        dsimp only
        split
        · rfl
        · split <;> rfl

/-- What follows a part does not change a shell without scripts for signals. -/
theorem conclude_of_untrapped {shell : State} (untrapped : ∀ trap ∈ shell.traps, trap.2 = [])
    (script : ScriptRunner) (flow : Option Flow) : (conclude script flow shell).2 = shell := by
  rcases flow with _ | flow
  · rfl
  · cases flow with
    | signal number => exact deliver_of_untrapped untrapped script number
    | _ => rfl

/-- A part of a script in a shell of its own leaves the shell around it with all that it keeps for
itself. -/
theorem run_isolated (script : ScriptRunner) (body : Act Unit) (shell : State) :
    ∃ left flow, SameSelf shell left ∧ run script body shell = conclude script flow left := by
  obtain ⟨flow, inner, ended⟩ := Act.exists_settle (toEnd script body) (enter shell)
  refine ⟨leave shell inner, flow, sameSelf_leave shell inner, ?_⟩
  unfold run
  rw [Act.get_bind, Act.set_bind, Act.bind_of_gives ended, Act.change_bind]
  rcases flow with _ | flow
  · rfl
  · cases flow <;> rfl

/-- A shell whose output goes to a new channel. -/
def capturing (shell : State) : State :=
  shell.openOutput.2.lead 1 (some (.output shell.openOutput.1))

section Untrapped

variable {shell : State} (untrapped : ∀ trap ∈ shell.traps, trap.2 = []) (script : ScriptRunner)
include untrapped

/-- A shell without scripts for signals is the same self behind a part of its script. -/
theorem sameSelf_run (body : Act Unit) : SameSelf shell (run script body shell).2 := by
  obtain ⟨left, flow, same, ended⟩ := run_isolated script body shell
  rw [ended, conclude_of_untrapped (same.traps ▸ untrapped)]
  exact same

/-- The same for a part whose output is taken. -/
theorem captureAll_isolated (body : Act Unit) : ∃ found left,
    captureAll script body shell = (.ok found, left) ∧ SameSelf shell left := by
  let part : Act Unit := do
    let flow ← Act.settle body
    Act.change settle
    Act.resume flow
  obtain ⟨flow, left, ended⟩ := Act.exists_settle (run script part) (capturing shell)
  have untrappedThere : ∀ trap ∈ (capturing shell).traps, trap.2 = [] := untrapped
  have same : SameSelf (capturing shell) left := by
    have whole := sameSelf_run untrappedThere script part
    rwa [← Act.settle_snd, ended] at whole
  unfold captureAll
  rw [Act.get_bind]
  dsimp only
  rw [Act.set_bind]
  exact ⟨_, _, (Act.bind_of_gives ended).trans rfl, { same with streams := rfl }⟩

/-- The same for the output inside a word. -/
theorem sameSelf_output (text : Text) : SameSelf shell (output script text shell).2 := by
  let start : State := { shell with isTested := false }
  obtain ⟨⟨printed, flow⟩, left, taken, same⟩ :=
    @captureAll_isolated start untrapped script (script text)
  have self : SameSelf shell left := { same with }
  have captured : capture script (script text) start =
      ((Act.resume flow >>= fun _ => pure printed : Act Text) left) := by
    unfold capture
    rw [Act.bind_of_gives taken]
  unfold output
  rw [Act.get_bind, Act.set_bind]
  cases flow with
  | some flow =>
      rw [Act.bind_of_leaves (captured.trans rfl)]
      exact self
  | none =>
      rw [Act.bind_of_gives (captured.trans rfl)]
      exact { self with }

/-- The same for a command that is not waited for. -/
theorem sameSelf_background (body : Act Unit) :
    SameSelf shell (background script body shell).2 := by
  obtain ⟨flow, inner, ended⟩ := Act.exists_settle (toEnd script body)
    { (enter shell).lead 0 (some .nowhere) with printed := [] }
  unfold background
  rw [Act.get_bind]
  dsimp only
  rw [Act.set_bind, Act.bind_of_gives ended, Act.get_bind,
    Act.set_bind]
  rcases flow with _ | flow
  · constructor <;> rfl
  · cases flow with
    | signal signal =>
        dsimp only
        rw [deliver_of_untrapped (by exact untrapped)]
        constructor <;> rfl
    | _ => constructor <;> rfl

end Untrapped

end Subshell

end Issuebook.Shell
