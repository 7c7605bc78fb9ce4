import Issuebook.CommandLine.Conclusion
import Issuebook.Proofs.Book.Confinement
import Issuebook.Proofs.CommandLine.Arguments
import Issuebook.Proofs.Reconciliation.Authority

/-!
# What a call may change

A call leaves the disk and the store alone unless its arguments make a command, and the command has
leave. Which arguments make one is `Invocation.ofArguments_eq_run_iff`; `call_dry_keeps` is about a
dry run, however it is written, `build_isConfined` about the rollup, which stays inside its project,
and `init_keeps` about a project that has settings. The number that a call ends with tells whether
it was refused, gave up, or came to its end.
-/

namespace Issuebook

/-- Whether a command only tells what it would do. -/
def Command.isDry : Command → Bool
  | .sync _ isDry _ _ _ _ => isDry
  | _ => false

/-- Whether a command may call the store's program. -/
def Command.callsStore : Command → Bool
  | .sync _ isDry _ _ _ _ => !isDry
  | _ => false

namespace Invocation

open Arguments (Reads scan scan_of_reads reads_of_scan reads_unique)

variable {level : Option Level} {arguments written : Arguments} {command : Command}

/-- The options in front of all commands are told apart by how they are written. -/
theorem areClear_globalOptions : OptionSpec.AreClear globalOptions := by
  constructor <;> decide +kernel

/-- So are those of every command. -/
theorem areClear_of_mem_commands {name : Text} {specs : List OptionSpec}
    {reader : Arguments → Except UsageFault Command}
    (known : (name, specs, reader) ∈ commands) : OptionSpec.AreClear specs := by
  simp only [commands, List.mem_cons, List.not_mem_nil, or_false, Prod.mk.injEq] at known
  rcases known with ⟨-, rfl, -⟩ | ⟨-, rfl, -⟩ | ⟨-, rfl, -⟩ <;> constructor <;> decide +kernel

/-- A question about the program itself is no command. -/
theorem ne_run_of_asked? {invocation : Invocation}
    (asked : asked? arguments = some invocation) : invocation ≠ .run level command := by
  obtain ⟨⟨name, value⟩, -, shape⟩ := List.exists_of_findSome?_eq_some asked
  dsimp only at shape
  split_ifs at shape <;> cases shape <;> nofun

/-- Words that begin with no command are no command. -/
theorem ne_run_of_otherWords {name : Text} {rest : List Text} {invocation : Invocation}
    (accepted : ofOtherWords name rest = .ok invocation) : invocation ≠ .run level command := by
  obtain ⟨again, -, accepted⟩ := Fault.bind_eq_ok.mp accepted
  cases asked : asked? again with
  | none =>
      rw [asked] at accepted
      cases accepted
  | some found =>
      rw [asked] at accepted
      obtain rfl := Except.ok.inj accepted
      exact ne_run_of_asked? asked

/-- A reconciliation is dry exactly when its options have the flag. -/
theorem isDry_of_readSync (read : readSync arguments = .ok command) :
    command.isDry = arguments.hasOption "--dry-run" := by
  obtain ⟨direction, -, read⟩ := Fault.bind_eq_ok.mp read
  obtain ⟨strategy, -, read⟩ := Fault.bind_eq_ok.mp read
  obtain ⟨-, -, read⟩ := Fault.bind_eq_ok.mp read
  obtain rfl := Except.ok.inj read
  rfl

/-- How arguments make a command: those in front of its name ask about nothing else, and those
behind the name are its own. -/
inductive Makes : List Text → Option Level → Command → Prop where
  /-- The name is in the table of commands, which tells the options and the reader. -/
  | command {given rest : List Text} {front written : Arguments} {level : Option Level}
      {name : Text} {specs : List OptionSpec} {reader : Arguments → Except UsageFault Command}
      {command : Command} (reads : Reads globalOptions true given front)
      (plain : asked? front = none) (chosen : choice front "--log-level" levelOfName? = .ok level)
      (begins : front.words = name :: rest) (known : commands.get? name = some (specs, reader))
      (own : Reads specs false rest written) (noHelp : written.hasOption helpOption.name = false)
      (read : reader written = .ok command) : Makes given level command

/-- The name of a command and its own arguments are read as the table of commands says. -/
theorem ofCommand_eq_run_iff {name : Text} {rest : List Text} {found : Option Level} :
    ofCommand level name rest = .ok (.run found command) ↔
      level = found ∧ ∃ specs reader written, commands.get? name = some (specs, reader) ∧
        Reads specs false rest written ∧ written.hasOption helpOption.name = false ∧
          reader written = .ok command := by
  unfold ofCommand
  constructor
  · intro made
    split at made
    · exact absurd rfl (ne_run_of_otherWords made)
    · next specs reader known =>
        obtain ⟨written, scanned, made⟩ := Fault.bind_eq_ok.mp made
        have clear := areClear_of_mem_commands (Entries.mem_of_get? known)
        split_ifs at made with help
        · cases made
        · obtain ⟨other, read, made⟩ := Fault.bind_eq_ok.mp made
          cases made
          exact ⟨rfl, specs, reader, written, known, reads_of_scan clear scanned,
            Bool.not_eq_true _ ▸ help, read⟩
  · rintro ⟨rfl, specs, reader, written, known, own, noHelp, read⟩
    have clear := areClear_of_mem_commands (Entries.mem_of_get? known)
    rw [known]
    dsimp only
    rw [scan_of_reads clear own]
    simp [bind, Except.bind, noHelp, read, pure, Except.pure]

/-- Arguments are taken as a command exactly when they make it. -/
theorem ofArguments_eq_run_iff {given : List Text} :
    ofArguments given = .ok (.run level command) ↔ Makes given level command := by
  unfold ofArguments
  constructor
  · intro made
    split_ifs at made
    obtain ⟨front, scanned, made⟩ := Fault.bind_eq_ok.mp made
    have reads := reads_of_scan areClear_globalOptions scanned
    split at made
    · next asked => exact absurd (Except.ok.inj made) (ne_run_of_asked? asked)
    · next plain =>
        obtain ⟨chosen, picked, made⟩ := Fault.bind_eq_ok.mp made
        split at made
        · cases made
        · next begins =>
            obtain ⟨rfl, specs, reader, written, known, own, noHelp, read⟩ :=
              ofCommand_eq_run_iff.mp made
            exact .command reads plain picked begins known own noHelp read
  · rintro ⟨reads, plain, chosen, begins, known, own, noHelp, read⟩
    -- No arguments at all have no name to begin with.
    have filled : given.isEmpty = false := by
      cases given with
      | nil =>
          cases reads
          cases begins
      | cons argument given => rfl
    rw [if_neg (by simp [filled]), scan_of_reads areClear_globalOptions reads]
    simp only [bind, Except.bind, plain, chosen, begins]
    exact ofCommand_eq_run_iff.mpr ⟨rfl, _, _, _, known, own, noHelp, read⟩

/-- Arguments that ask for a reconciliation with the flag make a dry one, or no command. -/
theorem isDry_of_ofArguments {given rest : List Text} {options : List (Text × Option Text)}
    (front : Reads globalOptions true given ⟨options, "sync" :: rest⟩)
    (reads : Reads syncOptions false rest written)
    (dry : written.hasOption "--dry-run" = true)
    (accepted : ofArguments given = .ok (.run level command)) : command.isDry = true := by
  obtain ⟨found, -, -, begins, known, own, -, read⟩ := ofArguments_eq_run_iff.mp accepted
  obtain rfl := reads_unique areClear_globalOptions front found
  obtain ⟨rfl, rfl⟩ := List.cons.inj begins
  obtain ⟨rfl, rfl⟩ := Prod.mk.inj (Option.some.inj known)
  obtain rfl := reads_unique (areClear_of_mem_commands List.mem_cons_self) reads own
  rw [isDry_of_readSync read, dry]

end Invocation

namespace CommandLine

open Disk (Confines GrowsTo HasHome IsLoopFree growsTo_makeDirectories)

variable {State : Type} {around : Surroundings} {runner : Runner State} {disk : Disk}
  {state : State} {arguments : List Text}

/-! ## Reconciling -/

/-- A dry reconciliation changes nothing. -/
theorem sync_keeps_of_isDry (around : Surroundings) (runner : Runner State) (disk : Disk)
    (state : State) (direction : Direction) (deletes : Bool) (strategy : Option Strategy)
    (lastAgreedAt root : Option Text) :
    let session := sync around runner disk state direction true deletes strategy lastAgreedAt root
    session.disk = disk ∧ session.state = state := by
  have keeps (options : ReconcileOptions) (dry : options.isDry = true) :
      let session := syncWith around runner disk state options
      session.disk = disk ∧ session.state = state := by
    unfold syncWith
    dsimp only
    generalize (Program.usual options.beadsRoot options.projectRoot).backend runner = backend
    have performs := reconcile_performs disk around.now.date backend state options
    rw [ReconcileRun.effects_of_isDry dry] at performs
    obtain ⟨sameDisk, sameState⟩ := Prod.mk.inj performs
    split <;> exact ⟨sameDisk.symm, sameState.symm⟩
  unfold sync
  dsimp only
  split
  · exact ⟨rfl, rfl⟩
  · next path settings resolved =>
      split
      · cases (ReconcileOptions.ofSettings disk path settings).value with
        | error fault => exact ⟨rfl, rfl⟩
        | ok options => exact keeps _ rfl
      · exact ⟨rfl, rfl⟩

/-- The last words give up unless everything worked and what they tell can be printed. -/
theorem syncEnd_eq_none {summary : Summary} : (syncEnd summary).2 = none ↔
    summary.failures = [] ∧ ∀ conflict ∈ summary.conflicts, Markup.isSound conflict.id := by
  unfold syncEnd
  cases failed : summary.failures with
  | nil =>
      have texts : tableTexts summary = summary.conflicts.map Conflict.id := by
        simp [tableTexts, failed]
      have isOk : summary.isOk = true := by
        simp [Summary.isOk, failed]
      rw [texts, isOk]
      split_ifs <;> simp_all
  | cons failure failures =>
      have notOk : ¬ summary.isOk = true := by
        simp [Summary.isOk, failed]
      rw [if_neg notOk]
      split_ifs <;> simp

/-- A reconciliation ends with zero exactly when it came to its end, everything worked, and what it
tells can be printed. -/
theorem exitCode_syncWith (options : ReconcileOptions) :
    (syncWith around runner disk state options).exitCode = 0 ↔
      ∃ summary, (reconcile disk around.now.date
          ((Program.usual options.beadsRoot options.projectRoot).backend runner) state
          options).summary = .ok summary ∧
        summary.failures = [] ∧ ∀ conflict ∈ summary.conflicts, Markup.isSound conflict.id := by
  unfold syncWith
  dsimp only
  generalize reconcile disk around.now.date
    ((Program.usual options.beadsRoot options.projectRoot).backend runner) state options = run
  cases ended : run.summary with
  | error fault => simp [Session.exitCode]
  | ok summary =>
      rw [Session.exitCode]
      simpa using syncEnd_eq_none

/-! ## The rollup and the setting up -/

/-- On a disk where no link leads back to itself, the rollup is written inside its project. -/
theorem build_isConfined (loopFree : disk.IsLoopFree) (output : Text) (options : RollupOptions)
    (root : Option Text) :
    let left := (build around disk state output options root).disk
    left = disk ∨ ∃ path settings home, resolveProject disk around root = .ok (path, settings) ∧
      disk.HasHome path home ∧ Confines home disk left := by
  unfold build
  dsimp only
  split
  · exact .inl rfl
  · next path settings resolved =>
      split
      · exact .inl rfl
      · next target found =>
          obtain ⟨home, book⟩ := Disk.exists_hasHome loopFree (Disk.noZero_of_ensureWithin found)
          obtain ⟨place, rfl, clear, inside⟩ :=
            book.inside_of_ensureWithin (Path.isWritten_ofText output) found
          refine .inr ⟨path, settings, home, resolved, book, ?_⟩
          unfold Session.after
          dsimp only
          split
          · exact .refl home disk
          · next compiled made =>
              have confines := Book.confines_writeFile clear inside compiled.output
              unfold writeRollup
              split <;> next wrote =>
                rw [wrote] at confines
                exact confines

/-- The rollup does not run the store's program. -/
theorem state_build (output : Text) (options : RollupOptions) (root : Option Text) :
    (build around disk state output options root).state = state := by
  unfold build
  split
  · rfl
  · split
    · rfl
    · unfold Session.after
      dsimp only
      split
      · rfl
      · unfold writeRollup
        split <;> rfl

/-- A project with settings keeps all that it has, unless it is set up by force: at most directories
are added. -/
theorem init_keeps (preset : Option Text) (withoutBeads : Bool) {root : Option Text} {path : Path}
    (resolved : projectRoot disk around root = .ok path)
    (present : disk.exists? (Places.settingsFile path) = .ok true) :
    disk.GrowsTo (init around disk state preset withoutBeads false root).disk := by
  have grows (settings : Settings) : disk.GrowsTo (makeTodo disk state path settings).disk := by
    have made := growsTo_makeDirectories disk (settings.todoPath path)
    unfold makeTodo
    dsimp only
    split <;> next makes =>
      rw [makes] at made
      exact made
  unfold init
  rw [resolved]
  dsimp only
  split
  · exact .refl disk
  · unfold setUp keepSettings
    rw [present]
    dsimp only
    rw [if_pos (by rfl)]
    unfold Session.after
    dsimp only
    split
    · exact .refl disk
    · exact grows _

/-- Setting up a project does not run the store's program. -/
theorem state_init (preset : Option Text) (withoutBeads force : Bool) (root : Option Text) :
    (init around disk state preset withoutBeads force root).state = state := by
  have made (disk : Disk) (path : Path) (settings : Settings) :
      (makeTodo disk state path settings).state = state := by
    unfold makeTodo
    dsimp only
    split <;> rfl
  unfold init
  split
  · rfl
  · split
    · rfl
    · unfold setUp
      split
      · rfl
      · split_ifs
        · unfold keepSettings Session.after
          dsimp only
          split
          · rfl
          · exact made ..
        · unfold writeSettings Session.after
          dsimp only
          split
          · rfl
          · exact made ..

/-! ## Calls -/

/-- Only a command changes anything, and a dry one does not. -/
theorem run_keeps_of_isDry {command : Command} (dry : command.isDry = true) :
    (run around runner disk state command).disk = disk ∧
      (run around runner disk state command).state = state := by
  cases command with
  | sync direction isDry deletes strategy lastAgreedAt root =>
      obtain rfl : isDry = true := dry
      exact sync_keeps_of_isDry ..
  | build output options root => cases dry
  | init preset withoutBeads force root => cases dry

/-- A call whose arguments make no command, or a dry one, changes neither the disk nor the store. -/
theorem call_keeps (dry : ∀ level command,
      Invocation.ofArguments arguments = .ok (.run level command) → command.isDry = true) :
    (call around runner disk state arguments).disk = disk ∧
      (call around runner disk state arguments).state = state := by
  unfold call
  split
  · exact ⟨rfl, rfl⟩
  · exact ⟨rfl, rfl⟩
  · exact ⟨rfl, rfl⟩
  · next level command made => exact run_keeps_of_isDry (dry level command made)

/-- A reconciliation with the flag for a dry run changes nothing, wherever the flag stands among its
options and however those are written. -/
theorem call_dry_keeps {rest : List Text} {options : List (Text × Option Text)}
    {written : Arguments}
    (front : Arguments.Reads Invocation.globalOptions true arguments ⟨options, "sync" :: rest⟩)
    (reads : Arguments.Reads Invocation.syncOptions false rest written)
    (dry : written.hasOption "--dry-run" = true) :
    (call around runner disk state arguments).disk = disk ∧
      (call around runner disk state arguments).state = state :=
  call_keeps fun _ _ made => Invocation.isDry_of_ofArguments front reads dry made

/-- Only a reconciliation that is not dry runs the store's program. -/
theorem call_state (calls : (call around runner disk state arguments).state ≠ state) :
    ∃ level command, Invocation.ofArguments arguments = .ok (.run level command) ∧
      command.callsStore = true := by
  unfold call at calls
  split at calls
  · exact absurd rfl calls
  · exact absurd rfl calls
  · exact absurd rfl calls
  · next level command made =>
      refine ⟨level, command, made, ?_⟩
      cases command with
      | sync direction isDry deletes strategy lastAgreedAt root =>
          cases isDry with
          | false => rfl
          | true => exact absurd (sync_keeps_of_isDry ..).2 calls
      | build output options root => exact absurd (state_build ..) calls
      | init preset withoutBeads force root => exact absurd (state_init ..) calls

/-- A call ends with two exactly when its arguments are refused. -/
theorem exitCode_call_eq_two : (call around runner disk state arguments).exitCode = 2 ↔
    ∃ fault, Invocation.ofArguments arguments = .error fault := by
  unfold call
  split
  · next fault refused => simp [Conclusion.refusing, refused]
  · next made => simp [Conclusion.printing, made]
  · next made => simp [Conclusion.printing, made]
  · next made =>
      simp only [Conclusion.ofSession, Session.exitCode, made]
      split_ifs <;> simp

end CommandLine

end Issuebook
