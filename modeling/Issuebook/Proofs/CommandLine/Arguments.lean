import Issuebook.CommandLine.Arguments
import Issuebook.Proofs.Fault
import Issuebook.Proofs.Text.Characters

/-!
# The language of arguments

Which lists of arguments are accepted, and what they are cut into, told apart from the program that
cuts them: `Means` has one case for each way to write an argument, `Reads` one for each way to go on
behind it. `scan_eq_ok_iff` finds that the program accepts the lists that can be read, and no
others; a list that is refused has an argument at fault, which the complaint names.
-/

namespace Issuebook

/-- Options whose written forms cannot be taken for one another. -/
structure OptionSpec.AreClear (specs : List OptionSpec) : Prop where
  /-- A name is that of one option. -/
  names : ∀ one ∈ specs, ∀ other ∈ specs, one.name = other.name → one = other
  /-- A letter is that of one option with a value. -/
  letters : ∀ one ∈ specs, ∀ other ∈ specs, one.takesValue = true → other.takesValue = true →
    one.letter ≠ none → one.letter = other.letter → one = other
  /-- A name begins with two dashes. -/
  dashes : ∀ spec ∈ specs, ['-', '-'] <+: spec.name
  /-- There is something behind the dashes. -/
  long : ∀ spec ∈ specs, 2 < spec.name.length
  /-- No name has an equals sign. -/
  plain : ∀ spec ∈ specs, '=' ∉ spec.name
  /-- No letter is a dash. -/
  short : ∀ spec ∈ specs, spec.letter ≠ some '-'

/-- An argument that an option could have: its name, its name with a value, or its letter. -/
def OptionSpec.IsNamed (spec : OptionSpec) (argument : Text) : Prop :=
  argument = spec.name ∨ (∃ value, argument = spec.name ++ '=' :: value) ∨
    spec.takesValue = true ∧ ∃ letter value, spec.letter = some letter ∧
      argument = '-' :: letter :: value

namespace Arguments

variable {specs : List OptionSpec} {spec : OptionSpec} {argument name value : Text}

/-- An argument that looks like an option: a lone dash is a word. -/
def IsDashed (argument : Text) : Prop :=
  argument.head? = some '-' ∧ 1 < argument.length

/-- What an argument means by itself. -/
inductive Means (specs : List OptionSpec) : Text → Except UsageFault Reading → Prop where
  /-- Two dashes end the options. -/
  | endMark : Means specs ['-', '-'] (.ok .endMark)
  /-- What does not look like an option is a word. -/
  | word {argument : Text} (bare : ¬ IsDashed argument) : Means specs argument (.ok .word)
  /-- An option without a value is told by its name. -/
  | flag {spec : OptionSpec} (known : spec ∈ specs) (bare : spec.takesValue = false) :
      Means specs spec.name (.ok (.complete spec.name none))
  /-- A value may stand behind an equals sign. -/
  | joined {spec : OptionSpec} (known : spec ∈ specs) (valued : spec.takesValue = true)
      (value : Text) :
      Means specs (spec.name ++ '=' :: value) (.ok (.complete spec.name (some value)))
  /-- A value may stand right behind the letter. -/
  | letter {spec : OptionSpec} (known : spec ∈ specs) (valued : spec.takesValue = true)
      {letter : Char} (short : spec.letter = some letter) {value : Text} (more : value ≠ []) :
      Means specs ('-' :: letter :: value) (.ok (.complete spec.name (some value)))
  /-- Behind a name alone, the value is the next argument. -/
  | name {spec : OptionSpec} (known : spec ∈ specs) (valued : spec.takesValue = true) :
      Means specs spec.name (.ok (.pending spec.name))
  /-- So it is behind a letter alone. -/
  | bareLetter {spec : OptionSpec} (known : spec ∈ specs) (valued : spec.takesValue = true)
      {letter : Char} (short : spec.letter = some letter) :
      Means specs ['-', letter] (.ok (.pending spec.name))
  /-- An option without a value is at fault when it is given one. -/
  | needless {spec : OptionSpec} (known : spec ∈ specs) (bare : spec.takesValue = false)
      (value : Text) :
      Means specs (spec.name ++ '=' :: value) (.error (.needlessValue spec.name))
  /-- What looks like an option and is none is at fault. -/
  | unknown {argument : Text} (dashed : IsDashed argument) (noMark : argument ≠ ['-', '-'])
      (foreign : ∀ spec ∈ specs, ¬ spec.IsNamed argument) :
      Means specs argument (.error (.unknownOption argument))

section Clear

variable (clear : OptionSpec.AreClear specs)
include clear

/-- An option is found by its name. -/
theorem find?_name (known : spec ∈ specs) :
    (specs.find? fun other => other.name = spec.name) = some spec := by
  cases found : specs.find? fun other => decide (other.name = spec.name) with
  | none => simpa using List.find?_eq_none.mp found spec known
  | some other =>
      have same : other.name = spec.name := by simpa using List.find?_some found
      rw [clear.names other (List.mem_of_find?_eq_some found) spec known same]

/-- An option with a value is found by its letter. -/
theorem find?_letter (known : spec ∈ specs) (valued : spec.takesValue = true) {letter : Char}
    (short : spec.letter = some letter) :
    (specs.find? fun other => other.letter = some letter && other.takesValue) = some spec := by
  cases found : specs.find? fun other =>
      decide (other.letter = some letter) && other.takesValue with
  | none => simpa [short, valued] using List.find?_eq_none.mp found spec known
  | some other =>
      obtain ⟨same, alsoValued⟩ : other.letter = some letter ∧ other.takesValue = true := by
        simpa using List.find?_some found
      rw [clear.letters other (List.mem_of_find?_eq_some found) spec known alsoValued valued
        (by simp [same]) (same.trans short.symm)]

/-- What begins with the name of an option is read as a long option. -/
theorem read_of_name (known : spec ∈ specs) (rest : Text) :
    read specs (spec.name ++ rest) =
      (readLong? specs (spec.name ++ rest)).getD
        (.error (.unknownOption (spec.name ++ rest))) := by
  have long := clear.long spec known
  obtain ⟨back, shape⟩ := clear.dashes spec known
  rw [← shape] at long ⊢
  cases back with
  | nil => simp at long
  | cons char back =>
      unfold read
      rw [if_neg (by simp), if_pos (by simp)]
      cases readLong? specs (['-', '-'] ++ char :: back ++ rest) <;> rfl

/-- The name of an option is read as the option, which may await its value. -/
theorem readLong?_name (known : spec ∈ specs) :
    readLong? specs spec.name =
      some (.ok (if spec.takesValue then .pending spec.name else .complete spec.name none)) := by
  unfold readLong?
  rw [Text.cutAtChar?_eq_none.mpr (clear.plain spec known)]
  dsimp only
  rw [find?_name clear known]
  cases valued : spec.takesValue <;> simp [valued]

/-- A name with a value is read as both, or found at fault. -/
theorem readLong?_joined (known : spec ∈ specs) (value : Text) :
    readLong? specs (spec.name ++ '=' :: value) =
      some (if spec.takesValue then .ok (.complete spec.name (some value))
        else .error (.needlessValue spec.name)) := by
  unfold readLong?
  rw [Text.cutAtChar?_append (clear.plain spec known)]
  dsimp only
  rw [find?_name clear known]
  cases valued : spec.takesValue <;> simp [valued]

omit clear in
/-- Only what begins with the name of an option is read as a long option. -/
theorem readLong?_eq_none (foreign : ∀ spec ∈ specs, argument ≠ spec.name)
    (unjoined : ∀ spec ∈ specs, ∀ value, argument ≠ spec.name ++ '=' :: value) :
    readLong? specs argument = none := by
  unfold readLong?
  cases cut : Text.cutAtChar? '=' argument with
  | none =>
      refine Option.map_eq_none_iff.mpr (List.find?_eq_none.mpr fun spec known => ?_)
      simpa using (foreign spec known).symm
  | some parts =>
      obtain ⟨before, after⟩ := parts
      refine Option.map_eq_none_iff.mpr (List.find?_eq_none.mpr fun spec known => ?_)
      have whole := Text.eq_of_cutAtChar? cut
      simpa using fun same : spec.name = before => unjoined spec known after (same ▸ whole)

/-- What begins with one dash is read as a short option. -/
theorem read_of_letter {letter : Char} (single : letter ≠ '-') (rest : Text) :
    read specs ('-' :: letter :: rest) = readShort specs ('-' :: letter :: rest) := by
  have noFront {spec : OptionSpec} (known : spec ∈ specs) (back : Text) :
      '-' :: letter :: rest ≠ spec.name ++ back := by
    obtain ⟨inner, shape⟩ := clear.dashes spec known
    rw [← shape]
    simp [single]
  unfold read
  rw [if_neg (by simp [single]), if_pos (by simp),
    readLong?_eq_none (fun spec known => by simpa using noFront known [])
      fun spec known value => noFront known _]
  simp [Text.startsWith, Text.dropHead?, single.symm]

/-- An argument has one meaning, and is read by it. -/
theorem read_of_means {reading : Except UsageFault Reading}
    (means : Means specs argument reading) : read specs argument = reading := by
  cases means with
  | endMark => rfl
  | word bare =>
      have noMark : argument ≠ ['-', '-'] := by
        rintro rfl
        exact bare ⟨rfl, by decide⟩
      exact (if_neg noMark).trans (if_neg bare)
  | flag known bare =>
      have shape := read_of_name clear known []
      rw [List.append_nil, readLong?_name clear known, bare] at shape
      exact shape
  | joined known valued value =>
      rw [read_of_name clear known, readLong?_joined clear known, valued]
      rfl
  | letter known valued short more =>
      have single := clear.short _ known
      rw [short] at single
      rw [read_of_letter clear (by simpa using single), readShort,
        find?_letter clear known valued short]
      simp [more]
  | name known valued =>
      have shape := read_of_name clear known []
      rw [List.append_nil, readLong?_name clear known, valued] at shape
      exact shape
  | bareLetter known valued short =>
      have single := clear.short _ known
      rw [short] at single
      rw [read_of_letter clear (by simpa using single), readShort,
        find?_letter clear known valued short]
      rfl
  | needless known bare value =>
      rw [read_of_name clear known, readLong?_joined clear known, bare]
      rfl
  | unknown dashed noMark foreign =>
      have unnamed : readLong? specs argument = none := readLong?_eq_none
        (fun spec known same => foreign spec known (.inl same))
        fun spec known value same => foreign spec known (.inr (.inl ⟨value, same⟩))
      refine ((if_neg noMark).trans (if_pos dashed)).trans ?_
      rw [unnamed]
      dsimp only
      split
      · rfl
      -- What is left begins with a single dash; a letter with a value would make it known.
      · match argument, dashed with
        | first :: letter :: value, dashed =>
            obtain rfl : first = '-' := by simpa using dashed.1
            have absent : (specs.find? fun spec =>
                spec.letter = some letter && spec.takesValue) = none := by
              refine List.find?_eq_none.mpr fun spec known same => ?_
              obtain ⟨short, valued⟩ : spec.letter = some letter ∧ spec.takesValue = true := by
                simpa using same
              exact foreign spec known (.inr (.inr ⟨valued, letter, value, short, rfl⟩))
            rw [readShort, absent]

omit clear in
/-- Every argument means something. -/
theorem exists_means (specs : List OptionSpec) (argument : Text) :
    ∃ reading, Means specs argument reading := by
  by_cases dashed : IsDashed argument
  swap
  · exact ⟨_, .word dashed⟩
  by_cases mark : argument = ['-', '-']
  · rw [mark]
    exact ⟨_, .endMark⟩
  by_cases named : ∃ spec ∈ specs, spec.IsNamed argument
  swap
  · exact ⟨_, .unknown dashed mark fun spec known isNamed => named ⟨spec, known, isNamed⟩⟩
  obtain ⟨spec, known, rfl | ⟨value, rfl⟩ | ⟨valued, letter, value, short, rfl⟩⟩ := named
  · cases valued : spec.takesValue with
    | false => exact ⟨_, .flag known valued⟩
    | true => exact ⟨_, .name known valued⟩
  · cases valued : spec.takesValue with
    | false => exact ⟨_, .needless known valued value⟩
    | true => exact ⟨_, .joined known valued value⟩
  · cases value with
    | nil => exact ⟨_, .bareLetter known valued short⟩
    | cons char value => exact ⟨_, .letter known valued short (List.cons_ne_nil char value)⟩

/-- What is read is what an argument means. -/
theorem read_eq_iff {reading : Except UsageFault Reading} :
    read specs argument = reading ↔ Means specs argument reading := by
  refine ⟨?_, read_of_means clear⟩
  rintro rfl
  obtain ⟨reading, means⟩ := exists_means specs argument
  rwa [read_of_means clear means]

end Clear

/-- What a list of arguments is cut into. -/
inductive Reads (specs : List OptionSpec) (stopsAtWord : Bool) : List Text → Arguments → Prop where
  /-- No argument is nothing. -/
  | nothing : Reads specs stopsAtWord [] ⟨[], []⟩
  /-- Behind the mark that ends the options, all are words. -/
  | mark {argument : Text} (means : Means specs argument (.ok .endMark)) (rest : List Text) :
      Reads specs stopsAtWord (argument :: rest) ⟨[], rest⟩
  /-- So they are from the first word on, where it ends the options. -/
  | lastWord {argument : Text} (means : Means specs argument (.ok .word))
      (stops : stopsAtWord = true) (rest : List Text) :
      Reads specs stopsAtWord (argument :: rest) ⟨[], argument :: rest⟩
  /-- Elsewhere options follow a word. -/
  | word {argument : Text} (means : Means specs argument (.ok .word))
      (goesOn : stopsAtWord = false) {rest : List Text} {later : Arguments}
      (reads : Reads specs stopsAtWord rest later) :
      Reads specs stopsAtWord (argument :: rest) { later with words := argument :: later.words }
  /-- An option may be one argument. -/
  | option {argument name : Text} {value : Option Text}
      (means : Means specs argument (.ok (.complete name value))) {rest : List Text}
      {later : Arguments} (reads : Reads specs stopsAtWord rest later) :
      Reads specs stopsAtWord (argument :: rest) (later.withOption name value)
  /-- Its value may be the next argument, whatever that looks like. -/
  | apart {argument name : Text} (means : Means specs argument (.ok (.pending name)))
      (value : Text) {rest : List Text} {later : Arguments}
      (reads : Reads specs stopsAtWord rest later) :
      Reads specs stopsAtWord (argument :: value :: rest) (later.withOption name (some value))

section Scan

variable (clear : OptionSpec.AreClear specs) {stopsAtWord : Bool} {arguments : List Text}
  {found : Arguments}
include clear

/-- A list that can be read is accepted. -/
theorem scan_of_reads (reads : Reads specs stopsAtWord arguments found) :
    scan specs stopsAtWord arguments = .ok found := by
  induction reads with
  | nothing => rfl
  | mark means rest => rw [scan, read_of_means clear means]
  | lastWord means stops rest => rw [scan, read_of_means clear means, stops]; rfl
  | word means goesOn reads inductionHypothesis =>
      rw [scan, read_of_means clear means, inductionHypothesis]
      simp [goesOn, Except.map]
  | option means reads inductionHypothesis =>
      rw [scan, read_of_means clear means]
      simp [inductionHypothesis, Except.map]
  | apart means value reads inductionHypothesis =>
      rw [scan, read_of_means clear means]
      simp [inductionHypothesis, Except.map]

/-- A list that is accepted can be read. -/
theorem reads_of_scan (accepted : scan specs stopsAtWord arguments = .ok found) :
    Reads specs stopsAtWord arguments found := by
  fun_induction scan specs stopsAtWord arguments generalizing found with
  | case1 => exact Except.ok.inj accepted ▸ .nothing
  | case2 argument rest fault refused => cases accepted
  | case3 argument rest means =>
      exact Except.ok.inj accepted ▸ .mark ((read_eq_iff clear).mp means) rest
  | case4 argument rest means stops =>
      exact Except.ok.inj accepted ▸ .lastWord ((read_eq_iff clear).mp means) stops rest
  | case5 argument rest means goesOn inductionHypothesis =>
      obtain ⟨later, scanned, rfl⟩ := Fault.map_eq_ok.mp accepted
      exact .word ((read_eq_iff clear).mp means) (by simpa using goesOn)
        (inductionHypothesis scanned)
  | case6 argument rest name value means inductionHypothesis =>
      obtain ⟨later, scanned, rfl⟩ := Fault.map_eq_ok.mp accepted
      exact .option ((read_eq_iff clear).mp means) (inductionHypothesis scanned)
  | case7 argument name means => cases accepted
  | case8 argument name means value rest inductionHypothesis =>
      obtain ⟨later, scanned, rfl⟩ := Fault.map_eq_ok.mp accepted
      exact .apart ((read_eq_iff clear).mp means) value (inductionHypothesis scanned)

/-- A list of arguments is accepted exactly when it can be read, and cut into what it reads as. -/
theorem scan_eq_ok_iff :
    scan specs stopsAtWord arguments = .ok found ↔ Reads specs stopsAtWord arguments found :=
  ⟨reads_of_scan clear, scan_of_reads clear⟩

/-- A list is read in one way only. -/
theorem reads_unique {other : Arguments} (reads : Reads specs stopsAtWord arguments found)
    (again : Reads specs stopsAtWord arguments other) : found = other :=
  Except.ok.inj ((scan_of_reads clear reads).symm.trans (scan_of_reads clear again))

/-- A list that is refused has an argument at fault, or ends with an option that lacks its value. -/
theorem exists_of_scan_error {fault : UsageFault}
    (refused : scan specs stopsAtWord arguments = .error fault) :
    (∃ argument ∈ arguments, Means specs argument (.error fault)) ∨
      ∃ argument name, arguments.getLast? = some argument ∧
        Means specs argument (.ok (.pending name)) ∧ fault = .missingValue name := by
  have onward {argument : Text} {rest : List Text}
      (later : (∃ argument ∈ rest, Means specs argument (.error fault)) ∨
        ∃ argument name, rest.getLast? = some argument ∧
          Means specs argument (.ok (.pending name)) ∧ fault = .missingValue name) :
      (∃ other ∈ argument :: rest, Means specs other (.error fault)) ∨
        ∃ other name, (argument :: rest).getLast? = some other ∧
          Means specs other (.ok (.pending name)) ∧ fault = .missingValue name := by
    rcases later with ⟨other, present, means⟩ | ⟨other, name, last, means, same⟩
    · exact .inl ⟨other, List.mem_cons_of_mem _ present, means⟩
    · exact .inr ⟨other, name, by simp [List.getLast?_cons, last], means, same⟩
  fun_induction scan specs stopsAtWord arguments with
  | case1 => cases refused
  | case2 argument rest other means =>
      obtain rfl := Except.error.inj refused
      exact .inl ⟨argument, List.mem_cons_self, (read_eq_iff clear).mp means⟩
  | case3 argument rest means => cases refused
  | case4 argument rest means stops => cases refused
  | case5 argument rest means goesOn inductionHypothesis =>
      exact onward (inductionHypothesis (Fault.map_eq_error.mp refused))
  | case6 argument rest name value means inductionHypothesis =>
      exact onward (inductionHypothesis (Fault.map_eq_error.mp refused))
  | case7 argument name means =>
      exact .inr ⟨argument, name, rfl, (read_eq_iff clear).mp means,
        (Except.error.inj refused).symm⟩
  | case8 argument name means value rest inductionHypothesis =>
      exact onward (onward (inductionHypothesis (Fault.map_eq_error.mp refused)))

end Scan

end Arguments

end Issuebook
