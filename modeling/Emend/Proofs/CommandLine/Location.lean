/-
# Saying where the configuration is

The switches for the file of the configuration and for the directory of the declared paths are read
alike before any command.  So a call that checks a configuration and one that runs it, with the same
words for these two in front, speak of one configuration, or the first one is refused.
-/

import Emend.CommandLine.Answer

namespace Emend.CommandLine

namespace Given

variable {given : Given} {switch : Switch}

theorem settle_of_awaiting (awaiting : given.awaiting? = some switch) (command : Command) :
    given.settle command = ({ given with pending := none }, some (.valueMissing switch)) := by
  unfold awaiting? at awaiting
  unfold settle
  split at awaiting <;> simp_all

/-- A path that is given for the first time is taken, unless it is empty. -/
theorem settle_of_value {path : Path} (pending_eq : given.pending = some (switch, some path))
    (fresh : given.has switch = false) (isPath : switch.takesPath = true) (command : Command) :
    given.settle command =
      ({ values := given.values ++ [(switch, [path])] },
        if path = [] then some (.valueMissing switch) else none) := by
  have stillFresh : ({ given with pending := none } : Given).has switch = false := fresh
  simp [settle, pending_eq, take, stillFresh, add, fault?, isPath]

/-- A switch that stands where a value should is refused, whatever it is. -/
theorem readLong_of_awaiting (awaiting : given.awaiting? = some switch) (command : Command)
    (name : String) (value? : Option Bytes) :
    ∃ error, given.readLong command name value? = .error (.wrong error) := by
  have settled := settle_of_awaiting awaiting command
  unfold readLong
  split
  · split <;> simp [setTo, await, turn, check, settled, bind, Except.bind]
  · exact ⟨_, rfl⟩

theorem readLetters_of_awaiting (awaiting : given.awaiting? = some switch) (command : Command)
    (letter : UInt8) (letters : Bytes) :
    ∃ error, given.readLetters command (letter :: letters) = .error (.wrong error) := by
  have settled := settle_of_awaiting awaiting command
  unfold readLetters
  split
  · exact ⟨_, rfl⟩
  · split
    · split <;> simp [setTo, await, check, settled, bind, Except.bind]
    · simp [turn, check, settled, bind, Except.bind]

end Given

/-! ## Switches for paths -/

/-- A word is a switch of the program that takes a path. -/
structure Switch.IsPathAs (switch : Switch) (word : Bytes) : Prop where
  form : Word.ofBytes word = .long switch.long none
  noCommand : Command.main.command? word = none
  known : Command.main.long? switch.long = some switch
  takesValue : switch.takesValue = true
  strict : switch.allowsHyphens = false
  isPath : switch.takesPath = true

theorem Switch.isPathAs_config : Switch.config.IsPathAs "--config" :=
  ⟨by rfl, by decide, by decide, rfl, rfl, rfl⟩

theorem Switch.isPathAs_dir : Switch.dir.IsPathAs "--dir" :=
  ⟨by rfl, by decide, by decide, rfl, rfl, rfl⟩

theorem Word.ofBytes_ne_letters_nil (word : Bytes) : Word.ofBytes word ≠ .letters [] := by
  unfold ofBytes
  split <;> simp_all

section

variable {given settled : Given} {switch : Switch} {word : Bytes} {path : Path}

/-- The switch waits for its path. -/
theorem readWords_switch (ready : given.awaiting? = none) (written : switch.IsPathAs word)
    (words : List Bytes) :
    readWords .main given false (word :: words) =
      (given.await .main switch).bind fun given => readWords .main given false words := by
  rw [readWords]
  simp only [ready, Option.any_none, Bool.false_eq_true, ↓reduceIte, Option.isSome_none,
    written.noCommand, written.form, Given.readLong, written.known, written.takesValue]
  rfl

/-- A word that does not look like a switch is the path. -/
theorem readWords_value (awaiting : given.awaiting? = some switch)
    (strict : switch.allowsHyphens = false) (plain : Word.ofBytes path = .plain)
    (words : List Bytes) :
    readWords .main given false (path :: words) =
      readWords .main (given.supply path) false words := by
  rw [readWords]
  simp [awaiting, strict, plain]

/-- A word that looks like a switch is no path. -/
theorem readWords_value_refused (awaiting : given.awaiting? = some switch)
    (strict : switch.allowsHyphens = false) (notPlain : Word.ofBytes path ≠ .plain)
    (next : Bytes) (words : List Bytes) :
    ∃ error, readWords .main given false (path :: next :: words) = .error (.wrong error) := by
  rw [readWords]
  cases form : Word.ofBytes path with
  | plain => exact absurd form notPlain
  | dashes => exact ⟨strayWord .main true next, by simp [awaiting, strict, readWords]⟩
  | long name value? =>
    obtain ⟨error, refused⟩ := Given.readLong_of_awaiting awaiting .main name value?
    exact ⟨error, by simp [awaiting, strict, refused, bind, Except.bind]⟩
  | letters letters =>
    cases letters with
    | nil => exact absurd form (Word.ofBytes_ne_letters_nil path)
    | cons letter letters =>
      obtain ⟨error, refused⟩ := Given.readLetters_of_awaiting awaiting .main letter letters
      exact ⟨error, by simp [awaiting, strict, refused, bind, Except.bind]⟩

theorem readWords_path (ready : given.awaiting? = none) (written : switch.IsPathAs word)
    (settled_eq : given.settle .main = (settled, none)) (plain : Word.ofBytes path = .plain)
    (words : List Bytes) :
    readWords .main given false (word :: path :: words) =
      readWords .main { settled with pending := some (switch, some path) } false words := by
  rw [readWords_switch ready written]
  simp only [Given.await, settled_eq, Given.check, bind, Except.bind, pure, Except.pure]
  exact readWords_value rfl written.strict plain words

theorem readWords_path_refused (ready : given.awaiting? = none) (written : switch.IsPathAs word)
    (settled_eq : given.settle .main = (settled, none)) (notPlain : Word.ofBytes path ≠ .plain)
    (next : Bytes) (words : List Bytes) :
    ∃ error, readWords .main given false (word :: path :: next :: words) =
      .error (.wrong error) := by
  rw [readWords_switch ready written]
  simp only [Given.await, settled_eq, Given.check, bind, Except.bind, pure, Except.pure]
  exact readWords_value_refused rfl written.strict notPlain next words

end

/-! ## What the program is asked for -/

/-- The switches for two paths with their values, as far as they are given. -/
def Given.ofPaths (config? dir? : Option Path) : Given where
  values := (config?.elim [] fun path => [(.config, [path])])
    ++ dir?.elim [] fun path => [(.dir, [path])]

theorem Given.finish_of_paths {given : Given} {config? dir? : Option Path}
    (settled_eq : given.settle .main = (ofPaths config? dir?, none)) (hasCommand : Bool) :
    given.finish .main hasCommand = .ok (ofPaths config? dir?) := by
  simp only [finish, settled_eq, check, bind, Except.bind]
  cases config? <;> cases dir? <;> cases hasCommand <;> rfl

theorem Given.finish_of_error {given settled : Given} {error : UsageError}
    (settled_eq : given.settle .main = (settled, some error)) (hasCommand : Bool) :
    given.finish .main hasCommand = .error (.wrong error) := by
  simp only [finish, settled_eq, check, bind, Except.bind]

namespace Invocation

/-- The words that ask for a check of the configuration. -/
def checking : List Bytes := ["config", "validate"]

/-- The words for the directory that declared paths are relative to, if one is given. -/
def locatingDir (dir? : Option Path) : List Bytes := dir?.elim [] fun path => ["--dir", path]

/-- The words that say where the configuration is and which directory declared paths are relative
to, as far as they are given. -/
def locating (config? dir? : Option Path) : List Bytes :=
  (config?.elim [] fun path => [Bytes.ofText "--config", path]) ++ locatingDir dir?

/-- The words for the same, each path in one word with its switch, so that it may look like one. -/
def naming (path : Path) (dir? : Option Path) : List Bytes :=
  (Bytes.ofText "--config=" ++ path) :: dir?.elim [] fun dir => [Bytes.ofText "--dir=" ++ dir]

/-- The call of a command with these words alone. -/
def located (command : Command) (config? dir? : Option Path) : Invocation :=
  { command, config := config?.getD defaultConfig, dir := dir?, formatProgram := none
    formatArguments := [], init := false, force := false, verbosity := 0 }

/-- The check is the innermost command, and takes no switches. -/
theorem readWords_checking {given : Given} (ready : given.awaiting? = none) :
    readWords .main given false checking =
      (given.finish .main true).map fun given =>
        [(.main, given), (.config, {}), (.configValidate, {})] := by
  have named : Command.main.command? "config" = some .config := by decide
  have inner : readWords .config {} false ["validate"] =
      .ok [(.config, {}), (.configValidate, {})] := by rfl
  rw [checking, readWords]
  simp only [ready, Option.any_none, Bool.false_eq_true, ↓reduceIte, Option.isSome_none, named,
    Command.isHelp, inner]
  cases given.finish .main true <;> rfl

section

variable {given : Given} {config? dir? : Option Path}

/-- Words are refused before a check, or they give the program some paths, whether a check follows
or nothing. -/
def GivesPaths (given : Given) (words : List Bytes) (config? dir? : Option Path) : Prop :=
  (∃ error, readWords .main given false (words ++ checking) = .error (.wrong error)) ∨
    readWords .main given false (words ++ checking) =
        .ok [(.main, .ofPaths config? dir?), (.config, {}), (.configValidate, {})] ∧
      readWords .main given false words = .ok [(.main, .ofPaths config? dir?)]

/-- Where the words end, what is still to be looked at decides. -/
theorem givesPaths_nil {error? : Option UsageError} (ready : given.awaiting? = none)
    (settled_eq : given.settle .main = (.ofPaths config? dir?, error?)) :
    GivesPaths given [] config? dir? := by
  unfold GivesPaths
  rw [List.nil_append, readWords_checking ready, readWords]
  cases error? with
  | some error =>
    rw [Given.finish_of_error settled_eq]
    exact .inl ⟨error, rfl⟩
  | none =>
    rw [Given.finish_of_paths settled_eq, Given.finish_of_paths settled_eq]
    exact .inr ⟨rfl, rfl⟩

/-- A switch with its path is taken in, or it is refused because the path looks like a switch. -/
theorem givesPaths_cons {settled : Given} {switch : Switch} {word : Bytes} {path : Path}
    {words : List Bytes} (ready : given.awaiting? = none) (written : switch.IsPathAs word)
    (settled_eq : given.settle .main = (settled, none))
    (others : GivesPaths { settled with pending := some (switch, some path) } words config? dir?) :
    GivesPaths given (word :: path :: words) config? dir? := by
  by_cases plain : Word.ofBytes path = .plain
  · have read := readWords_path ready written settled_eq plain
    unfold GivesPaths
    rw [List.cons_append, List.cons_append, read, read]
    exact others
  · cases words with
    | nil => exact .inl (readWords_path_refused ready written settled_eq plain _ _)
    | cons next words => exact .inl (readWords_path_refused ready written settled_eq plain _ _)

theorem givesPaths_dir {error? : Option UsageError} (ready : given.awaiting? = none)
    (settled_eq : given.settle .main = (.ofPaths config? none, error?)) (dir? : Option Path) :
    GivesPaths given (locatingDir dir?) config? dir? := by
  cases dir? with
  | none => exact givesPaths_nil ready settled_eq
  | some dir =>
    cases error? with
    | some error =>
      refine .inl ⟨error, ?_⟩
      change readWords .main given false ("--dir" :: dir :: checking) = _
      rw [readWords_switch ready Switch.isPathAs_dir]
      simp only [Given.await, settled_eq, Given.check, bind, Except.bind]
    | none =>
      apply givesPaths_cons ready Switch.isPathAs_dir settled_eq
      let next : Given := { Given.ofPaths config? none with pending := some (.dir, some dir) }
      have pending_eq : next.pending = some (.dir, some dir) := rfl
      have fresh : next.has .dir = false := by cases config? <;> rfl
      have values_eq : { values := next.values ++ [(.dir, [dir])] } =
          Given.ofPaths config? (some dir) := by cases config? <;> rfl
      have next_settled := Given.settle_of_value pending_eq fresh rfl .main
      rw [values_eq] at next_settled
      exact givesPaths_nil rfl next_settled

theorem givesPaths_locating (config? dir? : Option Path) :
    GivesPaths {} (locating config? dir?) config? dir? := by
  cases config? with
  | none => exact givesPaths_dir rfl rfl dir?
  | some path =>
    apply givesPaths_cons rfl Switch.isPathAs_config rfl
    have next_settled := Given.settle_of_value
      (rfl : ({ pending := some (.config, some path) } : Given).pending = _) rfl rfl .main
    exact givesPaths_dir rfl next_settled dir?

end

/-- Words that say where the configuration is are refused, or both the command that checks it and
the one that runs it are called with what they say. -/
theorem parse_locating (config? dir? : Option Path) :
    (∃ error, parse (locating config? dir? ++ checking) = .error (.wrong error)) ∨
      parse (locating config? dir? ++ checking) = .ok (located .configValidate config? dir?) ∧
        parse (locating config? dir?) = .ok (located .main config? dir?) := by
  unfold parse
  rcases givesPaths_locating config? dir? with ⟨error, refused⟩ | ⟨checked, ran⟩
  · rw [refused]
    exact .inl ⟨error, rfl⟩
  · rw [checked, ran]
    cases config? <;> cases dir? <;> exact .inr ⟨rfl, rfl⟩

/-- A path in one word with its switch is taken as it is. -/
theorem readWords_together {given settled : Given} {switch : Switch} {word : Bytes} {path : Path}
    (ready : given.awaiting? = none) (settled_eq : given.settle .main = (settled, none))
    (form : Word.ofBytes word = .long switch.long (some path))
    (noCommand : Command.main.command? word = none)
    (known : Command.main.long? switch.long = some switch) (isPath : switch.takesPath = true)
    (fresh : settled.has switch = false) (nonempty : path ≠ []) (words : List Bytes) :
    readWords .main given false (word :: words) =
      readWords .main { settled with values := settled.values ++ [(switch, [path])] } false
        words := by
  have takesValue : switch.takesValue = true := by cases switch <;> first | rfl | cases isPath
  rw [readWords]
  simp [ready, noCommand, form, Given.readLong, known, takesValue, Given.setTo, settled_eq,
    Given.check, Given.take, fresh, Given.add, Given.fault?, isPath, nonempty, bind, Except.bind]

/-- Every path can be asked for. -/
theorem parse_naming {path : Path} {dir? : Option Path} (isPath : path ≠ [])
    (isDir : dir? ≠ some []) :
    parse (naming path dir?) = .ok (located .main (some path) dir?) := by
  have first (words : List Bytes) :
      readWords .main {} false ((Bytes.ofText "--config=" ++ path) :: words) =
        readWords .main { values := [(.config, [path])] } false words :=
    @readWords_together {} {} .config _ path rfl rfl rfl rfl rfl rfl rfl isPath words
  cases dir? with
  | none =>
    rw [parse, naming, first]
    rfl
  | some dir =>
    have second : readWords .main { values := [(.config, [path])] } false
          [Bytes.ofText "--dir=" ++ dir] =
        readWords .main { values := [(.config, [path]), (.dir, [dir])] } false [] :=
      @readWords_together _ { values := [(.config, [path])] } .dir _ dir rfl rfl rfl rfl rfl rfl rfl
        (fun empty => isDir (empty ▸ rfl)) []
    change (readWords .main {} false (_ :: [Bytes.ofText "--dir=" ++ dir])).map ofLevels = _
    rw [first, second]
    rfl

end Invocation

end Emend.CommandLine
