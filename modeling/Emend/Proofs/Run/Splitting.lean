/-
# Entries in two parts

An entry does to a content what two entries do that share out its rules in their order, since what
the first one writes is what the second one reads.  Without a formatter, which would come in
between, a run therefore leaves the same files behind when an entry is split, or it fails in the
same way.
-/

import Emend.Proofs.Run.Outcome

namespace Emend

/-! ## What a run comes to -/

/-- What some work comes to, apart from what it tells: the files, and the failure if it failed. -/
structure Upshot where
  files : FileSystem
  outcome : Except Failure Unit

/-- What some work comes to that is followed by more unless it fails. -/
def Upshot.followedBy (upshot : Upshot) (more : FileSystem → Upshot) : Upshot :=
  match upshot.outcome with
  | .ok () => more upshot.files
  | .error _ => upshot

/-- What the work of a trail came to. -/
def Trail.upshot {α : Type} (trail : Trail α) : Upshot where
  files := trail.files
  outcome := trail.outcome.map fun _ => ()

theorem Upshot.followedBy_assoc (upshot : Upshot) (more others : FileSystem → Upshot) :
    (upshot.followedBy more).followedBy others =
      upshot.followedBy fun files => (more files).followedBy others := by
  obtain ⟨files, outcome⟩ := upshot
  cases outcome <;> rfl

theorem Trail.outcome_eq_error_iff {α : Type} {trail : Trail α} {failure : Failure} :
    trail.outcome = .error failure ↔ trail.upshot.outcome = .error failure := by
  unfold upshot
  cases trail.outcome <;> simp [Except.map]

theorem Trail.exists_outcome_eq_ok_iff {α : Type} {trail : Trail α} :
    (∃ result, trail.outcome = .ok result) ↔ trail.upshot.outcome = .ok () := by
  unfold upshot
  cases trail.outcome <;> simp [Except.map]

namespace Step

variable {formatter : Option Formatter} {files : FileSystem}

theorem mishapsAfter_none (step : Step) : step.mishapsAfter .none = .none := by
  cases step <;> rfl

theorem upshot_performAll_cons (step : Step) (steps : List Step) :
    (performAll formatter files (step :: steps)).upshot =
      (step.perform formatter files).upshot.followedBy fun files =>
        (performAll formatter files steps).upshot := by
  have unhindered : Mishaps.none 0 = {} := rfl
  cases first : (step.perform formatter files).outcome with
  | error failure =>
    simp [performAll, unhindered, Upshot.followedBy, Trail.upshot, first, Except.map]
  | ok fate =>
    simp only [performAll, unhindered, mishapsAfter_none, Upshot.followedBy, Trail.upshot, first,
      Except.map]
    cases (performAll formatter (step.perform formatter files).files steps).outcome <;> rfl

theorem upshot_performAll_append (first second : List Step) :
    (performAll formatter files (first ++ second)).upshot =
      (performAll formatter files first).upshot.followedBy fun files =>
        (performAll formatter files second).upshot := by
  induction first generalizing files with
  | nil => rfl
  | cons step first ih =>
    rw [List.cons_append, upshot_performAll_cons, upshot_performAll_cons, Upshot.followedBy_assoc]
    simp only [ih]

end Step

/-! ## Rules in two parts -/

/-- Rules in two parts do what the first part does and then the second, which is followed by the
formatter. -/
theorem RuleSet.emend_append (first second : RuleSet) (formatter : Option Formatter)
    (content : Bytes) :
    RuleSet.emend (first ++ second) formatter content =
      (first.emend none content).bind (second.emend formatter) := by
  have applied : RuleSet.apply (first ++ second) content = second.apply (first.apply content) :=
    List.foldl_append
  cases formatter <;> simp [RuleSet.emend, applied, Except.bind]

/-- `entry.SplitsInto first second`: two entries for the same file share out the rules, and the
order in which these are applied stays the same. -/
inductive Entry.SplitsInto : Entry → Entry → Entry → Prop
  | literals (file : String) (first second patterns : List Substitution) :
      SplitsInto { file, literals := first ++ second, patterns }
        { file, literals := first } { file, literals := second, patterns }
  | patterns (file : String) (literals first second : List Substitution) :
      SplitsInto { file, literals, patterns := first ++ second }
        { file, literals, patterns := first } { file, patterns := second }

namespace Entry.SplitsInto

variable {entry first second : Entry}

theorem file_eq (splits : entry.SplitsInto first second) :
    first.file = entry.file ∧ second.file = entry.file := by
  cases splits <;> exact ⟨rfl, rfl⟩

/-- Compiling an entry is compiling its two parts: the rules are those of both, and the first
pattern to be refused is that of the first part unless this has none. -/
theorem compile_eq (splits : entry.SplitsInto first second) (path : Path) :
    entry.compile path =
      (first.compile path).bind fun firstRules =>
        (second.compile path).map fun secondRules => firstRules ++ secondRules := by
  cases splits with
  | literals file first second patterns =>
    simp only [Entry.compile, RuleSet.compile_eq, List.mapM_nil]
    cases patterns.mapM RuleSet.compilePattern <;>
      simp [Except.map, Except.bind, mapError_ok, mapError_error, pure, Except.pure]
  | patterns file literals first second =>
    simp only [Entry.compile, RuleSet.compile_eq, List.mapM_append]
    cases first.mapM RuleSet.compilePattern <;> cases second.mapM RuleSet.compilePattern <;>
      simp [Except.map, Except.bind, mapError_ok, mapError_error, pure, Except.pure, bind]

end Entry.SplitsInto

/-! ## Files emended twice -/

namespace PlannedEntry

/-- What comes of emending the file at a path by some rules and without a formatter. -/
def upshotOf (path : Path) (rules : RuleSet) (files : FileSystem) : Upshot :=
  match files.openFile path with
  | .error .notFound => ⟨files, .ok ()⟩
  | .error cause => ⟨files, .error (.notOpened path cause)⟩
  | .ok handle =>
    match files.read handle with
    | .error cause => ⟨files, .error (.notRead path cause)⟩
    | .ok content =>
      match files.replace handle (rules.apply content) with
      | (files, .error cause) => ⟨files, .error (.notWritten path cause)⟩
      | (files, .ok ()) => ⟨files, .ok ()⟩

theorem upshot_emend (planned : PlannedEntry) (files : FileSystem) :
    (planned.emend none files).upshot = upshotOf planned.path planned.rules files := by
  unfold emend upshotOf
  cases files.openFile planned.path with
  | error cause => cases cause <;> rfl
  | ok handle =>
    simp only [emendOpened, RuleSet.emend]
    cases files.read handle with
    | error cause => rfl
    | ok content =>
      cases replaced : files.replace handle (planned.rules.apply content) with
      | mk left granted =>
        cases granted with
        | error cause => simp [replaced, Trail.upshot, Except.map]
        | ok granted =>
          simp only [replaced]
          split <;> rfl

variable {path : Path} {files : FileSystem}

theorem upshotOf_of_file {number : Nat} (opened : files.openFile path = .ok (.file number))
    (rules : RuleSet) :
    upshotOf path rules files =
      ⟨files.setContent number (rules.apply (files.contents number)), .ok ()⟩ := by
  simp only [upshotOf, opened, FileSystem.read, FileSystem.replace_file]

/-- Where no file is reached the rules make no difference, and nothing is changed. -/
theorem exists_upshotOf_eq (elsewhere : ∀ number, files.openFile path ≠ .ok (.file number)) :
    ∃ outcome, ∀ rules, upshotOf path rules files = ⟨files, outcome⟩ := by
  unfold upshotOf
  cases opened : files.openFile path with
  | error cause => cases cause <;> exact ⟨_, fun rules => rfl⟩
  | ok handle =>
    cases handle with
    | file number => exact absurd opened (elsewhere number)
    | device device => cases device <;> exact ⟨_, fun rules => rfl⟩

/-- Emending a file by rules in two parts is emending it twice. -/
theorem upshotOf_append (first second : RuleSet) :
    upshotOf path (first ++ second) files =
      (upshotOf path first files).followedBy (upshotOf path second) := by
  by_cases reached : ∃ number, files.openFile path = .ok (.file number)
  · obtain ⟨number, opened⟩ := reached
    rw [upshotOf_of_file opened, upshotOf_of_file opened]
    -- The second part reads what the first one has written, and writes over it.
    have again (content : Bytes) :
        (files.setContent number content).openFile path = .ok (.file number) := by
      rw [FileSystem.openFile_setContent, opened]
    simp only [Upshot.followedBy, upshotOf_of_file (again _), FileSystem.contents_setContent_self,
      FileSystem.setContent_setContent, RuleSet.apply, List.foldl_append]
  · obtain ⟨outcome, upshot_eq⟩ :=
      exists_upshotOf_eq fun number opened => reached ⟨number, opened⟩
    rw [upshot_eq, upshot_eq]
    cases outcome with
    | ok => exact (upshot_eq second).symm
    | error failure => rfl

end PlannedEntry

theorem Step.upshot_performAll_emend_append (declared : String) (path : Path) (first second : RuleSet)
    (files : FileSystem) :
    (performAll none files [.emend { declared, path, rules := first ++ second }]).upshot =
      (performAll none files
        [.emend { declared, path, rules := first }, .emend { declared, path, rules := second }]
        ).upshot := by
  simp only [upshot_performAll_cons, perform, PlannedEntry.upshot_emend,
    PlannedEntry.upshotOf_append, Upshot.followedBy_assoc]

/-! ## Steps that come to the same -/

/-- Two first passes fail alike, or the second pass comes to the same after both. -/
def Step.Alike (formatter : Option Formatter) :
    (decided others : Except Failure (List Step)) → Prop
  | .ok steps, .ok others => ∀ files,
    (performAll formatter files steps).upshot = (performAll formatter files others).upshot
  | .error failure, .error other => failure = other
  | _, _ => False

/-- What comes to the same does so among other entries too. -/
theorem Step.alike_mapM_append {formatter : Option Formatter}
    {decide : Entry → Except Failure Step} {entries others : List Entry}
    (alike : Alike formatter (entries.mapM decide) (others.mapM decide))
    (before after : List Entry) :
    Alike formatter ((before ++ (entries ++ after)).mapM decide)
      ((before ++ (others ++ after)).mapM decide) := by
  simp only [List.mapM_append]
  cases before.mapM decide with
  | error failure => rfl
  | ok stepsBefore =>
    cases decided : entries.mapM decide with
    | error failure =>
      cases decidedOthers : others.mapM decide with
      | error other => rwa [decided, decidedOthers] at alike
      | ok stepsOthers =>
        rw [decided, decidedOthers] at alike
        exact alike.elim
    | ok steps =>
      cases decidedOthers : others.mapM decide with
      | error other =>
        rw [decided, decidedOthers] at alike
        exact alike.elim
      | ok stepsOthers =>
        rw [decided, decidedOthers] at alike
        cases after.mapM decide with
        | error failure => rfl
        | ok stepsAfter =>
          intro files
          simp only [upshot_performAll_append, alike _]

namespace Configuration

variable {config other : Configuration} {files : FileSystem} {entry first second : Entry}

theorem upshot_run_of_alike (formatter_eq : other.formatter = config.formatter)
    (alike : Step.Alike config.formatter (config.steps files) (other.steps files)) :
    (other.run files).upshot = (config.run files).upshot := by
  have upshot_run (config : Configuration) {steps : List Step}
      (decided : config.steps files = .ok steps) :
      (config.run files).upshot = (Step.performAll config.formatter files steps).upshot := by
    obtain ⟨files_eq, -, outcome_eq⟩ := run_of_performAll decided ⟨rfl, rfl, rfl⟩
    rw [Trail.upshot, Trail.upshot, files_eq, outcome_eq]
  cases decided : config.steps files with
  | error failure =>
    cases decidedOther : other.steps files with
    | error otherFailure =>
      rw [decided, decidedOther] at alike
      have same : failure = otherFailure := alike
      rw [Trail.upshot, Trail.upshot, (run_of_steps_eq_error decided .none).files_eq,
        (run_of_steps_eq_error decided .none).outcome_eq, (run_of_steps_eq_error decidedOther .none).files_eq,
        (run_of_steps_eq_error decidedOther .none).outcome_eq, same]
    | ok steps =>
      rw [decided, decidedOther] at alike
      exact alike.elim
  | ok steps =>
    cases decidedOther : other.steps files with
    | error otherFailure =>
      rw [decided, decidedOther] at alike
      exact alike.elim
    | ok otherSteps =>
      rw [decided, decidedOther] at alike
      rw [upshot_run config decided, upshot_run other decidedOther, formatter_eq]
      exact (alike files).symm

/-- An entry that is split comes to the same as its two parts, one after the other. -/
theorem alike_of_splitsInto (splits : entry.SplitsInto first second) :
    Step.Alike none ([entry].mapM (config.stepOf files))
      ([first, second].mapM (config.stepOf files)) := by
  obtain ⟨first_file, second_file⟩ := splits.file_eq
  have missing_first : config.isMissing files first = config.isMissing files entry := by
    rw [isMissing, first_file, ← isMissing]
  have missing_second : config.isMissing files second = config.isMissing files entry := by
    rw [isMissing, second_file, ← isMissing]
  cases missing : config.isMissing files entry with
  | true =>
    rw [missing] at missing_first missing_second
    simp only [List.mapM_cons, stepOf_of_missing missing, stepOf_of_missing missing_first,
      stepOf_of_missing missing_second]
    exact fun files => rfl
  | false =>
    rw [missing] at missing_first missing_second
    have compiled := splits.compile_eq (config.resolve entry.file)
    simp only [List.mapM_cons, stepOf_of_there missing, stepOf_of_there missing_first,
      stepOf_of_there missing_second, planEntry, first_file, second_file, compiled]
    cases first.compile (config.resolve entry.file) with
    | error failure => rfl
    | ok firstRules =>
      cases second.compile (config.resolve entry.file) with
      | error failure => rfl
      | ok secondRules =>
        exact Step.upshot_performAll_emend_append entry.file _ firstRules secondRules

/-- One entry of a configuration stands in another one in two parts; the settings are the same. -/
structure SplitsEntry (other config : Configuration) (entry first second : Entry) : Prop where
  directory_eq : other.directory = config.directory
  formatter_eq : other.formatter = config.formatter
  splits : entry.SplitsInto first second
  entries_eq : ∃ before after, config.entries = before ++ entry :: after ∧
    other.entries = before ++ first :: second :: after

theorem stepOf_eq_of_directory_eq (directory_eq : other.directory = config.directory)
    (files : FileSystem) : other.stepOf files = config.stepOf files := by
  funext entry
  simp only [stepOf, planEntry, resolve, directory_eq]

theorem upshot_run_of_splitsEntry (splitsEntry : other.SplitsEntry config entry first second)
    (unformatted : config.formatter = none) (files : FileSystem) :
    (other.run files).upshot = (config.run files).upshot := by
  obtain ⟨before, after, entries_eq, others_eq⟩ := splitsEntry.entries_eq
  apply upshot_run_of_alike splitsEntry.formatter_eq
  rw [steps, steps, stepOf_eq_of_directory_eq splitsEntry.directory_eq, entries_eq, others_eq,
    unformatted]
  exact Step.alike_mapM_append (alike_of_splitsInto splitsEntry.splits) before after

/-- Splitting an entry into two changes nothing but the summary.  Compiling the entry is compiling
both parts, with the same first pattern to be refused, and its rules do to any content what those of
the first part do and then those of the second with the formatter.  In a configuration without a
formatter, the run with the two parts succeeds if that with the entry does, or both fail alike, and
they leave the same files. -/
theorem run_of_split_entry (splits : entry.SplitsInto first second) :
    (∀ path, entry.compile path =
      (first.compile path).bind fun firstRules =>
        (second.compile path).map fun secondRules => firstRules ++ secondRules) ∧
    (∀ path rules, entry.compile path = .ok rules →
      ∃ firstRules secondRules, first.compile path = .ok firstRules ∧
        second.compile path = .ok secondRules ∧
        ∀ formatter content, rules.emend formatter content =
          (firstRules.emend none content).bind (secondRules.emend formatter)) ∧
    ∀ config other : Configuration, other.SplitsEntry config entry first second →
      config.formatter = none → ∀ files,
        ((∃ summary, (other.run files).outcome = .ok summary) ↔
          ∃ summary, (config.run files).outcome = .ok summary) ∧
        (∀ failure, (other.run files).outcome = .error failure ↔
          (config.run files).outcome = .error failure) ∧
        (other.run files).files = (config.run files).files := by
  refine ⟨splits.compile_eq, ?_, ?_⟩
  · intro path rules compiled
    rw [splits.compile_eq path] at compiled
    cases firstCompiled : first.compile path with
    | error failure => simp [firstCompiled, Except.bind] at compiled
    | ok firstRules =>
      cases secondCompiled : second.compile path with
      | error failure => simp [firstCompiled, secondCompiled, Except.bind, Except.map] at compiled
      | ok secondRules =>
        rw [firstCompiled, secondCompiled] at compiled
        cases compiled
        exact ⟨firstRules, secondRules, rfl, rfl, RuleSet.emend_append firstRules secondRules⟩
  · intro config other splitsEntry unformatted files
    have upshot_eq := upshot_run_of_splitsEntry splitsEntry unformatted files
    refine ⟨?_, fun failure => ?_, congrArg Upshot.files upshot_eq⟩
    · rw [Trail.exists_outcome_eq_ok_iff, Trail.exists_outcome_eq_ok_iff, upshot_eq]
    · rw [Trail.outcome_eq_error_iff, Trail.outcome_eq_error_iff, upshot_eq]

/-- An entry with two literals and a pattern for a file behind a link is split between the literals;
the second one finds what the first one has written. -/
theorem run_of_split_entry_behind_link :
    let files := FileSystem.withLink (Bytes.ofText "old")
    let entry : Entry :=
      { file := "b", literals := [⟨"old", "new"⟩, ⟨"new", "newer"⟩], patterns := [⟨"ew", "$0$0"⟩] }
    let first : Entry := { file := "b", literals := [⟨"old", "new"⟩] }
    let second : Entry :=
      { file := "b", literals := [⟨"new", "newer"⟩], patterns := [⟨"ew", "$0$0"⟩] }
    let config : Configuration := { packages := [⟨[{ file := "gone" }, entry]⟩] }
    let other : Configuration := { packages := [⟨[{ file := "gone" }, first]⟩, ⟨[second]⟩] }
    (config.run files).outcome = .ok { changed := ["b"], skipped := ["gone"] } ∧
      (config.run files).files.contents 0 = Bytes.ofText "newewer" ∧
      (∃ summary, (other.run files).outcome = .ok summary) ∧
      (other.run files).files = (config.run files).files := by
  intro files entry first second config other
  have splits : entry.SplitsInto first second := .literals "b" [⟨"old", "new"⟩] _ _
  have splitsEntry : other.SplitsEntry config entry first second :=
    ⟨rfl, rfl, splits, [{ file := "gone" }], [], rfl, rfl⟩
  have succeeded : (config.run files).outcome = .ok { changed := ["b"], skipped := ["gone"] } := by
    have result : (config.run files).outcome.toOption =
        some { changed := ["b"], skipped := ["gone"] } := by decide +kernel
    cases outcome_eq : (config.run files).outcome with
    | error failure => simp [outcome_eq, Except.toOption] at result
    | ok summary => simpa [outcome_eq, Except.toOption] using result
  obtain ⟨succeeds_iff, -, files_eq⟩ :=
    (run_of_split_entry splits).2.2 config other splitsEntry rfl files
  exact ⟨succeeded, by decide +kernel, succeeds_iff.mpr ⟨_, succeeded⟩, files_eq⟩

end Configuration

end Emend
