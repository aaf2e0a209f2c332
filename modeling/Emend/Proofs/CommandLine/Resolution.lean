/-
# Where declared files are looked for

Files are declared relative to the directory that is asked for, or else to the one that holds the
configuration; no document can name another one.  A run opens the files of its entries there and
nothing else.
-/

import Emend.Proofs.CommandLine.Validation
import Emend.Proofs.Config.Alike
import Emend.Proofs.Path
import Emend.Proofs.Run.Interruption

namespace Emend

namespace Configuration

variable {config : Configuration} {files : FileSystem}

theorem unset_of_parse {text : Bytes} (parsed : parse text = .ok config) :
    config.directory = none ∧ config.formatter = none := by
  rw [parse] at parsed
  cases blank : isBlank text with
  | true =>
    rw [blank] at parsed
    cases parsed
    exact ⟨rfl, rfl⟩
  | false =>
    rw [blank] at parsed
    exact Yaml.Document.unset_of_configuration parsed

theorem unset_of_load {path : Path} (loaded : load files path = .ok config) :
    config.directory = none ∧ config.formatter = none := by
  rw [load] at loaded
  cases read : files.readFile path with
  | error cause =>
    rw [read] at loaded
    cases loaded
  | ok text =>
    rw [read] at loaded
    change (parse text).mapError (Failure.configInvalid path) = .ok config at loaded
    cases parsed : parse text with
    | error cause =>
      rw [parsed] at loaded
      cases loaded
    | ok found =>
      rw [parsed] at loaded
      cases loaded
      exact unset_of_parse parsed

/-- A run opens the files of the first so many entries that have one, in order: of all if it
succeeds, and at least that of the first if no pattern is refused. -/
theorem exists_opened_of_run (config : Configuration) (files : FileSystem) (mishaps : Mishaps) :
    ∃ entries, entries <+: config.present files config.entries ∧
      (config.run files mishaps).requests.filterMap Request.opened? = config.pathsOf entries ∧
      (∀ summary, (config.run files mishaps).outcome = .ok summary →
        entries = config.present files config.entries) ∧
      ((∀ entry ∈ config.present files config.entries, entry.Compiles) →
        config.present files config.entries ≠ [] → entries ≠ []) := by
  rcases run_cases config files mishaps with
    ⟨failure, refused⟩ | ⟨visits, made, spare⟩ |
      ⟨before, entry, after, visits, failure, asked, left, compiles, entries_eq, stops⟩
  · have ends := run_of_steps_eq_error refused mishaps
    refine ⟨[], List.nil_prefix, ?_, ?_, ?_⟩
    · rw [ends.requests_eq]
      rfl
    · intro summary succeeded
      rw [ends.outcome_eq] at succeeded
      cases succeeded
    · intro compiles
      obtain ⟨steps, decided⟩ := exists_steps_eq_ok_iff.mpr compiles
      rw [refused] at decided
      cases decided
  · have ends := run_of_visits made spare
    refine ⟨config.present files config.entries, List.prefix_rfl, ?_, fun _ _ => rfl,
      fun _ nonempty => nonempty⟩
    rw [ends.requests_eq, opened?_of_visits, map_path_of_visits made]
  · have ends := run_of_stopsAt compiles entries_eq stops
    refine ⟨config.present files before ++ [entry], ?_, ?_, ?_, ?_⟩
    · have present_eq : config.present files config.entries =
          config.present files before ++ [entry] ++ config.present files after := by
        rw [entries_eq, present, List.filter_append, List.append_assoc]
        exact congrArg (_ ++ ·) (present_cons_of_there stops.there)
      rw [present_eq]
      exact List.prefix_append ..
    · rw [ends.requests_eq, List.filterMap_append, opened?_of_visits,
        map_path_of_visits stops.visits_before, opened?_of_falters stops.falters]
      simp [pathsOf]
    · intro summary succeeded
      rw [ends.outcome_eq] at succeeded
      cases succeeded
    · intro _ _
      exact List.append_ne_nil_of_right_ne_nil _ (List.cons_ne_nil entry [])

end Configuration

namespace CommandLine

/-- The paths that were opened in the course of a run, in order. -/
def Answer.opened (answer : Answer) : List Path := answer.requests.filterMap Request.opened?

/-- What was opened are the files that some entries declare, the first so many that have one, in
order: all of them if the answer is a success, and at least one, if there is one, unless a pattern is
refused. -/
def Answer.OpensDeclared (answer : Answer) (config : Configuration) (files : FileSystem) : Prop :=
  ∃ entries : List Entry, entries <+: config.present files config.entries ∧
    answer.opened = entries.map (fun entry => config.resolve entry.file) ∧
    (answer.exitCode = 0 → entries = config.present files config.entries) ∧
    ((∀ entry ∈ config.present files config.entries, entry.Compiles) →
      config.present files config.entries ≠ [] → entries ≠ [])

namespace Invocation

/-- A call is what some words ask for, and it is to run its configuration. -/
structure IsRunBy (call : Invocation) (words : List Bytes) : Prop where
  parsed : parse words = .ok call
  noSetUp : call.init = false
  runs : call.command = .main

variable {call : Invocation} {files : FileSystem} {config : Configuration}

/-- A configuration has the directory that its call asks for, or the one that holds it. -/
theorem directory_of_configuration (loaded : call.configuration files = .ok config) :
    config.directory = call.baseDirectory? := by
  rw [configuration] at loaded
  cases found : Configuration.load files call.config with
  | error failure =>
    rw [found] at loaded
    cases loaded
  | ok plain =>
    rw [found] at loaded
    cases loaded
    cases call.baseDirectory? with
    | none => exact (Configuration.unset_of_load found).1
    | some directory => rfl

/-- A formatter is of no concern to what is declared. -/
@[simp] theorem entries_withFormatter (programs : Host.Programs) (config : Configuration) :
    (call.withFormatter programs config).entries = config.entries := by
  rw [withFormatter]
  split <;> rfl

@[simp] theorem pathsOf_withFormatter (programs : Host.Programs) (config : Configuration)
    (entries : List Entry) :
    (call.withFormatter programs config).pathsOf entries = config.pathsOf entries := by
  rw [withFormatter]
  split <;> rfl

@[simp] theorem present_withFormatter (programs : Host.Programs) (config : Configuration)
    (files : FileSystem) (entries : List Entry) :
    (call.withFormatter programs config).present files entries =
      config.present files entries := by
  rw [withFormatter]
  split <;> rfl

/-- The answer of a call that runs a configuration tells of this run. -/
theorem regenerate_of_configuration (loaded : call.configuration files = .ok config)
    (machine : Machine) (log : LogFilter) :
    let trail := (call.withFormatter machine.programs config).run files machine.mishaps
    (call.regenerate machine log files).requests = trail.requests ∧
      ((call.regenerate machine log files).exitCode = 0 →
        ∃ summary, trail.outcome = .ok summary) := by
  intro trail
  simp only [regenerate, loaded]
  cases outcome_eq : trail.outcome with
  | error failure =>
    simp [fail, trail]
  | ok summary =>
    simp [trail]

/-- A call that runs a configuration opens what the configuration declares. -/
theorem opensDeclared_of_configuration (loaded : call.configuration files = .ok config)
    (machine : Machine) (log : LogFilter) :
    (call.regenerate machine log files).OpensDeclared config files := by
  obtain ⟨requests_eq, succeeds⟩ := regenerate_of_configuration loaded machine log
  obtain ⟨entries, isPrefix, opened_eq, complete, nonempty⟩ :=
    (call.withFormatter machine.programs config).exists_opened_of_run files machine.mishaps
  simp only [entries_withFormatter, pathsOf_withFormatter, present_withFormatter] at *
  refine ⟨entries, isPrefix, ?_, ?_, nonempty⟩
  · rw [Answer.opened, requests_eq, opened_eq]
    rfl
  · intro success
    obtain ⟨summary, succeeded⟩ := succeeds success
    exact complete summary succeeded

/-- The components of a declared file come after those of its base. -/
theorem parts_resolve (loaded : call.configuration files = .ok config) {file : Path}
    (relative : file.isAbsolute = false) :
    Path.parts (config.resolve file) =
      (call.baseDirectory?.map Path.parts).getD [] ++ Path.parts file := by
  rw [Configuration.resolve, directory_of_configuration loaded]
  cases call.baseDirectory? with
  | none => rfl
  | some directory => exact Path.parts_join directory relative

theorem resolve_of_isAbsolute (config : Configuration) {file : Path}
    (absolute : file.isAbsolute = true) : config.resolve file = file := by
  rw [Configuration.resolve]
  cases config.directory with
  | none => rfl
  | some directory => exact Path.join_of_isAbsolute directory absolute

/-- What a call opens to run its configuration are declared files, in order: all that are there if
it succeeds, and at least the first one if no pattern is refused.  A file that is declared absolute
is used as it is.  Any other has the components of the directory that is asked for before its own,
and does not lead out of that directory unless it has the way up among them; or if no directory is
asked for, those of the file of the configuration without the last one.  Any path can be asked for,
in whatever way it is written. -/
theorem opens_files_beside_configuration (loaded : call.configuration files = .ok config) :
    (∀ machine log, (call.regenerate machine log files).OpensDeclared config files) ∧
    (∀ words, call.IsRunBy words → ∀ machine setting?,
      (CommandLine.answer machine words setting? files).OpensDeclared config files) ∧
    (∀ path dir?, path ≠ [] → dir? ≠ some [] →
      (located .main (some path) dir?).IsRunBy (naming path dir?)) ∧
    ∀ file : Path,
      (file.isAbsolute = true → config.resolve file = file) ∧
      (file.isAbsolute = false →
        (call.dir = none → Path.parts (config.resolve file) =
          (Path.parts call.config).dropLast ++ Path.parts file) ∧
        ∀ dir, call.dir = some dir →
          Path.parts (config.resolve file) = Path.parts dir ++ Path.parts file ∧
          (Path.up ∉ Path.parts file → Path.lexical (Path.parts (config.resolve file)) =
            Path.lexical (Path.parts dir) ++ Path.parts file)) := by
  refine ⟨opensDeclared_of_configuration loaded, ?_, ?_, ?_⟩
  · intro words ⟨parsed, noSetUp, runs⟩ machine setting?
    rw [answer_of_regenerate parsed noSetUp runs]
    exact opensDeclared_of_configuration loaded machine _
  · intro path dir? isPath isDir
    exact ⟨parse_naming isPath isDir, rfl, rfl⟩
  · intro file
    refine ⟨resolve_of_isAbsolute config, ?_⟩
    intro relative
    have found := parts_resolve loaded relative
    constructor
    · intro noDir
      rw [found, baseDirectory?, noDir]
      simp only [Path.parts_parent?]
    · intro dir asked
      have inDir : Path.parts (config.resolve file) = Path.parts dir ++ Path.parts file := by
        rw [found, baseDirectory?, asked]
        rfl
      refine ⟨inDir, ?_⟩
      intro noWayUp
      rw [inDir, Path.lexical_append _ noWayUp]

/-- A configuration that is named with redundant slashes and dots declares a file beside it, and one
that is asked to be taken to a directory, the name of which is no text, declares one there. -/
theorem opens_files_beside_redundant_path :
    let text := "packages:\n- regenerates:\n  - file: a/./b\n"
    let files : FileSystem :=
      { nodes := [(["dir"], .directory), (["dir", "conf"], .file 0), (["dir", "a"], .directory),
          (["dir", "a", "b"], .file 1)]
        contents := fun number => if number = 0 then Bytes.ofText text else []
        here := [] }
    let machine : Machine := { programs := fun _ _ _ => .error .notFound }
    let strange : Path := Bytes.ofText "../" ++ [0xFF, Path.slash]
    let call := located .main (some ".//dir/./conf") none
    let elsewhere := located .main (some "dir/conf") (some strange)
    let answer := CommandLine.answer machine (naming ".//dir/./conf" none) none files
    ∃ config other, call.configuration files = .ok config ∧
      elsewhere.configuration files = .ok other ∧
      answer.OpensDeclared config files ∧ answer.opened = [Bytes.ofText ".//dir/a/./b"] ∧
      Path.parts (config.resolve "a/./b") = (["dir", "a", "b"] : List Path) ∧
      Path.lexical (Path.parts (other.resolve "a/./b")) =
        ([Path.up, [0xFF], "a", "b"] : List Path) ∧
      config.resolve "/a" = "/a" := by
  intro text files machine strange call elsewhere answer
  have exists_of_isOk (call : Invocation) (readable : (call.configuration files).isOk = true) :
      ∃ config, call.configuration files = .ok config := by
    cases found : call.configuration files with
    | error failure =>
      rw [found] at readable
      cases readable
    | ok config => exact ⟨config, rfl⟩
  obtain ⟨config, loaded⟩ := exists_of_isOk call (by decide +kernel)
  obtain ⟨other, otherLoaded⟩ := exists_of_isOk elsewhere (by decide +kernel)
  obtain ⟨-, runs, named, found⟩ := opens_files_beside_configuration loaded
  obtain ⟨-, -, -, otherFound⟩ := opens_files_beside_configuration otherLoaded
  have isRun : call.IsRunBy (naming ".//dir/./conf" none) := named _ _ (by decide) (by decide)
  have beside := ((found "a/./b").2 (by decide)).1 rfl
  have inDir := ((otherFound "a/./b").2 (by decide)).2 strange rfl
  refine ⟨config, other, loaded, otherLoaded, runs _ isRun machine none, by decide +kernel, ?_, ?_,
    (found "/a").1 (by decide)⟩
  · rw [beside]
    decide
  · rw [inDir.2 (by decide)]
    decide

end Invocation

end CommandLine

end Emend
