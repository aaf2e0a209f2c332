/-
# What a check of a configuration is worth

A configuration is checked by planning it.  A plan and a run fail at patterns alike, so after a
check that went well a run of the same configuration can only have trouble with a file.
-/

import Emend.Proofs.CommandLine.Location
import Emend.Proofs.Run.Planning

namespace Emend

namespace CommandLine

/-- The answer is a complaint about a file that could not be opened, read, formatted or written. -/
def Answer.ConcernsFile (answer : Answer) : Prop :=
  ∃ files requests log failure, failure.ConcernsFile ∧
    answer = { Invocation.fail files log "Failed to regenerate files" failure with requests }

namespace Invocation

variable {checked call : Invocation} {files : FileSystem}

/-- A check goes well exactly if there is a configuration that can be planned. -/
theorem validate_exitCode_eq_zero_iff :
    (call.validate files).exitCode = 0 ↔
      ∃ config planned, call.configuration files = .ok config ∧ config.plan = .ok planned := by
  unfold validate
  cases loaded : call.configuration files with
  | error failure => simp
  | ok config => cases planned : config.plan <;> simp [planned]

/-- The configuration of a call depends on its two paths and on one file. -/
theorem configuration_congr {later : FileSystem} (config_eq : call.config = checked.config)
    (dir_eq : call.dir = checked.dir)
    (unchanged : later.readFile checked.config = files.readFile checked.config) :
    call.configuration later = checked.configuration files := by
  simp only [configuration, Configuration.load, baseDirectory?, config_eq, dir_eq, unchanged]

/-- A formatter is of no concern to a plan. -/
@[simp] theorem plan_withFormatter (programs : Host.Programs) (config : Configuration) :
    (call.withFormatter programs config).plan = config.plan := by
  unfold withFormatter
  split <;> rfl

/-- A run of what can be planned ends well, or a file is in the way. -/
theorem regenerate_of_plan {config : Configuration} {planned : List PlannedEntry}
    (loaded : call.configuration files = .ok config) (planned_eq : config.plan = .ok planned)
    (machine : Machine) (log : LogFilter) :
    (call.regenerate machine log files).exitCode = 0 ∨
      (call.regenerate machine log files).ConcernsFile := by
  have formatted_eq : (call.withFormatter machine.programs config).plan = .ok planned := by
    rw [plan_withFormatter, planned_eq]
  have decided := Configuration.steps_of_plan formatted_eq files
  simp only [regenerate, loaded]
  cases outcome_eq :
    ((call.withFormatter machine.programs config).run files machine.mishaps).outcome with
  | error failure =>
    have concerns := Configuration.concernsFile_of_steps decided outcome_eq
    exact .inr ⟨_, _, _, failure, concerns, rfl⟩
  | ok summary => exact .inl rfl

/-- After a check that went well, a run that looks for the configuration in the same place and finds
it unchanged ends well, or a file is in the way. -/
theorem regenerate_of_validate {later : FileSystem}
    (valid : (checked.validate files).exitCode = 0) (config_eq : call.config = checked.config)
    (dir_eq : call.dir = checked.dir)
    (unchanged : later.readFile checked.config = files.readFile checked.config)
    (machine : Machine) (log : LogFilter) :
    (call.regenerate machine log later).exitCode = 0 ∨
      (call.regenerate machine log later).ConcernsFile := by
  obtain ⟨config, planned, loaded, planned_eq⟩ := validate_exitCode_eq_zero_iff.mp valid
  rw [← configuration_congr config_eq dir_eq unchanged] at loaded
  exact regenerate_of_plan loaded planned_eq machine log

end Invocation

section

variable {words : List Bytes} {call : Invocation}

theorem answer_of_validate (parsed : Invocation.parse words = .ok call)
    (noSetUp : call.init = false) (checks : call.command = .configValidate) (machine : Machine)
    (setting? : Option String) (files : FileSystem) :
    answer machine words setting? files = call.validate files := by
  simp [answer, parsed, Invocation.answer, noSetUp, checks]

theorem answer_of_regenerate (parsed : Invocation.parse words = .ok call)
    (noSetUp : call.init = false) (runs : call.command = .main) (machine : Machine)
    (setting? : Option String) (files : FileSystem) :
    answer machine words setting? files =
      call.regenerate machine (call.logFilter setting?) files := by
  simp [answer, parsed, Invocation.answer, noSetUp, runs]

end

/-- Two ways to call the program look for a configuration in the same place, the first to check it
and the second to run it. -/
structure SameConfiguration (checking running : List Bytes) (checked call : Invocation) :
    Prop where
  checking_parsed : Invocation.parse checking = .ok checked
  running_parsed : Invocation.parse running = .ok call
  checks : checked.command = .configValidate
  runs : call.command = .main
  checks_only : checked.init = false
  runs_only : call.init = false
  config_eq : call.config = checked.config
  dir_eq : call.dir = checked.dir

/-- The configuration that was checked is run, if the file that holds it has not changed. -/
theorem SameConfiguration.answer_of_valid {checking running : List Bytes}
    {checked call : Invocation} (same : SameConfiguration checking running checked call)
    {machine : Machine} {setting? : Option String} {files later : FileSystem}
    (valid : (answer machine checking setting? files).exitCode = 0)
    (unchanged : later.readFile checked.config = files.readFile checked.config)
    (laterMachine : Machine) (laterSetting? : Option String) :
    (answer laterMachine running laterSetting? later).exitCode = 0 ∨
      (answer laterMachine running laterSetting? later).ConcernsFile := by
  rw [answer_of_validate same.checking_parsed same.checks_only same.checks] at valid
  rw [answer_of_regenerate same.running_parsed same.runs_only same.runs]
  exact Invocation.regenerate_of_validate valid same.config_eq same.dir_eq unchanged _ _

/-- Words for the two paths, in front of a check and alone, look for a configuration in the same
place if the check goes well. -/
theorem sameConfiguration_of_valid {machine : Machine} {config? dir? : Option Path}
    {setting? : Option String} {files : FileSystem}
    (valid : (answer machine (Invocation.locating config? dir? ++ Invocation.checking) setting?
      files).exitCode = 0) :
    SameConfiguration (Invocation.locating config? dir? ++ Invocation.checking)
      (Invocation.locating config? dir?) (Invocation.located .configValidate config? dir?)
      (Invocation.located .main config? dir?) := by
  rcases Invocation.parse_locating config? dir? with ⟨error, refused⟩ | ⟨checked, ran⟩
  · rw [answer, refused] at valid
    cases valid
  · exact ⟨checked, ran, rfl, rfl, rfl, rfl, rfl, rfl⟩

end CommandLine

open CommandLine in
/-- A plan and the runs of a configuration agree: a run of what can be planned takes the planned
steps and is never refused for a pattern, what a run refuses the plan refuses no later, and where no
file is missing they refuse the same pattern.  So after a check of a configuration that went well, a
call that runs it from the same place while its file is unchanged fails on some other file or not at
all. -/
theorem plan_agrees_with_run :
    (∀ config : Configuration, config.PlanForetells) ∧
    (∀ (machine : Machine) (config? dir? : Option Path) (setting? : Option String)
        (files : FileSystem),
      (answer machine (Invocation.locating config? dir? ++ Invocation.checking) setting?
        files).exitCode = 0 →
      ∀ (laterMachine : Machine) (laterSetting? : Option String) (later : FileSystem),
        later.readFile (config?.getD Invocation.defaultConfig) =
          files.readFile (config?.getD Invocation.defaultConfig) →
        (answer laterMachine (Invocation.locating config? dir?) laterSetting?
            later).exitCode = 0 ∨
          (answer laterMachine (Invocation.locating config? dir?) laterSetting?
            later).ConcernsFile) ∧
    ∀ (checking running : List Bytes) (checked call : Invocation),
      SameConfiguration checking running checked call →
      ∀ (machine : Machine) (setting? : Option String) (files : FileSystem),
        (answer machine checking setting? files).exitCode = 0 →
        ∀ (laterMachine : Machine) (laterSetting? : Option String) (later : FileSystem),
          later.readFile checked.config = files.readFile checked.config →
          (answer laterMachine running laterSetting? later).exitCode = 0 ∨
            (answer laterMachine running laterSetting? later).ConcernsFile := by
  refine ⟨Configuration.planForetells, ?_, ?_⟩
  · intro machine config? dir? setting? files valid laterMachine laterSetting? later unchanged
    exact (sameConfiguration_of_valid valid).answer_of_valid valid unchanged laterMachine
      laterSetting?
  · intro checking running checked call same machine setting? files valid laterMachine
      laterSetting? later unchanged
    exact same.answer_of_valid valid unchanged laterMachine laterSetting?

open CommandLine in
/-- A file that is missing is skipped after a check, and another one is emended.  A pattern that is
refused for the missing file keeps the plan from getting to the one that the run refuses. -/
theorem plan_agrees_with_run_beside_missing :
    let text := "packages:\n- regenerates:\n  - file: gone\n  - file: a\n    strings: [match: x]\n"
    let files : FileSystem :=
      { nodes := [(["dir"], .directory), (["dir", "conf"], .file 0),
          (["dir", "a"], .file 1)]
        contents := fun number => if number = 0 then Bytes.ofText text else Bytes.ofText "xxy"
        here := [] }
    let machine : Machine := { programs := fun _ _ _ => .error .notFound }
    let words := Invocation.locating (some "dir/conf") none
    let config : Configuration :=
      { packages := [⟨[⟨"gone", [], [⟨"(", ""⟩]⟩, ⟨"dir/a", [], [⟨")", ""⟩]⟩]⟩] }
    (answer machine (words ++ Invocation.checking) none files).exitCode = 0 ∧
      ((answer machine words none files).exitCode = 0 ∨
        (answer machine words none files).ConcernsFile) ∧
      (answer machine words none files).output = "rewrote dir/a\n" ∧
      ∃ bad, (config.run files).outcome = .error (.patternInvalid "dir/a" bad) ∧
        ∃ path bad, config.plan = .error (.patternInvalid path bad) := by
  intro text files machine words config
  have valid : (answer machine (words ++ Invocation.checking) none files).exitCode = 0 := by
    decide +kernel
  have ran := plan_agrees_with_run.2.1 machine (some "dir/conf") none none files valid machine none
    files rfl
  let bad : BadPattern := ⟨")", .fault ⟨.groupUnopened, ⟨{}, ⟨1, 1, 2⟩⟩, none⟩⟩
  have refused : (config.run files).outcome = .error (.patternInvalid "dir/a" bad) := by rfl
  obtain ⟨-, -, -, -, path, planBad, planned, -⟩ :=
    (plan_agrees_with_run.1 config).refused_run files .none _ bad refused
  exact ⟨valid, ran, by decide +kernel, bad, refused, path, planBad, planned⟩

end Emend
