/-
# Runs that stop on the way

A run that fails for another reason than a pattern has come to some entry.  It leaves the files as
the entries before that one have left them, just as if it had been a run of these alone: nothing of
those after it is to be seen, and of the entry itself only what got into its file before the system
refused to go on writing.
-/

import Emend.Host.Installed
import Emend.Proofs.Program
import Emend.Proofs.Run.Outcome

namespace Emend

/-! ## Requests -/

/-- The path that is opened. -/
def Request.opened? : Request → Option Path
  | .opened path => some path
  | _ => none

/-- What is written, and to what. -/
def Request.replaced? : Request → Option (FileSystem.Handle × Bytes)
  | .replaced handle content => some (handle, content)
  | _ => none

/-- What a visit writes. -/
def Visit.replacement (visit : Visit) : FileSystem.Handle × Bytes :=
  (.file visit.number, visit.after)

theorem Visit.opened?_requests (formatter : Option Formatter) (visit : Visit) :
    (visit.requests formatter).filterMap Request.opened? = [visit.path] := by
  cases formatter <;> rfl

theorem Visit.replaced?_requests (formatter : Option Formatter) (visit : Visit) :
    (visit.requests formatter).filterMap Request.replaced? = [visit.replacement] := by
  cases formatter <;> rfl

namespace Configuration

variable {config : Configuration} {files : FileSystem}

/-- Visits open their paths, each one once and in order. -/
theorem opened?_of_visits (visits : List Visit) :
    (visits.flatMap (Visit.requests config.formatter)).filterMap Request.opened? =
      visits.map Visit.path := by
  rw [List.filterMap_flatMap, List.map_eq_flatMap]
  simp only [Visit.opened?_requests]

/-- Visits write what they say they do. -/
theorem replaced?_of_visits (visits : List Visit) :
    (visits.flatMap (Visit.requests config.formatter)).filterMap Request.replaced? =
      visits.map Visit.replacement := by
  rw [List.filterMap_flatMap, List.map_eq_flatMap]
  simp only [Visit.replaced?_requests]

theorem opened?_of_falters {entry : Entry} {mishap : Mishap} {failure : Failure}
    {requests : List Request} {left : FileSystem}
    (falters : config.Falters mishap files entry failure requests left) :
    requests.filterMap Request.opened? = [config.resolve entry.file] := by
  cases falters with
  | notWritten => cases config.formatter <;> rfl
  | _ => rfl

/-! ## What programs contribute -/

section

variable {programs : Host.Programs} {program : String} {args : List String}

/-- Every visit of a program's formatter has an output that the program has made in full. -/
theorem completes_of_visits {entries : List Entry} {visits : List Visit}
    (formatter_eq : config.formatter = some (.ofCommand programs program args))
    (made : config.Visits files entries visits) :
    ∀ visit ∈ visits, Host.Completes programs program args visit.substituted visit.after := by
  induction made with
  | nil files => simp
  | cons first others ih =>
    have finished := first.after_eq
    rw [formatter_eq] at finished
    exact List.forall_mem_cons.mpr ⟨Host.completes_of_runProgram_eq_ok finished, ih⟩

/-- Also what could not be written in full was made in full by the program. -/
theorem completes_of_falters {entry : Entry} {mishap : Mishap} {failure : Failure}
    {requests : List Request} {left : FileSystem}
    (formatter_eq : config.formatter = some (.ofCommand programs program args))
    (falters : config.Falters mishap files entry failure requests left) {handle : FileSystem.Handle}
    {output : Bytes} (written : .replaced handle output ∈ requests) :
    ∃ input, Host.Completes programs program args input output := by
  cases falters with
  | @notWritten _ _ substituted made _ _ opened read substituted_eq output_eq refused =>
    rw [formatter_eq] at output_eq
    obtain ⟨-, rfl⟩ : handle = _ ∧ output = made := by
      simpa [Request.toFormatter, formatter_eq] using written
    exact ⟨substituted, Host.completes_of_runProgram_eq_ok output_eq⟩
  | _ => simp at written

/-- If a program formats, what a failure to format wraps is a failure of the program. -/
theorem isOfProgram_of_falters {entry : Entry} {mishap : Mishap} {path : Path} {cause : Failure}
    {requests : List Request} {left : FileSystem}
    (formatter_eq : config.formatter = some (.ofCommand programs program args))
    (falters : config.Falters mishap files entry (.notFormatted path cause) requests left) :
    cause.IsOfProgram program := by
  cases falters with
  | notFormatted opened read substituted_eq found refused =>
    rw [formatter_eq, Option.some.injEq] at found
    subst found
    exact Host.isOfProgram_of_runProgram_eq_error refused

end

/-! ## The entries before -/

/-- Some entries alone, with the same settings. -/
def only (config : Configuration) (entries : List Entry) : Configuration :=
  { config with packages := [{ entries }] }

theorem entries_only (entries : List Entry) : (config.only entries).entries = entries := by
  simp [only, Configuration.entries]

/-- Which visits are made depends on the settings and on nothing else of a configuration. -/
theorem visits_only {kept entries : List Entry} {visits : List Visit}
    (made : config.Visits files entries visits) :
    (config.only kept).Visits files entries visits := by
  induction made with
  | nil files => exact .nil files
  | cons first others ih =>
    exact .cons ⟨first.path_eq, first.reached, first.before_eq, first.substituted_eq,
      first.after_eq⟩ ih

/-- A run that came to an entry and failed there. -/
structure Interrupted (config : Configuration) (files : FileSystem) (mishaps : Mishaps)
    (failure : Failure) (before : List Entry) (entry : Entry) (after : List Entry)
    (visits : List Visit) (asked : List Request) : Prop where
  entries_eq : config.entries = before ++ entry :: after
  /-- The entries before have made their visits, save those without a file. -/
  visits_before : config.Visits files (config.present files before) visits
  /-- The entry itself is none of those without a file. -/
  there : config.isMissing files entry = false
  /-- A run of the entries before alone succeeds. -/
  run_before : ((config.only before).run files mishaps).Ends (files.after visits)
    (visits.flatMap (Visit.requests config.formatter))
    (.ok (.ofVisits visits (config.pathsOf (config.missing files before))))
  /-- The failure is that of opening, reading, formatting or writing the file of the entry, in the
  files as the run of those before leaves them. -/
  falters : config.Falters (mishaps visits.length) (files.after visits) entry failure asked
    (config.run files mishaps).files
  /-- The same files are left, that of the entry included, unless writing failed. -/
  kept : (∀ path cause, failure ≠ .notWritten path cause) →
    (config.run files mishaps).files = files.after visits
  /-- If writing failed, its file may hold what was done before that, and all else is the same. -/
  kept_or_breaksOff : (config.run files mishaps).files = files.after visits ∨
    config.BreaksOff (mishaps visits.length) (files.after visits) entry failure asked
      (config.run files mishaps).files
  /-- No path was opened but those of the entries before and that of the entry itself. -/
  opened_eq : (config.run files mishaps).requests.filterMap Request.opened? =
    config.pathsOf (config.present files before ++ [entry])
  /-- Nothing was written but what the visits have, and what the entry has tried to. -/
  replaced_eq : (config.run files mishaps).requests.filterMap Request.replaced? =
    visits.map Visit.replacement ++ asked.filterMap Request.replaced?
  /-- If a program formats, a failure to format is one of its own failures. -/
  isOfProgram : ∀ programs program args,
    config.formatter = some (.ofCommand programs program args) →
    ∀ path cause, failure = .notFormatted path cause → cause.IsOfProgram program
  /-- What a program has formatted for the entries before was formatted without failure. -/
  completes : ∀ programs program args,
    config.formatter = some (.ofCommand programs program args) →
    ∀ visit ∈ visits, Host.Completes programs program args visit.substituted visit.after
  /-- So was what the entry has tried to write. -/
  completes_last : ∀ programs program args,
    config.formatter = some (.ofCommand programs program args) →
    ∀ handle output, .replaced handle output ∈ asked →
      ∃ input, Host.Completes programs program args input output

/-- A run that fails for another reason than a pattern was interrupted at some entry. -/
theorem run_interrupted {mishaps : Mishaps} {failure : Failure}
    (failed : (config.run files mishaps).outcome = .error failure)
    (accepted : ∀ path bad, failure ≠ .patternInvalid path bad) :
    ∃ before entry after visits asked,
      config.Interrupted files mishaps failure before entry after visits asked := by
  rcases run_cases config files mishaps with
    ⟨other, refused⟩ | ⟨visits, made, spare⟩ |
      ⟨before, entry, after, visits, other, asked, left, compiles, entries_eq, stops⟩
  · rw [(run_of_steps_eq_error refused mishaps).outcome_eq, Except.error.injEq] at failed
    subst failed
    obtain ⟨-, entry, -, -, -, -, bad, rfl, -⟩ := steps_eq_error_iff.mp refused
    exact absurd rfl (accepted _ bad)
  · rw [(run_of_visits made spare).outcome_eq] at failed
    cases failed
  · have ends := run_of_stopsAt compiles entries_eq stops
    rw [ends.outcome_eq, Except.error.injEq] at failed
    subst failed
    obtain ⟨made, spare, there, falters⟩ := stops
    have alone : (config.only before).Visits files
        ((config.only before).present files (config.only before).entries) visits := by
      rw [entries_only]
      exact visits_only made
    have run_before := run_of_visits alone spare
    rw [entries_only] at run_before
    rw [← ends.files_eq] at falters
    have kept_or_breaksOff := left_eq_or_breaksOff falters
    refine ⟨before, entry, after, visits, asked, entries_eq, made, there, run_before, falters,
      ?_, kept_or_breaksOff, ?_, ?_, ?_, ?_, ?_⟩
    · intro notWriting
      rcases kept_or_breaksOff with same | ⟨_, _, _, -, -, failure_eq, -⟩
      · exact same
      · exact absurd failure_eq (notWriting _ _)
    · rw [ends.requests_eq, List.filterMap_append, opened?_of_visits, map_path_of_visits made,
        opened?_of_falters falters]
      simp [pathsOf]
    · rw [ends.requests_eq, List.filterMap_append, replaced?_of_visits]
    · rintro programs program args formatter_eq path cause rfl
      exact isOfProgram_of_falters formatter_eq falters
    · intro programs program args formatter_eq
      exact completes_of_visits formatter_eq made
    · intro programs program args formatter_eq handle output written
      exact completes_of_falters formatter_eq falters written

/-- Two entries reach one file, the second one through a link, and the file takes no more than four
bytes of what the program makes of the content that the first one has left. -/
theorem run_interrupted_behind_link :
    let files := FileSystem.withLink (Bytes.ofText "old")
    let passing : Host.Programs := fun _ _ input => .ok { output := input }
    let config : Configuration :=
      { packages := [⟨[{ file := "gone" }, { file := "a", literals := [⟨"old", "new"⟩] },
          { file := "b", literals := [⟨"new", "newer"⟩] }, { file := "a" }]⟩]
        formatter := some (.ofCommand passing "cat" []) }
    let mishaps : Mishaps := fun n =>
      if n = 1 then { writing? := some ⟨.write 4, .inputOutput⟩ } else {}
    (config.run files mishaps).outcome = .error (.notWritten "b" .inputOutput) ∧
      (config.run files mishaps).files.contents 0 = Bytes.ofText "newe" ∧
      ∃ before entry after visits asked, config.Interrupted files mishaps
        (.notWritten "b" .inputOutput) before entry after visits asked :=
  ⟨by rfl, by rfl, run_interrupted (by rfl) fun _ _ => Failure.noConfusion⟩

/-- A formatter may fail with a failure that is none of a program, and the run wraps even one that is
wrapped already.  A program that reads nothing of its input, when a pipe holds all of it, contributes
its output. -/
theorem run_wraps_wrapped_failure :
    let files := FileSystem.withLink (Bytes.ofText "old")
    let wrapped := Failure.notFormatted "c" (.notOpened "c" .notFound)
    let failing : Configuration :=
      { packages := [⟨[{ file := "a" }]⟩], formatter := some { format := fun _ => .error wrapped } }
    let echoing : Configuration :=
      { packages := [⟨[{ file := "a" }]⟩]
        formatter := some (.ofCommand Host.Installed.programs "echo" ["hi"]) }
    (failing.run files).outcome = .error (.notFormatted "a" wrapped) ∧
      (∀ program, ¬ wrapped.IsOfProgram program) ∧
      ((Host.Installed.program (Bytes.ofText "echo")).toOption.map fun echo =>
        (echo { name := "echo", args := [Bytes.ofText "hi"], input := Bytes.ofText "old"
                files := Host.Installed.files }).unread) = some (Bytes.ofText "old") ∧
      (echoing.run files).files.contents 0 = Bytes.ofText "hi\n" := by
  refine ⟨by rfl, fun program => id, ?_, ?_⟩
  · decide +kernel
  · decide +kernel

end Configuration

end Emend
