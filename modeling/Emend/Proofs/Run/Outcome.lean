/-
# How a run ends

A run is refused for a pattern before anything is asked for, or all entries with a file make their
visits, or the entries before some entry do and this one falters.  The three cases exclude each
other, so what came out of a run tells what it did to the files.
-/

import Emend.Proofs.Program
import Emend.Proofs.Run.Pass

namespace Emend

namespace Configuration

variable {config : Configuration} {files : FileSystem}

/-! ## Visiting or faltering -/

theorem openFile_ne_notFound_of_there {entry : Entry}
    (there : config.isMissing files entry = false) :
    files.openFile (config.resolve entry.file) ≠ .error .notFound := by
  intro refused
  rw [isMissing_iff.mpr (FileSystem.exists?_of_openFile_notFound refused)] at there
  cases there

/-- An entry with a file visits it or falters; it falters if anything is refused of the work on
it. -/
theorem visit_or_falters {entry : Entry} (there : config.isMissing files entry = false)
    (compiles : entry.Compiles) (mishap : Mishap) :
    (mishap = {} ∧ ∃ visit : Visit, visit.IsOf config files entry) ∨
      ∃ failure requests left, config.Falters mishap files entry failure requests left := by
  cases opened : files.openFile (config.resolve entry.file) with
  | error cause =>
    refine .inr ⟨_, _, _, .notOpened opened ?_⟩
    rintro rfl
    exact openFile_ne_notFound_of_there there opened
  | ok handle =>
    cases read : files.read handle mishap.reading? with
    | error cause => exact .inr ⟨_, _, _, .notRead opened read⟩
    | ok content =>
      obtain ⟨substituted, made⟩ := Entry.exists_substituted?_iff.mpr compiles
      cases output_eq : Formatter.finish config.formatter substituted with
      | error cause =>
        cases formatter_eq : config.formatter with
        | none => simp [Formatter.finish, formatter_eq] at output_eq
        | some formatter =>
          rw [formatter_eq] at output_eq
          exact .inr ⟨_, _, _, .notFormatted opened read made formatter_eq output_eq⟩
      | ok output =>
        cases handle with
        | file number =>
          obtain ⟨reading?, writing?⟩ := mishap
          cases reading? with
          | some cause => cases read
          | none =>
            cases writing? with
            | some refusal => exact .inr ⟨_, _, _, .notWritten opened read made output_eq rfl⟩
            | none =>
              cases read
              have reached := FileSystem.openFile_eq_file_iff.mp opened
              exact .inl ⟨rfl, ⟨_, number, _, substituted, output⟩, rfl, reached, rfl, made,
                output_eq⟩
        | device device =>
          obtain ⟨cause, refused⟩ :=
            FileSystem.exists_replace_device_eq_error files output device mishap.writing?
          exact .inr ⟨_, _, _, .notWritten opened read made output_eq refused⟩

/-- The run stops at an entry: those before it have made their visits and it falters. -/
structure StopsAt (config : Configuration) (mishaps : Mishaps) (files : FileSystem)
    (before : List Entry) (entry : Entry) (visits : List Visit) (failure : Failure)
    (requests : List Request) (left : FileSystem) : Prop where
  visits_before : config.Visits files (config.present files before) visits
  spare : mishaps.Spare visits.length
  there : config.isMissing files entry = false
  falters : config.Falters (mishaps visits.length) (files.after visits) entry failure requests left

/-- Entries that compile make their visits up to the first that falters, if one does. -/
theorem visits_or_stopsAt {entries : List Entry}
    (compiles : ∀ entry ∈ config.present files entries, entry.Compiles) (mishaps : Mishaps) :
    (∃ visits, config.Visits files (config.present files entries) visits ∧
        mishaps.Spare visits.length) ∨
      ∃ before entry after visits failure requests left, entries = before ++ entry :: after ∧
        config.StopsAt mishaps files before entry visits failure requests left := by
  induction entries generalizing files mishaps with
  | nil => exact .inl ⟨[], .nil files, nofun⟩
  | cons entry entries ih =>
    cases missing : config.isMissing files entry with
    | true =>
      rw [present_cons_of_missing missing] at compiles ⊢
      rcases ih compiles mishaps with
        made | ⟨before, last, after, visits, failure, requests, left, rfl, made, spare, there,
          falters⟩
      · exact .inl made
      · refine .inr ⟨entry :: before, last, after, visits, failure, requests, left, rfl, ?_,
          spare, there, falters⟩
        rwa [present_cons_of_missing missing]
    | false =>
      rw [present_cons_of_there missing] at compiles ⊢
      obtain ⟨first_compiles, others_compile⟩ := List.forall_mem_cons.mp compiles
      rcases visit_or_falters missing first_compiles (mishaps 0) with
        ⟨harmless, visit, visit_of⟩ | ⟨failure, requests, left, falters⟩
      · -- The others go on in the files after the visit, where the same ones have a file.
        rw [← present_visit visit] at others_compile
        rcases ih others_compile (mishaps.after 1) with
          ⟨visits, made, spare⟩ |
            ⟨before, last, after, visits, failure, requests, left, rfl, made, spare, there,
              falters⟩
        · rw [present_visit] at made
          exact .inl ⟨visit :: visits, .cons visit_of made,
            Mishaps.spare_succ_iff.mpr ⟨harmless, spare⟩⟩
        · rw [present_visit] at made
          rw [isMissing_visit] at there
          rw [Mishaps.after, Nat.add_comm] at falters
          refine .inr ⟨entry :: before, last, after, visit :: visits, failure, requests, left, rfl,
            ?_, Mishaps.spare_succ_iff.mpr ⟨harmless, spare⟩, there, falters⟩
          rw [present_cons_of_there missing]
          exact .cons visit_of made
      · exact .inr ⟨[], entry, entries, [], failure, requests, left, rfl, .nil files, nofun,
          missing, falters⟩

/-! ## The three ways to end -/

/-- Visits change no answer about which files there are. -/
@[simp] theorem isMissing_after (visits : List Visit) (entry : Entry) :
    config.isMissing (files.after visits) entry = config.isMissing files entry := by
  induction visits generalizing files with
  | nil => rfl
  | cons visit visits ih => exact ih.trans (isMissing_visit visit)

@[simp] theorem present_after (visits : List Visit) (entries : List Entry) :
    config.present (files.after visits) entries = config.present files entries := by
  simp only [present, isMissing_after]

@[simp] theorem missing_after (visits : List Visit) (entries : List Entry) :
    config.missing (files.after visits) entries = config.missing files entries := by
  simp only [missing, isMissing_after]

/-- Visits take place at the paths of their entries. -/
theorem map_path_of_visits {entries : List Entry} {visits : List Visit}
    (made : config.Visits files entries visits) :
    visits.map Visit.path = config.pathsOf entries := by
  induction made with
  | nil files => rfl
  | cons first others ih => rw [List.map_cons, ih, first.path_eq]; rfl

theorem compiles_of_visits {entries : List Entry} {visits : List Visit}
    (made : config.Visits files entries visits) : ∀ entry ∈ entries, entry.Compiles := by
  induction made with
  | nil files => simp
  | cons first others ih =>
    exact List.forall_mem_cons.mpr ⟨Entry.compiles_of_substituted? first.substituted_eq, ih⟩

theorem run_of_steps_eq_error {failure : Failure} (refused : config.steps files = .error failure)
    (mishaps : Mishaps) : (config.run files mishaps).Ends files [] (.error failure) := by
  simp only [run, refused]
  exact ⟨rfl, rfl, rfl⟩

/-- Once the first pass is through, a run ends as the second pass does. -/
theorem run_of_performAll {steps : List Step} {mishaps : Mishaps} {final : FileSystem}
    {requests : List Request} {outcome : Except Failure Summary}
    (decided : config.steps files = .ok steps)
    (performed :
      (Step.performAll config.formatter files steps mishaps).Ends final requests outcome) :
    (config.run files mishaps).Ends final requests outcome := by
  obtain ⟨rfl, rfl, rfl⟩ := performed
  cases outcome_eq : (Step.performAll config.formatter files steps mishaps).outcome with
  | error failure =>
    simp only [run, decided, outcome_eq]
    exact ⟨rfl, rfl, outcome_eq⟩
  | ok summary =>
    simp only [run, decided, outcome_eq]
    exact ⟨rfl, rfl, rfl⟩

theorem run_of_visits {visits : List Visit} {mishaps : Mishaps}
    (made : config.Visits files (config.present files config.entries) visits)
    (spare : mishaps.Spare visits.length) :
    (config.run files mishaps).Ends (files.after visits)
      (visits.flatMap (Visit.requests config.formatter))
      (.ok (.ofVisits visits (config.pathsOf (config.missing files config.entries)))) := by
  obtain ⟨steps, decided⟩ := exists_steps_eq_ok_iff.mpr (compiles_of_visits made)
  apply run_of_performAll decided
  have whole : (config.entries ++ []).mapM (config.stepOf files) = .ok steps := by
    rw [List.append_nil]
    exact decided
  obtain ⟨others, rest, continues⟩ := performAll_append whole made spare
  rw [List.mapM_nil] at rest
  cases rest
  have nothing : (Step.performAll config.formatter (files.after visits) []
      (mishaps.after visits.length)).Ends (files.after visits) [] (.ok {}) := ⟨rfl, rfl, rfl⟩
  have ended := continues nothing
  rw [List.append_nil, Except.map, Summary.append_empty] at ended
  exact ended

theorem run_of_stopsAt {before after : List Entry} {entry : Entry} {visits : List Visit}
    {failure : Failure} {requests : List Request} {mishaps : Mishaps} {left : FileSystem}
    (compiles : ∀ entry ∈ config.present files config.entries, entry.Compiles)
    (entries_eq : config.entries = before ++ entry :: after)
    (stops : config.StopsAt mishaps files before entry visits failure requests left) :
    (config.run files mishaps).Ends left
      (visits.flatMap (Visit.requests config.formatter) ++ requests) (.error failure) := by
  obtain ⟨made, spare, there, falters⟩ := stops
  obtain ⟨steps, decided⟩ := exists_steps_eq_ok_iff.mpr compiles
  apply run_of_performAll decided
  have whole : (before ++ entry :: after).mapM (config.stepOf files) = .ok steps := by
    rw [← entries_eq]
    exact decided
  obtain ⟨others, rest, continues⟩ := performAll_append whole made spare
  obtain ⟨step, later, first, -, rfl⟩ := Traversal.mapM_cons_eq_ok_iff.mp rest
  rw [← isMissing_after visits] at there
  exact continues (Step.performAll_cons_of_error (perform_of_falters there first falters))

/-- A run is refused by the first pass, or all entries with a file make their visits, or it stops at
an entry. -/
theorem run_cases (config : Configuration) (files : FileSystem) (mishaps : Mishaps) :
    (∃ failure, config.steps files = .error failure) ∨
      (∃ visits, config.Visits files (config.present files config.entries) visits ∧
        mishaps.Spare visits.length) ∨
      ∃ before entry after visits failure requests left,
        (∀ entry ∈ config.present files config.entries, entry.Compiles) ∧
        config.entries = before ++ entry :: after ∧
        config.StopsAt mishaps files before entry visits failure requests left := by
  cases decided : config.steps files with
  | error failure => exact .inl ⟨failure, rfl⟩
  | ok steps =>
    have compiles := exists_steps_eq_ok_iff.mp ⟨steps, decided⟩
    rcases visits_or_stopsAt compiles mishaps with
      made | ⟨before, entry, after, visits, failure, requests, left, stops⟩
    · exact .inr (.inl made)
    · exact .inr (.inr ⟨before, entry, after, visits, failure, requests, left, compiles, stops⟩)

/-! ## Success -/

/-- A run that succeeds has made all its visits, with nothing refused of the work on their files. -/
theorem exists_visits_of_run_eq_ok {summary : Summary} {mishaps : Mishaps}
    (succeeded : (config.run files mishaps).outcome = .ok summary) :
    ∃ visits, config.Visits files (config.present files config.entries) visits ∧
      mishaps.Spare visits.length := by
  rcases run_cases config files mishaps with
    ⟨failure, refused⟩ | made |
      ⟨before, entry, after, visits, failure, requests, left, compiles, entries_eq, stops⟩
  · rw [(run_of_steps_eq_error refused mishaps).outcome_eq] at succeeded
    cases succeeded
  · exact made
  · rw [(run_of_stopsAt compiles entries_eq stops).outcome_eq] at succeeded
    cases succeeded

/-- A run succeeds exactly if every entry with a file can make its visit, in order and each in the
files as the ones before have left them, and nothing is refused of the work on these files.  What the
files then hold is what the visits have put into them, and the summary lists by path the visits that
changed something, those that changed nothing and the entries without a file. -/
theorem run_succeeds_iff_visits (config : Configuration) (files final : FileSystem)
    (mishaps : Mishaps) (summary : Summary) :
    (config.run files mishaps).outcome = .ok summary ∧
        (config.run files mishaps).files = final ↔
      ∃ visits, config.Visits files (config.present files config.entries) visits ∧
        mishaps.Spare visits.length ∧
        final = files.after visits ∧
        summary = .ofVisits visits (config.pathsOf (config.missing files config.entries)) := by
  constructor
  · rintro ⟨succeeded, rfl⟩
    obtain ⟨visits, made, spare⟩ := exists_visits_of_run_eq_ok succeeded
    have ends := run_of_visits made spare
    rw [ends.outcome_eq, Except.ok.injEq] at succeeded
    exact ⟨visits, made, spare, ends.files_eq, succeeded.symm⟩
  · rintro ⟨visits, made, spare, rfl, rfl⟩
    have ends := run_of_visits made spare
    exact ⟨ends.outcome_eq, ends.files_eq⟩

/-! ## Refusal of a pattern -/

/-- The first pass fails as the first entry does that may have a file and whose patterns are not all
accepted. -/
theorem steps_eq_error_iff {failure : Failure} :
    config.steps files = .error failure ↔
      ∃ before entry after, config.entries = before ++ entry :: after ∧
        (∀ earlier ∈ config.present files before, earlier.Compiles) ∧
        config.isMissing files entry = false ∧
        ∃ bad, failure = .patternInvalid (config.resolve entry.file) bad ∧
          entry.FirstRefused bad := by
  unfold steps
  simp only [Traversal.mapM_eq_error_iff, Traversal.FailsFirst, stepOf_eq_error_iff,
    exists_stepOf_eq_ok_iff, present, List.mem_filter, Bool.not_eq_true', and_imp]

theorem falters_ne_patternInvalid {entry : Entry} {mishap : Mishap} {failure : Failure}
    {requests : List Request} {left : FileSystem}
    (falters : config.Falters mishap files entry failure requests left) (path : Path)
    (bad : BadPattern) : failure ≠ .patternInvalid path bad := by
  cases falters <;> exact Failure.noConfusion

/-- A run ends with the refusal of a pattern exactly if the first pass does. -/
theorem run_eq_patternInvalid_iff {mishaps : Mishaps} {path : Path} {bad : BadPattern} :
    (config.run files mishaps).outcome = .error (.patternInvalid path bad) ↔
      config.steps files = .error (.patternInvalid path bad) := by
  constructor
  · intro failed
    rcases run_cases config files mishaps with
      ⟨failure, refused⟩ | ⟨visits, made, spare⟩ |
        ⟨before, entry, after, visits, failure, requests, left, compiles, entries_eq, stops⟩
    · rw [(run_of_steps_eq_error refused mishaps).outcome_eq, Except.error.injEq] at failed
      rw [refused, failed]
    · rw [(run_of_visits made spare).outcome_eq] at failed
      cases failed
    · rw [(run_of_stopsAt compiles entries_eq stops).outcome_eq, Except.error.injEq] at failed
      exact absurd failed (falters_ne_patternInvalid stops.falters path bad)
  · intro refused
    exact (run_of_steps_eq_error refused mishaps).outcome_eq

/-- The first pass fails exactly if some entry that may have a file has a pattern that is not
accepted. -/
theorem exists_steps_eq_error_iff :
    (∃ failure, config.steps files = .error failure) ↔
      ∃ entry ∈ config.present files config.entries, ∃ rule ∈ entry.patterns, ¬ rule.Compiles := by
  have refused_iff : (∃ failure, config.steps files = .error failure) ↔
      ¬ ∃ steps, config.steps files = .ok steps := by
    cases config.steps files <;> simp
  rw [refused_iff, exists_steps_eq_ok_iff]
  simp only [Entry.Compiles, Classical.not_forall, exists_prop]

/-- A run is refused for a pattern exactly if some entry that may have a file has one that is not
accepted.  It is then the first such entry that is named, and its first such pattern, whatever would
have become of the entries before it; no file has changed and nothing was asked for, of the system
or of the formatter. -/
theorem run_refuses_first_pattern (config : Configuration) (files : FileSystem)
    (mishaps : Mishaps) :
    ((∃ path bad, (config.run files mishaps).outcome = .error (.patternInvalid path bad)) ↔
      ∃ entry ∈ config.present files config.entries,
        ∃ rule ∈ entry.patterns, ¬ rule.Compiles) ∧
    ∀ path bad,
      ((config.run files mishaps).outcome = .error (.patternInvalid path bad) ↔
        ∃ before entry after, config.entries = before ++ entry :: after ∧
          (∀ earlier ∈ config.present files before, earlier.Compiles) ∧
          config.isMissing files entry = false ∧
          path = config.resolve entry.file ∧ entry.FirstRefused bad) ∧
      ((config.run files mishaps).outcome = .error (.patternInvalid path bad) ↔
        (config.run files mishaps).Ends files [] (.error (.patternInvalid path bad))) := by
  constructor
  · rw [← exists_steps_eq_error_iff]
    simp only [run_eq_patternInvalid_iff]
    constructor
    · rintro ⟨path, bad, refused⟩
      exact ⟨_, refused⟩
    · rintro ⟨failure, refused⟩
      obtain ⟨-, entry, -, -, -, -, bad, rfl, -⟩ := steps_eq_error_iff.mp refused
      exact ⟨_, bad, refused⟩
  · intro path bad
    rw [run_eq_patternInvalid_iff]
    constructor
    · rw [steps_eq_error_iff]
      constructor
      · rintro ⟨before, entry, after, entries_eq, compile, there, other, same, first⟩
        obtain ⟨rfl, rfl⟩ := Failure.patternInvalid.inj same
        exact ⟨before, entry, after, entries_eq, compile, there, rfl, first⟩
      · rintro ⟨before, entry, after, entries_eq, compile, there, rfl, first⟩
        exact ⟨before, entry, after, entries_eq, compile, there, bad, rfl, first⟩
    · constructor
      · intro refused
        exact run_of_steps_eq_error refused mishaps
      · intro ends
        exact run_eq_patternInvalid_iff.mp ends.outcome_eq

end Configuration

end Emend
