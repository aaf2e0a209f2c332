/-
# Plans and runs

A plan compiles the rules of all entries, a run only those of entries that may have a file.  Both
fail at the first entry that they consider and whose patterns are not all accepted, so a plan fails
no later than a run, and a run of a configuration that can be planned takes the steps of the plan.
-/

import Emend.Proofs.Run.Outcome

namespace Emend

/-! ## The steps of a plan -/

/-- What the first pass makes of a planned entry: it is skipped if there is no file. -/
def PlannedEntry.step (files : FileSystem) (planned : PlannedEntry) : Step :=
  match files.exists? planned.path with
  | .ok false => .skip planned.declared planned.path
  | _ => .emend planned

/-- Something went wrong with a file: it could not be opened, read, formatted or written. -/
def Failure.ConcernsFile : Failure → Prop
  | .notOpened _ _ | .notRead _ _ | .notFormatted _ _ | .notWritten _ _ => True
  | _ => False

/-- Some work ends as other work does, apart from what is logged. -/
def Trail.EndsAs {α : Type} (trail other : Trail α) : Prop :=
  trail.Ends other.files other.requests other.outcome

namespace Configuration

variable {config : Configuration} {files : FileSystem}

theorem planEntry_eq_ok_iff {entry : Entry} {planned : PlannedEntry} :
    config.planEntry entry = .ok planned ↔
      ∃ rules, entry.compile (config.resolve entry.file) = .ok rules ∧
        planned = { declared := entry.file, path := config.resolve entry.file, rules } := by
  cases compiled : entry.compile (config.resolve entry.file) <;>
    simp [planEntry, compiled, bind, Except.bind, pure, Except.pure, eq_comm]

/-- The first pass decides about an entry as about its plan. -/
theorem stepOf_of_planEntry {entry : Entry} {planned : PlannedEntry}
    (planned_eq : config.planEntry entry = .ok planned) :
    config.stepOf files entry = .ok (planned.step files) := by
  obtain ⟨rules, -, rfl⟩ := planEntry_eq_ok_iff.mp planned_eq
  simp only [stepOf, PlannedEntry.step, planned_eq, Except.map]
  split <;> simp_all

/-- What can be planned goes through the first pass, whatever files there are. -/
theorem steps_of_plan {planned : List PlannedEntry} (planned_eq : config.plan = .ok planned)
    (files : FileSystem) : config.steps files = .ok (planned.map (PlannedEntry.step files)) :=
  Traversal.mapM_eq_ok_map (fun _ _ => stepOf_of_planEntry) planned_eq

theorem concernsFile_of_falters {entry : Entry} {mishap : Mishap} {failure : Failure}
    {requests : List Request} {left : FileSystem}
    (falters : config.Falters mishap files entry failure requests left) :
    failure.ConcernsFile := by
  cases falters <;> trivial

/-- Once the first pass is through, only a file can make a run fail. -/
theorem concernsFile_of_steps {steps : List Step} {mishaps : Mishaps} {failure : Failure}
    (decided : config.steps files = .ok steps)
    (failed : (config.run files mishaps).outcome = .error failure) : failure.ConcernsFile := by
  rcases run_cases config files mishaps with
    ⟨refusal, refused⟩ | ⟨visits, made, spare⟩ |
      ⟨before, entry, after, visits, cause, requests, left, compiles, entries_eq, stops⟩
  · rw [decided] at refused
    cases refused
  · rw [(run_of_visits made spare).outcome_eq] at failed
    cases failed
  · rw [(run_of_stopsAt compiles entries_eq stops).outcome_eq, Except.error.injEq] at failed
    exact failed ▸ concernsFile_of_falters stops.falters

/-! ## The first refusal -/

/-- Of the entries that are considered, the one at a position is the first whose patterns are not
all accepted, and the failure says which of them is the first to be refused. -/
structure RefusesFirst (config : Configuration) (considered : Entry → Bool) (position : Nat)
    (failure : Failure) : Prop where
  earlier_compile : ∀ earlier ∈ config.entries.take position,
    considered earlier = true → earlier.Compiles
  refused : ∃ entry bad, config.entries[position]? = some entry ∧ considered entry = true ∧
    entry.FirstRefused bad ∧ failure = .patternInvalid (config.resolve entry.file) bad

theorem exists_refusesFirst_iff {considered : Entry → Bool} {failure : Failure} :
    (∃ position, config.RefusesFirst considered position failure) ↔
      ∃ before entry after, config.entries = before ++ entry :: after ∧
        (∀ earlier ∈ before, considered earlier = true → earlier.Compiles) ∧
        considered entry = true ∧
        ∃ bad, failure = .patternInvalid (config.resolve entry.file) bad ∧
          entry.FirstRefused bad := by
  constructor
  · rintro ⟨position, compile, entry, bad, entry_eq, counts, first, failure_eq⟩
    obtain ⟨inside, rfl⟩ := List.getElem?_eq_some_iff.mp entry_eq
    refine ⟨_, _, config.entries.drop (position + 1), ?_, compile, counts, bad, failure_eq, first⟩
    rw [← List.drop_eq_getElem_cons inside, List.take_append_drop]
  · rintro ⟨before, entry, after, entries_eq, compile, counts, bad, failure_eq, first⟩
    refine ⟨before.length, ?_, entry, bad, ?_, counts, first, failure_eq⟩
    · simpa [entries_eq] using compile
    · simp [entries_eq]

theorem steps_eq_error_iff_refusesFirst {failure : Failure} :
    config.steps files = .error failure ↔
      ∃ position,
        config.RefusesFirst (fun entry => !config.isMissing files entry) position failure := by
  rw [steps_eq_error_iff, exists_refusesFirst_iff]
  simp only [present, List.mem_filter, and_imp, Bool.not_eq_true']

/-- A plan considers all entries. -/
theorem plan_eq_error_iff {failure : Failure} :
    config.plan = .error failure ↔
      ∃ position, config.RefusesFirst (fun _ => true) position failure := by
  rw [exists_refusesFirst_iff]
  simp only [plan, Traversal.mapM_eq_error_iff, Traversal.FailsFirst, exists_planEntry_eq_ok_iff,
    planEntry_eq_error_iff, forall_const, true_and]

/-- A plan succeeds exactly if every entry compiles. -/
theorem exists_plan_eq_ok_iff :
    (∃ planned, config.plan = .ok planned) ↔ ∀ entry ∈ config.entries, entry.Compiles := by
  simp only [plan, Traversal.exists_mapM_eq_ok_iff, exists_planEntry_eq_ok_iff]

/-- An entry that is refused when some are considered has a plan refuse it or an earlier one. -/
theorem RefusesFirst.exists_plan_eq_error {considered : Entry → Bool} {position : Nat}
    {failure : Failure} (refuses : config.RefusesFirst considered position failure) :
    ∃ earliest ≤ position, ∃ earliestFailure, config.plan = .error earliestFailure ∧
      config.RefusesFirst (fun _ => true) earliest earliestFailure := by
  obtain ⟨-, entry, bad, entry_eq, -, first, -⟩ := refuses
  have uncompilable : ¬ entry.Compiles := first.not_compiles
  cases planned_eq : config.plan with
  | ok planned =>
    have compile := exists_plan_eq_ok_iff.mp ⟨planned, planned_eq⟩
    exact absurd (compile entry (List.mem_of_getElem? entry_eq)) uncompilable
  | error earliestFailure =>
    obtain ⟨earliest, earliest_refuses⟩ := plan_eq_error_iff.mp planned_eq
    refine ⟨earliest, Nat.le_of_not_lt fun sooner => ?_, earliestFailure, rfl, earliest_refuses⟩
    obtain ⟨inside, rfl⟩ := List.getElem?_eq_some_iff.mp entry_eq
    have taken : config.entries[position] ∈ config.entries.take earliest :=
      List.mem_take_iff_getElem.mpr ⟨position, Nat.lt_min.mpr ⟨sooner, inside⟩, rfl⟩
    exact uncompilable (earliest_refuses.earlier_compile _ taken rfl)

/-- Where no file is missing, a run considers all entries as a plan does. -/
theorem plan_eq_error_iff_run {mishaps : Mishaps} {path : Path} {bad : BadPattern}
    (there : ∀ entry ∈ config.entries, config.isMissing files entry = false) :
    config.plan = .error (.patternInvalid path bad) ↔
      (config.run files mishaps).outcome = .error (.patternInvalid path bad) := by
  have same : ∀ entry ∈ config.entries,
      config.stepOf files entry = (config.planEntry entry).map .emend :=
    fun entry member => stepOf_of_there (there entry member)
  rw [run_eq_patternInvalid_iff, steps, Traversal.mapM_congr same, Traversal.mapM_map_result, plan]
  cases config.entries.mapM config.planEntry <;> simp [Except.map]

/-! ## What a plan says about runs -/

/-- A plan foretells the runs of its configuration. -/
structure PlanForetells (config : Configuration) : Prop where
  /-- A run of what can be planned takes the planned steps in any files, where nothing but trouble
  with a file stops it. -/
  planned_run : ∀ planned, config.plan = .ok planned → ∀ files mishaps,
    config.steps files = .ok (planned.map (PlannedEntry.step files)) ∧
    (config.run files mishaps).EndsAs
      (Step.performAll config.formatter files (planned.map (PlannedEntry.step files)) mishaps) ∧
    ∀ failure, (config.run files mishaps).outcome = .error failure → failure.ConcernsFile
  /-- What a run refuses, the plan refuses too, at the same entry or at an earlier one. -/
  refused_run : ∀ files mishaps path bad,
    (config.run files mishaps).outcome = .error (.patternInvalid path bad) →
    ∃ position, config.RefusesFirst (fun entry => !config.isMissing files entry) position
        (.patternInvalid path bad) ∧
      ∃ earliest ≤ position, ∃ path bad, config.plan = .error (.patternInvalid path bad) ∧
        config.RefusesFirst (fun _ => true) earliest (.patternInvalid path bad)
  /-- Where no file is missing, the plan and the run refuse the same pattern. -/
  same_refusal : ∀ files mishaps,
    (∀ entry ∈ config.entries, config.isMissing files entry = false) →
    ∀ path bad, config.plan = .error (.patternInvalid path bad) ↔
      (config.run files mishaps).outcome = .error (.patternInvalid path bad)

theorem planForetells (config : Configuration) : config.PlanForetells where
  planned_run planned planned_eq files mishaps := by
    have decided := steps_of_plan planned_eq files
    have ended := @run_of_performAll config files _ mishaps _ _ _ decided ⟨rfl, rfl, rfl⟩
    exact ⟨decided, ended, fun failure => concernsFile_of_steps decided⟩
  refused_run files mishaps path bad refused := by
    obtain ⟨position, refuses⟩ :=
      steps_eq_error_iff_refusesFirst.mp (run_eq_patternInvalid_iff.mp refused)
    obtain ⟨earliest, sooner, failure, planned, earliest_refuses⟩ := refuses.exists_plan_eq_error
    obtain ⟨entry, earliestBad, -, -, -, rfl⟩ := earliest_refuses.refused
    exact ⟨position, refuses, earliest, sooner, _, _, planned, earliest_refuses⟩
  same_refusal _ _ there _ _ := plan_eq_error_iff_run there

end Configuration

end Emend
