/-
# The two passes of a run

The first pass decides which files are missing and compiles the rules of all others; a visit changes
neither answer, so what it has decided stays right while the second pass changes contents.  A run
therefore ends in one of three ways: a pattern is refused before anything is asked for, all entries
with a file make their visits, or those before some entry do and this one falters.
-/

import Emend.Proofs.Run.Visit

namespace Emend

/-! ## Missing files -/

namespace Configuration

/-- There is no file for an entry.  Only "not found" says so, not any other trouble. -/
def isMissing (config : Configuration) (files : FileSystem) (entry : Entry) : Bool :=
  match files.exists? (config.resolve entry.file) with
  | .ok false => true
  | _ => false

/-- The entries for which there is no file. -/
def missing (config : Configuration) (files : FileSystem) (entries : List Entry) : List Entry :=
  entries.filter fun entry => config.isMissing files entry

/-- The entries with a file, or with a path that cannot be followed. -/
def present (config : Configuration) (files : FileSystem) (entries : List Entry) : List Entry :=
  entries.filter fun entry => !config.isMissing files entry

/-- The resolved paths of some entries. -/
def pathsOf (config : Configuration) (entries : List Entry) : List Path :=
  entries.map fun entry => config.resolve entry.file

variable {config : Configuration} {files : FileSystem} {entry : Entry}

theorem isMissing_iff :
    config.isMissing files entry = true ↔
      files.exists? (config.resolve entry.file) = .ok false := by
  unfold isMissing
  split <;> simp_all

/-- A visit changes no answer about which files there are. -/
@[simp] theorem isMissing_visit (visit : Visit) :
    config.isMissing (files.visit visit) entry = config.isMissing files entry := by
  simp only [isMissing, FileSystem.visit, FileSystem.exists?_setContent]

@[simp] theorem present_visit (visit : Visit) (entries : List Entry) :
    config.present (files.visit visit) entries = config.present files entries := by
  simp only [present, isMissing_visit]

@[simp] theorem missing_visit (visit : Visit) (entries : List Entry) :
    config.missing (files.visit visit) entries = config.missing files entries := by
  simp only [missing, isMissing_visit]

theorem present_cons_of_missing {entries : List Entry}
    (gone : config.isMissing files entry = true) :
    config.present files (entry :: entries) = config.present files entries := by
  simp [present, gone]

theorem present_cons_of_there {entries : List Entry}
    (there : config.isMissing files entry = false) :
    config.present files (entry :: entries) = entry :: config.present files entries := by
  simp [present, there]

theorem missing_cons_of_missing {entries : List Entry}
    (gone : config.isMissing files entry = true) :
    config.missing files (entry :: entries) = entry :: config.missing files entries := by
  simp [missing, gone]

theorem missing_cons_of_there {entries : List Entry}
    (there : config.isMissing files entry = false) :
    config.missing files (entry :: entries) = config.missing files entries := by
  simp [missing, there]

/-! ## The first pass -/

theorem stepOf_of_missing (gone : config.isMissing files entry = true) :
    config.stepOf files entry = .ok (.skip entry.file (config.resolve entry.file)) := by
  simp only [stepOf, isMissing_iff.mp gone]

theorem stepOf_of_there (there : config.isMissing files entry = false) :
    config.stepOf files entry = (config.planEntry entry).map .emend := by
  simp only [stepOf]
  split
  · rename_i notFound
    rw [isMissing_iff.mpr notFound] at there
    cases there
  · rfl

/-- What the first pass decides stays right after a visit. -/
@[simp] theorem stepOf_visit (visit : Visit) :
    config.stepOf (files.visit visit) = config.stepOf files := by
  funext entry
  cases missing : config.isMissing files entry with
  | true => rw [stepOf_of_missing missing, stepOf_of_missing (by simpa using missing)]
  | false => rw [stepOf_of_there missing, stepOf_of_there (by simpa using missing)]

/-- The plan of an entry fails as its first pattern does that is refused. -/
theorem planEntry_eq_error_iff {failure : Failure} :
    config.planEntry entry = .error failure ↔
      ∃ bad, failure = .patternInvalid (config.resolve entry.file) bad ∧
        entry.FirstRefused bad := by
  rw [← Entry.compile_eq_error_iff]
  cases compiled : entry.compile (config.resolve entry.file) <;>
    simp [planEntry, compiled, bind, Except.bind, pure, Except.pure]

theorem exists_planEntry_eq_ok_iff :
    (∃ planned, config.planEntry entry = .ok planned) ↔ entry.Compiles := by
  rw [← Entry.exists_compile_eq_ok_iff]
  cases compiled : entry.compile (config.resolve entry.file) <;>
    simp [planEntry, compiled, bind, Except.bind, pure, Except.pure]

/-- The first pass refuses an entry exactly if there may be a file and a pattern is refused. -/
theorem stepOf_eq_error_iff {failure : Failure} :
    config.stepOf files entry = .error failure ↔
      config.isMissing files entry = false ∧
        ∃ bad, failure = .patternInvalid (config.resolve entry.file) bad ∧
          entry.FirstRefused bad := by
  rw [← planEntry_eq_error_iff]
  cases missing : config.isMissing files entry with
  | true => simp [stepOf_of_missing missing]
  | false =>
    rw [stepOf_of_there missing]
    cases config.planEntry entry <;> simp [Except.map]

theorem exists_stepOf_eq_ok_iff :
    (∃ step, config.stepOf files entry = .ok step) ↔
      (config.isMissing files entry = false → entry.Compiles) := by
  rw [← exists_planEntry_eq_ok_iff]
  cases missing : config.isMissing files entry with
  | true => simp [stepOf_of_missing missing]
  | false =>
    rw [stepOf_of_there missing]
    cases config.planEntry entry <;> simp [Except.map]

/-- The first pass succeeds exactly if every entry with a file compiles. -/
theorem exists_steps_eq_ok_iff :
    (∃ steps, config.steps files = .ok steps) ↔
      ∀ entry ∈ config.present files config.entries, entry.Compiles := by
  unfold steps
  rw [Traversal.exists_mapM_eq_ok_iff]
  simp only [exists_stepOf_eq_ok_iff, present, List.mem_filter, Bool.not_eq_true', and_imp]

end Configuration

/-! ## The second pass -/

namespace Mishaps

/-- Nothing is refused of the work on the first so many files. -/
def Spare (mishaps : Mishaps) (count : Nat) : Prop := ∀ n < count, mishaps n = {}

theorem none_spare (count : Nat) : none.Spare count := fun _ _ => rfl

variable {mishaps : Mishaps}

theorem spare_succ_iff {count : Nat} :
    mishaps.Spare (count + 1) ↔ mishaps 0 = {} ∧ (mishaps.after 1).Spare count := by
  constructor
  · intro spare
    exact ⟨spare 0 (by omega), fun n small => spare (1 + n) (by omega)⟩
  · rintro ⟨first, others⟩ n small
    cases n with
    | zero => exact first
    | succ n =>
      have later := others n (by omega)
      rwa [after, Nat.add_comm] at later

theorem after_zero : mishaps.after 0 = mishaps := by
  funext n
  rw [after, Nat.zero_add]

theorem after_after (first second : Nat) :
    (mishaps.after first).after second = mishaps.after (first + second) := by
  funext n
  rw [after, after, after, Nat.add_assoc]

end Mishaps

namespace Step

variable {formatter : Option Formatter} {files next final : FileSystem} {step : Step}
  {steps : List Step} {asked others : List Request} {mishaps : Mishaps}

/-- A step that comes to an end is followed by the others, in the files as it leaves them. -/
theorem performAll_cons_of_ok {fate : Fate} {outcome : Except Failure Summary}
    (first : (step.perform formatter files (mishaps 0)).Ends next asked (.ok fate))
    (rest : (performAll formatter next steps (step.mishapsAfter mishaps)).Ends final others
      outcome) :
    (performAll formatter files (step :: steps) mishaps).Ends final (asked ++ others)
      (outcome.map (Summary.record step.path fate)) := by
  obtain ⟨rfl, rfl, first_eq⟩ := first
  obtain ⟨rfl, rfl, rfl⟩ := rest
  simp only [performAll, first_eq]
  exact ⟨rfl, rfl, rfl⟩

/-- Nothing follows a step that fails. -/
theorem performAll_cons_of_error {failure : Failure}
    (first : (step.perform formatter files (mishaps 0)).Ends next asked (.error failure)) :
    (performAll formatter files (step :: steps) mishaps).Ends next asked (.error failure) := by
  obtain ⟨rfl, rfl, first_eq⟩ := first
  simp only [performAll, first_eq]
  exact ⟨rfl, rfl, rfl⟩

end Step

/-- The summary of some visits and of files that are not there. -/
def Summary.ofVisits (visits : List Visit) (skipped : List Path) : Summary where
  changed := (visits.filter fun visit => visit.after ≠ visit.before).map Visit.path
  unchanged := (visits.filter fun visit => visit.after = visit.before).map Visit.path
  skipped

/-- A summary of some files and then of others. -/
def Summary.append (first second : Summary) : Summary where
  changed := first.changed ++ second.changed
  unchanged := first.unchanged ++ second.unchanged
  skipped := first.skipped ++ second.skipped

namespace Summary

theorem append_empty (summary : Summary) : summary.append {} = summary := by
  simp [append]

theorem record_skipped (path : Path) (visits : List Visit) (skipped : List Path)
    (summary : Summary) :
    record path .skipped ((ofVisits visits skipped).append summary) =
      (ofVisits visits (path :: skipped)).append summary := rfl

theorem record_fate (visit : Visit) (visits : List Visit) (skipped : List Path)
    (summary : Summary) :
    record visit.path visit.fate ((ofVisits visits skipped).append summary) =
      (ofVisits (visit :: visits) skipped).append summary := by
  by_cases unchanged : visit.after = visit.before <;>
    simp [Visit.fate, record, ofVisits, append, unchanged]

end Summary

namespace Configuration

variable {config : Configuration} {files : FileSystem} {entry : Entry} {step : Step}

theorem perform_of_missing (gone : config.isMissing files entry = true)
    (decided : config.stepOf files entry = .ok step) (mishap : Mishap) (mishaps : Mishaps) :
    step.path = config.resolve entry.file ∧ step.mishapsAfter mishaps = mishaps ∧
      (step.perform config.formatter files mishap).Ends files [] (.ok .skipped) := by
  rw [stepOf_of_missing gone, Except.ok.injEq] at decided
  subst decided
  exact ⟨rfl, rfl, rfl, rfl, rfl⟩

/-- What is decided for an entry with a file is to emend it as it is planned. -/
theorem exists_planned_of_there (there : config.isMissing files entry = false)
    (decided : config.stepOf files entry = .ok step) :
    ∃ planned, config.planEntry entry = .ok planned ∧ step = .emend planned := by
  rw [stepOf_of_there there] at decided
  cases planned_eq : config.planEntry entry with
  | error failure => simp [planned_eq, Except.map] at decided
  | ok planned =>
    simp only [planned_eq, Except.map, Except.ok.injEq] at decided
    exact ⟨planned, rfl, decided.symm⟩

theorem perform_of_visit (there : config.isMissing files entry = false)
    (decided : config.stepOf files entry = .ok step) {visit : Visit}
    (visit_of : visit.IsOf config files entry) (mishaps : Mishaps) :
    step.path = visit.path ∧ step.mishapsAfter mishaps = mishaps.after 1 ∧
      (step.perform config.formatter files).Ends (files.visit visit)
        (visit.requests config.formatter) (.ok visit.fate) := by
  obtain ⟨planned, planned_eq, rfl⟩ := exists_planned_of_there there decided
  have path_eq := (of_planEntry_eq_ok planned_eq).1
  exact ⟨path_eq.trans visit_of.path_eq.symm, rfl, emend_of_visit planned_eq visit_of⟩

theorem perform_of_falters (there : config.isMissing files entry = false)
    (decided : config.stepOf files entry = .ok step) {mishap : Mishap} {failure : Failure}
    {requests : List Request} {left : FileSystem}
    (falters : config.Falters mishap files entry failure requests left) :
    (step.perform config.formatter files mishap).Ends left requests (.error failure) := by
  obtain ⟨planned, planned_eq, rfl⟩ := exists_planned_of_there there decided
  exact emend_of_falters planned_eq falters

/-- When the first entries have made their visits the others go on in the files as these leave them,
with what was decided at the start. -/
theorem performAll_append {before rest : List Entry} {steps : List Step} {visits : List Visit}
    {mishaps : Mishaps} (decided : (before ++ rest).mapM (config.stepOf files) = .ok steps)
    (made : config.Visits files (config.present files before) visits)
    (spare : mishaps.Spare visits.length) :
    ∃ others, rest.mapM (config.stepOf (files.after visits)) = .ok others ∧
      ∀ {final : FileSystem} {asked : List Request} {outcome : Except Failure Summary},
        (Step.performAll config.formatter (files.after visits) others
          (mishaps.after visits.length)).Ends final asked outcome →
        (Step.performAll config.formatter files steps mishaps).Ends final
          (visits.flatMap (Visit.requests config.formatter) ++ asked)
          (outcome.map
            (Summary.ofVisits visits (config.pathsOf (config.missing files before))).append) := by
  induction before generalizing files steps visits mishaps with
  | nil =>
    cases made
    refine ⟨steps, decided, fun {final asked outcome} ends => ?_⟩
    have same : outcome.map (Summary.ofVisits [] []).append = outcome := by
      cases outcome <;> rfl
    rw [show config.missing files [] = [] from rfl, show config.pathsOf [] = [] from rfl, same]
    rw [List.length_nil, Mishaps.after_zero] at ends
    exact ends
  | cons entry before ih =>
    obtain ⟨step, later, first, remaining, rfl⟩ := Traversal.mapM_cons_eq_ok_iff.mp decided
    cases missing : config.isMissing files entry with
    | true =>
      obtain ⟨path_eq, after_eq, performed⟩ :=
        perform_of_missing missing first (mishaps 0) mishaps
      rw [present_cons_of_missing missing] at made
      obtain ⟨others, decided_others, continues⟩ := ih remaining made spare
      refine ⟨others, decided_others, fun {final asked outcome} ends => ?_⟩
      have rest := continues ends
      rw [← after_eq] at rest
      have whole := Step.performAll_cons_of_ok performed rest
      rw [missing_cons_of_missing missing]
      cases outcome with
      | error failure => exact whole
      | ok summary => simpa [path_eq, Except.map, Summary.record_skipped, pathsOf] using whole
    | false =>
      rw [present_cons_of_there missing] at made
      obtain _ | @⟨_, _, visit, _, visits, visit_of, made⟩ := made
      obtain ⟨harmless, spare⟩ := Mishaps.spare_succ_iff.mp spare
      obtain ⟨path_eq, after_eq, performed⟩ := perform_of_visit missing first visit_of mishaps
      -- What was decided at the start is what would be decided now, after the visit.
      rw [← stepOf_visit visit] at remaining
      rw [← present_visit visit] at made
      obtain ⟨others, decided_others, continues⟩ := ih remaining made spare
      refine ⟨others, decided_others, fun {final asked outcome} ends => ?_⟩
      rw [List.length_cons, Nat.add_comm, ← Mishaps.after_after] at ends
      have rest := continues ends
      rw [← after_eq] at rest
      rw [← harmless] at performed
      have whole := Step.performAll_cons_of_ok performed rest
      rw [missing_cons_of_there missing, List.flatMap_cons, List.append_assoc]
      cases outcome with
      | error failure => exact whole
      | ok summary => simpa [path_eq, Except.map, Summary.record_fate] using whole

end Configuration

end Emend
