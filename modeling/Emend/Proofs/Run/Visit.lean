/-
# Visits

A visit is what one entry does to the file that its path reaches: it takes what the file holds at
that moment through the substitutions and the formatter and leaves the result in the file.  Visits
say nothing of plans and handles; here the work on an opened file is shown to be a visit, or else to
falter in one of four ways, of which only the last can leave a trace in the file.
-/

import Emend.Proofs.FileSystem
import Emend.Proofs.Rule
import Emend.Run

namespace Emend

/-- What an entry does to the file that its path reaches. -/
structure Visit where
  path : Path
  /-- The number of the file. -/
  number : Nat
  /-- What the file holds when it is reached. -/
  before : Bytes
  /-- What the substitutions make of that. -/
  substituted : Bytes
  /-- What the formatter makes of that; the file holds it from then on. -/
  after : Bytes
  deriving Repr, DecidableEq

/-- A visit is the one that an entry makes in the files as they are. -/
structure Visit.IsOf (config : Configuration) (files : FileSystem) (entry : Entry)
    (visit : Visit) : Prop where
  path_eq : visit.path = config.resolve entry.file
  reached : ∃ place, files.resolve visit.path = .ok (.node place (.file visit.number))
  before_eq : visit.before = files.contents visit.number
  substituted_eq : entry.substituted? visit.before = some visit.substituted
  after_eq : Formatter.finish config.formatter visit.substituted = .ok visit.after

namespace Visit

/-- What became of the file. -/
def fate (visit : Visit) : Fate := if visit.after = visit.before then .unchanged else .changed

/-- What is asked for in the course of a visit. -/
def requests (formatter : Option Formatter) (visit : Visit) : List Request :=
  .opened visit.path :: .read (.file visit.number) ::
    (Request.toFormatter formatter visit.substituted
      ++ [.replaced (.file visit.number) visit.after])

end Visit

/-- The files after a visit. -/
def FileSystem.visit (files : FileSystem) (visit : Visit) : FileSystem :=
  files.setContent visit.number visit.after

/-- The files after several visits. -/
def FileSystem.after (files : FileSystem) (visits : List Visit) : FileSystem :=
  visits.foldl FileSystem.visit files

/-- `Visits config files entries visits`: the entries make the visits one after the other, each in
the files as the ones before have left them. -/
inductive Configuration.Visits (config : Configuration) :
    FileSystem → List Entry → List Visit → Prop
  | nil (files : FileSystem) : config.Visits files [] []
  | cons {files : FileSystem} {entry : Entry} {visit : Visit} {entries : List Entry}
      {visits : List Visit} (first : visit.IsOf config files entry)
      (others : config.Visits (files.visit visit) entries visits) :
      config.Visits files (entry :: entries) (visit :: visits)

/-- Why the file of an entry cannot be emended in the files as they are, what is asked for until that
is known, and the files as they are left. -/
inductive Configuration.Falters (config : Configuration) (mishap : Mishap) (files : FileSystem)
    (entry : Entry) : Failure → List Request → FileSystem → Prop
  | notOpened {cause : SystemError}
      (refused : files.openFile (config.resolve entry.file) = .error cause)
      (there : cause ≠ .notFound) :
      config.Falters mishap files entry (.notOpened (config.resolve entry.file) cause)
        [.opened (config.resolve entry.file)] files
  | notRead {handle : FileSystem.Handle} {cause : SystemError}
      (opened : files.openFile (config.resolve entry.file) = .ok handle)
      (refused : files.read handle mishap.reading? = .error cause) :
      config.Falters mishap files entry (.notRead (config.resolve entry.file) cause)
        [.opened (config.resolve entry.file), .read handle] files
  | notFormatted {handle : FileSystem.Handle} {content substituted : Bytes}
      {formatter : Formatter} {cause : Failure}
      (opened : files.openFile (config.resolve entry.file) = .ok handle)
      (read : files.read handle mishap.reading? = .ok content)
      (substituted_eq : entry.substituted? content = some substituted)
      (formatter_eq : config.formatter = some formatter)
      (refused : formatter.format substituted = .error cause) :
      config.Falters mishap files entry (.notFormatted (config.resolve entry.file) cause)
        [.opened (config.resolve entry.file), .read handle, .formatted substituted] files
  | notWritten {handle : FileSystem.Handle} {content substituted output : Bytes}
      {cause : SystemError} {left : FileSystem}
      (opened : files.openFile (config.resolve entry.file) = .ok handle)
      (read : files.read handle mishap.reading? = .ok content)
      (substituted_eq : entry.substituted? content = some substituted)
      (output_eq : Formatter.finish config.formatter substituted = .ok output)
      (refused : files.replace handle output mishap.writing? = (left, .error cause)) :
      config.Falters mishap files entry (.notWritten (config.resolve entry.file) cause)
        (.opened (config.resolve entry.file) :: .read handle ::
          (Request.toFormatter config.formatter substituted ++ [.replaced handle output])) left

/-- The failure is that replacing the content of the file of an entry was refused at some step: the
file holds what the steps before have left, and nothing else has changed. -/
def Configuration.BreaksOff (config : Configuration) (mishap : Mishap) (files : FileSystem)
    (entry : Entry) (failure : Failure) (requests : List Request) (left : FileSystem) : Prop :=
  ∃ number output, ∃ refusal : FileSystem.Refusal,
    files.Reaches (config.resolve entry.file) number ∧
    mishap.writing? = some refusal ∧
    failure = .notWritten (config.resolve entry.file) refusal.cause ∧
    .replaced (.file number) output ∈ requests ∧
    left = files.setContent number (refusal.step.leaves (files.contents number) output)

/-- Some work leaves files behind, has asked for something and has come out in some way. -/
structure Trail.Ends {α : Type} (trail : Trail α) (files : FileSystem) (requests : List Request)
    (outcome : Except Failure α) : Prop where
  files_eq : trail.files = files
  requests_eq : trail.requests = requests
  outcome_eq : trail.outcome = outcome

/-! ## Emending one file -/

theorem RuleSet.emend_eq_finish (rules : RuleSet) (formatter : Option Formatter)
    (content : Bytes) :
    rules.emend formatter content = Formatter.finish formatter (rules.apply content) := by
  cases formatter <;> rfl

namespace Configuration

variable {config : Configuration} {files : FileSystem} {entry : Entry} {planned : PlannedEntry}

/-- A plan of an entry has its resolved path and does to any content what the entry declares. -/
theorem of_planEntry_eq_ok (planned_eq : config.planEntry entry = .ok planned) :
    planned.path = config.resolve entry.file ∧
      ∀ content, entry.substituted? content = some (planned.rules.apply content) := by
  unfold planEntry at planned_eq
  cases compiled : entry.compile (config.resolve entry.file) with
  | error failure => simp [compiled, bind, Except.bind] at planned_eq
  | ok rules =>
    simp only [compiled, bind, Except.bind, pure, Except.pure, Except.ok.injEq] at planned_eq
    subst planned_eq
    exact ⟨rfl, Entry.substituted?_of_compile compiled⟩

/-- An entry that can visit its file does, and that is all it does. -/
theorem emend_of_visit (planned_eq : config.planEntry entry = .ok planned) {visit : Visit}
    (visit_of : visit.IsOf config files entry) :
    (planned.emend config.formatter files).Ends (files.visit visit)
      (visit.requests config.formatter) (.ok visit.fate) := by
  obtain ⟨path_eq, rules_eq⟩ := of_planEntry_eq_ok planned_eq
  obtain ⟨visitPath_eq, reached, before_eq, substituted_eq, after_eq⟩ := visit_of
  have opened : files.openFile planned.path = .ok (.file visit.number) := by
    rw [path_eq, ← visitPath_eq]
    exact FileSystem.openFile_eq_file_iff.mpr reached
  have applied : planned.rules.apply (files.contents visit.number) = visit.substituted := by
    rw [rules_eq, before_eq] at substituted_eq
    exact Option.some.inj substituted_eq
  have emended : planned.rules.emend config.formatter (files.contents visit.number) =
      .ok visit.after := by
    rw [RuleSet.emend_eq_finish, applied, after_eq]
  have same : planned.path = visit.path := path_eq.trans visitPath_eq.symm
  simp only [PlannedEntry.emend, opened, PlannedEntry.emendOpened, FileSystem.read, emended,
    FileSystem.replace_file, applied]
  by_cases unchanged : visit.after = files.contents visit.number
  · rw [if_pos unchanged]
    exact ⟨rfl, by simp [Visit.requests, same], by simp [Visit.fate, before_eq, unchanged]⟩
  · rw [if_neg unchanged]
    exact ⟨rfl, by simp [Visit.requests, same], by simp [Visit.fate, before_eq, unchanged]⟩

/-- An entry that falters leaves the files as it is said to. -/
theorem emend_of_falters (planned_eq : config.planEntry entry = .ok planned) {mishap : Mishap}
    {failure : Failure} {requests : List Request} {left : FileSystem}
    (falters : config.Falters mishap files entry failure requests left) :
    (planned.emend config.formatter files mishap).Ends left requests (.error failure) := by
  obtain ⟨path_eq, rules_eq⟩ := of_planEntry_eq_ok planned_eq
  cases falters with
  | @notOpened cause refused there =>
    unfold PlannedEntry.emend
    rw [path_eq, refused]
    cases cause <;> first | exact absurd rfl there | exact ⟨rfl, rfl, rfl⟩
  | @notRead handle cause opened refused =>
    simp only [PlannedEntry.emend, path_eq, opened, PlannedEntry.emendOpened, refused]
    exact ⟨rfl, rfl, rfl⟩
  | @notFormatted handle content substituted formatter cause opened read substituted_eq
      formatter_eq refused =>
    have applied : planned.rules.apply content = substituted :=
      Option.some.inj ((rules_eq content).symm.trans substituted_eq)
    have emended : planned.rules.emend config.formatter content = .error cause := by
      rw [RuleSet.emend_eq_finish, applied, formatter_eq]
      exact refused
    simp only [PlannedEntry.emend, path_eq, opened, PlannedEntry.emendOpened, read, emended,
      applied]
    exact ⟨rfl, by simp [Request.toFormatter, formatter_eq], rfl⟩
  | @notWritten handle content substituted output cause left opened read substituted_eq output_eq
      refused =>
    have applied : planned.rules.apply content = substituted :=
      Option.some.inj ((rules_eq content).symm.trans substituted_eq)
    have emended : planned.rules.emend config.formatter content = .ok output := by
      rw [RuleSet.emend_eq_finish, applied, output_eq]
    simp only [PlannedEntry.emend, path_eq, opened, PlannedEntry.emendOpened, read, emended,
      refused, applied]
    exact ⟨rfl, rfl, rfl⟩

/-- An entry that falters leaves everything as it is, unless replacing the content of its file breaks
off. -/
theorem left_eq_or_breaksOff {mishap : Mishap} {failure : Failure} {requests : List Request}
    {left : FileSystem} (falters : config.Falters mishap files entry failure requests left) :
    left = files ∨ config.BreaksOff mishap files entry failure requests left := by
  cases falters with
  | @notWritten handle content substituted output cause _ opened read substituted_eq output_eq
      refused =>
    rcases FileSystem.replace_eq_error_cases files _ refused with
      same | ⟨number, refusal, rfl, refusal_eq, rfl, left_eq⟩
    · exact .inl same
    · have reached := FileSystem.openFile_eq_file_iff.mp opened
      exact .inr ⟨number, output, refusal, reached, refusal_eq, rfl, by simp, left_eq⟩
  | _ => exact .inl rfl

end Configuration

end Emend
