/-
# Runs in another order

Entries that reach different files do not get in each other's way: each of them finds its file as it
was when the run began, so it matters neither in which order nor in which packages they stand.
-/

import Emend.Proofs.Run.Frame
import Mathlib.Data.List.Nodup
import Mathlib.Data.List.Perm.Basic

namespace Emend

namespace FileSystem

variable {files : FileSystem}

theorem setContent_comm {number other : Nat} {content otherContent : Bytes}
    (different : number ≠ other) :
    (files.setContent number content).setContent other otherContent =
      (files.setContent other otherContent).setContent number content := by
  unfold setContent
  congr 1
  funext found
  by_cases first : found = number
  · have second : found ≠ other := fun same => different (first.symm.trans same)
    simp [first, different]
  · simp [first]

/-- Visits of different files leave the same behind in any order. -/
theorem after_of_perm {visits others : List Visit} (perm : others.Perm visits)
    (different : (visits.map Visit.number).Nodup) : files.after others = files.after visits := by
  apply perm.foldl_eq'
  intro first firstMember second secondMember between
  by_cases same : first.number = second.number
  · have equal : first = second :=
      List.inj_on_of_nodup_map different (perm.subset firstMember) (perm.subset secondMember) same
    rw [equal]
  · exact setContent_comm same

end FileSystem

/-- The same visits in another order are listed in another order. -/
theorem Summary.ofVisits_perm {visits others : List Visit} (perm : others.Perm visits)
    (skipped otherSkipped : List Path) :
    (ofVisits others otherSkipped).changed.Perm (ofVisits visits skipped).changed ∧
      (ofVisits others otherSkipped).unchanged.Perm (ofVisits visits skipped).unchanged :=
  ⟨(perm.filter _).map _, (perm.filter _).map _⟩

namespace Configuration

variable {config other : Configuration} {files : FileSystem}

/-! ## Entries that reach different files -/

/-- No two entries reach one file, by whatever paths. -/
def AreIndependent (config : Configuration) (files : FileSystem) (entries : List Entry) : Prop :=
  entries.Pairwise fun first second =>
    ¬ files.SameFile (config.resolve first.file) (config.resolve second.file)

/-- The same entries in another order and in other packages, with the same settings. -/
structure Rearranges (other config : Configuration) : Prop where
  directory_eq : other.directory = config.directory
  formatter_eq : other.formatter = config.formatter
  perm : other.entries.Perm config.entries

theorem Rearranges.symm (rearranges : other.Rearranges config) : config.Rearranges other :=
  ⟨rearranges.directory_eq.symm, rearranges.formatter_eq.symm, rearranges.perm.symm⟩

theorem Rearranges.resolve_eq (rearranges : other.Rearranges config) (file : Path) :
    other.resolve file = config.resolve file := by
  simp only [resolve, rearranges.directory_eq]

theorem Rearranges.isMissing_eq (rearranges : other.Rearranges config) (entry : Entry) :
    other.isMissing files entry = config.isMissing files entry := by
  simp only [isMissing, rearranges.resolve_eq]

theorem Rearranges.areIndependent_iff (rearranges : other.Rearranges config) :
    other.AreIndependent files other.entries ↔ config.AreIndependent files config.entries := by
  unfold AreIndependent
  simp only [rearranges.resolve_eq]
  apply rearranges.perm.pairwise_iff
  intro first second apart same
  exact apart same.symm

theorem Rearranges.present_perm (rearranges : other.Rearranges config) :
    (other.present files other.entries).Perm (config.present files config.entries) := by
  unfold present
  simp only [rearranges.isMissing_eq]
  exact rearranges.perm.filter _

theorem Rearranges.missing_perm (rearranges : other.Rearranges config) :
    (other.missing files other.entries).Perm (config.missing files config.entries) := by
  unfold missing
  simp only [rearranges.isMissing_eq]
  exact rearranges.perm.filter _

theorem Rearranges.isOf_iff (rearranges : other.Rearranges config) {entry : Entry}
    {visit : Visit} : visit.IsOf other files entry ↔ visit.IsOf config files entry := by
  constructor
  · rintro ⟨path_eq, reached, before_eq, substituted_eq, after_eq⟩
    rw [rearranges.resolve_eq] at path_eq
    rw [rearranges.formatter_eq] at after_eq
    exact ⟨path_eq, reached, before_eq, substituted_eq, after_eq⟩
  · rintro ⟨path_eq, reached, before_eq, substituted_eq, after_eq⟩
    rw [← rearranges.resolve_eq] at path_eq
    rw [← rearranges.formatter_eq] at after_eq
    exact ⟨path_eq, reached, before_eq, substituted_eq, after_eq⟩

/-! ## Their visits -/

/-- A visit of another file makes no difference. -/
theorem isOf_visit_iff {entry : Entry} {visit later : Visit}
    (reached : files.Reaches visit.path visit.number)
    (apart : ¬ files.SameFile visit.path (config.resolve entry.file)) :
    later.IsOf config (files.visit visit) entry ↔ later.IsOf config files entry := by
  have contents_eq (laterReached : files.Reaches (config.resolve entry.file) later.number) :
      (files.visit visit).contents later.number = files.contents later.number := by
    apply FileSystem.contents_setContent_of_ne
    intro same
    rw [same] at laterReached
    exact apart ⟨visit.number, reached, laterReached⟩
  constructor
  · rintro ⟨path_eq, laterReached, before_eq, substituted_eq, after_eq⟩
    have reachedBefore : files.Reaches later.path later.number :=
      FileSystem.reaches_setContent.mp laterReached
    rw [contents_eq (path_eq ▸ reachedBefore)] at before_eq
    exact ⟨path_eq, reachedBefore, before_eq, substituted_eq, after_eq⟩
  · rintro ⟨path_eq, laterReached, before_eq, substituted_eq, after_eq⟩
    rw [← contents_eq (path_eq ▸ laterReached)] at before_eq
    exact ⟨path_eq, FileSystem.reaches_setContent.mpr laterReached, before_eq, substituted_eq,
      after_eq⟩

theorem AreIndependent.visit {entries : List Entry} (visit : Visit)
    (independent : config.AreIndependent files entries) :
    config.AreIndependent (files.visit visit) entries :=
  independent.imp fun apart same => apart (FileSystem.sameFile_setContent.mp same)

/-- Independent entries make the visits that each of them would make first. -/
theorem visits_iff_forall₂ {entries : List Entry} {visits : List Visit}
    (independent : config.AreIndependent files entries) :
    config.Visits files entries visits ↔
      List.Forall₂ (fun entry visit => visit.IsOf config files entry) entries visits := by
  induction entries generalizing files visits with
  | nil =>
    constructor
    · rintro ⟨⟩
      exact .nil
    · rintro ⟨⟩
      exact .nil files
  | cons entry entries ih =>
    obtain ⟨apart, others_independent⟩ := List.pairwise_cons.mp independent
    -- The others can be asked before or after the first visit, which is that of another file.
    have others_iff {visit : Visit} (first : visit.IsOf config files entry) (others : List Visit) :
        config.Visits (files.visit visit) entries others ↔
          List.Forall₂ (fun entry visit => visit.IsOf config files entry) entries others := by
      rw [ih (AreIndependent.visit visit others_independent)]
      have each : ∀ later ∈ entries, ∀ laterVisit : Visit,
          laterVisit.IsOf config (files.visit visit) later ↔
            laterVisit.IsOf config files later := by
        intro later member laterVisit
        apply isOf_visit_iff first.reached
        rw [first.path_eq]
        exact apart later member
      rw [List.forall₂_iff_zip, List.forall₂_iff_zip]
      apply and_congr_right
      intro length_eq
      exact forall_congr' fun later => forall_congr' fun laterVisit =>
        forall_congr' fun member => each later (List.of_mem_zip member).1 laterVisit
    constructor
    · rintro ⟨⟩
      rename_i visit others first made
      exact .cons first ((others_iff first others).mp made)
    · rintro ⟨⟩
      rename_i visit others first made
      exact .cons first ((others_iff first others).mpr made)

/-- Independent entries visit different files. -/
theorem nodup_number_of_visits {entries : List Entry} {visits : List Visit}
    (independent : config.AreIndependent files entries)
    (made : config.Visits files entries visits) : (visits.map Visit.number).Nodup := by
  induction made with
  | nil files => exact List.nodup_nil
  | @cons files entry visit entries visits first others ih =>
    obtain ⟨apart, others_independent⟩ := List.pairwise_cons.mp independent
    rw [List.map_cons, List.nodup_cons]
    refine ⟨?_, ih (AreIndependent.visit visit others_independent)⟩
    intro member
    obtain ⟨later, laterMember, same⟩ := List.mem_map.mp member
    obtain ⟨of, ofMember, reached⟩ := reaches_of_visits others later laterMember
    rw [same] at reached
    have firstReached := first.reached
    rw [first.path_eq] at firstReached
    exact apart of ofMember
      ⟨visit.number, firstReached, FileSystem.reaches_setContent.mp reached⟩

/-- Independent entries make the same visits in any order. -/
theorem exists_visits_of_rearranged (rearranges : other.Rearranges config)
    (independent : config.AreIndependent files config.entries) {visits : List Visit}
    (made : config.Visits files (config.present files config.entries) visits) :
    ∃ others, other.Visits files (other.present files other.entries) others ∧
      others.Perm visits := by
  have otherIndependent := rearranges.areIndependent_iff.mpr independent
  have separately := (visits_iff_forall₂ (independent.filter _)).mp made
  obtain ⟨others, otherwise, perm⟩ := List.perm_comp_forall₂ rearranges.present_perm separately
  refine ⟨others, (visits_iff_forall₂ (otherIndependent.filter _)).mpr ?_, perm⟩
  exact otherwise.imp fun entry visit visit_of => rearranges.isOf_iff.mpr visit_of

/-! ## Their runs -/

/-- A rearranged run succeeds if the first one does, with the same files and, up to their order, the
same lists. -/
theorem exists_summary_of_rearranged (rearranges : other.Rearranges config)
    (independent : config.AreIndependent files config.entries) {summary : Summary}
    (succeeded : (config.run files).outcome = .ok summary) :
    ∃ again : Summary, (other.run files).outcome = .ok again ∧
      (other.run files).files = (config.run files).files ∧
      again.changed.Perm summary.changed ∧ again.unchanged.Perm summary.unchanged ∧
      again.skipped.Perm summary.skipped := by
  obtain ⟨visits, made, spare⟩ := exists_visits_of_run_eq_ok succeeded
  obtain ⟨others, otherMade, perm⟩ := exists_visits_of_rearranged rearranges independent made
  have ends := run_of_visits made spare
  have otherEnds := run_of_visits otherMade (Mishaps.none_spare _)
  rw [ends.outcome_eq, Except.ok.injEq] at succeeded
  subst succeeded
  have different := nodup_number_of_visits (independent.filter _) made
  have lists := Summary.ofVisits_perm perm
    (config.pathsOf (config.missing files config.entries))
    (other.pathsOf (other.missing files other.entries))
  refine ⟨_, otherEnds.outcome_eq, ?_, lists.1, lists.2, ?_⟩
  · rw [ends.files_eq, otherEnds.files_eq]
    exact FileSystem.after_of_perm perm different
  · change (other.pathsOf _).Perm (config.pathsOf _)
    unfold pathsOf
    simp only [rearranges.resolve_eq]
    exact rearranges.missing_perm.map _

/-- If no two entries reach one file, it does not matter in which order and in which packages they
stand: the run succeeds or it does not, and when it does the files are the same in the end, and so
are, up to their order, the lists of files that changed, that did not and that were missing. -/
theorem run_of_rearranged (rearranges : other.Rearranges config)
    (independent : config.AreIndependent files config.entries) :
    ((∃ again, (other.run files).outcome = .ok again) ↔
      ∃ summary, (config.run files).outcome = .ok summary) ∧
    ∀ summary again : Summary, (config.run files).outcome = .ok summary →
      (other.run files).outcome = .ok again →
      (other.run files).files = (config.run files).files ∧
        again.changed.Perm summary.changed ∧ again.unchanged.Perm summary.unchanged ∧
        again.skipped.Perm summary.skipped := by
  constructor
  · constructor
    · rintro ⟨again, succeeded⟩
      obtain ⟨summary, first, -⟩ := exists_summary_of_rearranged rearranges.symm
        (rearranges.areIndependent_iff.mpr independent) succeeded
      exact ⟨summary, first⟩
    · rintro ⟨summary, succeeded⟩
      obtain ⟨again, second, -⟩ := exists_summary_of_rearranged rearranges independent succeeded
      exact ⟨again, second⟩
  · intro summary again succeeded succeededAgain
    obtain ⟨found, second, same⟩ := exists_summary_of_rearranged rearranges independent succeeded
    rw [second, Except.ok.injEq] at succeededAgain
    subst succeededAgain
    exact same

/-- Three entries, one of them without a file and one behind a link, change places and packages. -/
theorem run_of_rearranged_packages :
    let files : FileSystem :=
      { nodes := [(["a"], .file 0), (["b"], .link "a"), (["c"], .file 1)]
        contents := fun number => Bytes.ofText (if number = 0 then "foo" else "bar")
        here := [] }
    let linked : Entry := { file := "b", literals := [⟨"foo", "longer"⟩] }
    let plain : Entry := { file := "c", literals := [⟨"bar", ""⟩] }
    let config : Configuration := { packages := [⟨[{ file := "gone" }, linked]⟩, ⟨[plain]⟩] }
    let other : Configuration := { packages := [⟨[plain, linked, { file := "gone" }]⟩] }
    (config.run files).outcome = .ok { changed := ["b", "c"], skipped := ["gone"] } ∧
      (other.run files).outcome = .ok { changed := ["c", "b"], skipped := ["gone"] } ∧
      (other.run files).files = (config.run files).files := by
  refine ⟨?succeeded, ?succeededAgain,
    ((run_of_rearranged ?rearranges ?independent).2 _ _ ?succeeded ?succeededAgain).1⟩
  case succeeded => rfl
  case succeededAgain => rfl
  case rearranges => exact ⟨rfl, rfl, by decide⟩
  case independent =>
    unfold AreIndependent
    decide +kernel

end Configuration

end Emend
