/-
# What a run leaves alone, and what it depends on

A run puts contents into files that are there already.  It makes and removes no name, follows links
without replacing them, and keeps the content of every file that no entry reaches.  What it does to
the files that are reached depends on nothing but what looking up the paths of the entries comes to
and on which of these paths lead to one file: two file systems that are alike in this respect may
differ in everything else, and a run cannot tell them apart.
-/

import Emend.Proofs.Run.Outcome

namespace Emend

/-! ## Looking paths up -/

namespace FileSystem

/-- What looking a path up comes to. -/
inductive Finding where
  | missing
  /-- The path cannot be followed. -/
  | refused (cause : SystemError)
  | directory
  | device (device : Device)
  | file (content : Bytes)
  deriving Repr, DecidableEq

/-- Look a path up, and what the file holds that it leads to. -/
def lookUp (files : FileSystem) (path : Path) : Finding :=
  match files.resolve path with
  | .ok (.node _ (.file number)) => .file (files.contents number)
  | .ok (.node _ (.device device)) => .device device
  | .ok (.node _ _) => .directory
  | .ok (.vacant _) => .missing
  | .error .notFound => .missing
  | .error cause => .refused cause

/-- What opening makes of a finding: a device, a file, or a refusal. -/
def Finding.opened : Finding → Except SystemError (Option Device)
  | missing => .error .notFound
  | refused cause => .error cause
  | directory => .error .isADirectory
  | device (.closed cause _) => .error cause
  | device found => .ok (some found)
  | file _ => .ok none

/-- The device that a handle gives access to. -/
def Handle.device? : Handle → Option Device
  | file _ => none
  | device found => some found

variable {files other : FileSystem} {path : Path}

theorem exists?_eq_false_iff : files.exists? path = .ok false ↔ files.lookUp path = .missing := by
  unfold exists? lookUp
  split <;> simp_all
  split <;> simp_all

theorem lookUp_eq_file_iff {content : Bytes} :
    files.lookUp path = .file content ↔
      ∃ number, files.Reaches path number ∧ files.contents number = content := by
  unfold lookUp Reaches
  split <;> simp_all

theorem lookUp_of_reaches {number : Nat} (reached : files.Reaches path number) :
    files.lookUp path = .file (files.contents number) :=
  lookUp_eq_file_iff.mpr ⟨number, reached, rfl⟩

theorem map_openFile (files : FileSystem) (path : Path) :
    (files.openFile path).map Handle.device? = (files.lookUp path).opened := by
  unfold openFile lookUp
  cases files.resolve path with
  | error cause => cases cause <;> rfl
  | ok target =>
    cases target with
    | vacant place => rfl
    | node place node =>
      cases node with
      | device device => cases device <;> rfl
      | _ => rfl

/-- Where the same is found, the same is refused. -/
theorem openFile_eq_error_of_lookUp_eq {cause : SystemError}
    (same : other.lookUp path = files.lookUp path) (refused : files.openFile path = .error cause) :
    other.openFile path = .error cause := by
  have found := map_openFile files path
  rw [refused, ← same, ← map_openFile] at found
  cases opened : other.openFile path with
  | error otherCause => simpa [opened, Except.map] using found.symm
  | ok handle => simp [opened, Except.map] at found

/-! ## Files that look alike -/

/-- Some paths are found alike in two file systems, and the same of them lead to one file. -/
structure AlikeAt (files other : FileSystem) (paths : List Path) : Prop where
  lookUp_eq : ∀ path ∈ paths, other.lookUp path = files.lookUp path
  sameFile_iff : ∀ path ∈ paths, ∀ second ∈ paths,
    other.SameFile path second ↔ files.SameFile path second

variable {paths : List Path}

theorem lookUp_setContent_of_reaches {number : Nat} {content : Bytes}
    (reached : files.Reaches path number) :
    (files.setContent number content).lookUp path = .file content := by
  rw [lookUp_of_reaches (reaches_setContent.mpr reached), contents_setContent_self]

theorem lookUp_setContent_of_not_reaches {number : Nat} {content : Bytes}
    (elsewhere : ¬ files.Reaches path number) :
    (files.setContent number content).lookUp path = files.lookUp path := by
  unfold lookUp
  rw [resolve_setContent]
  cases resolved : files.resolve path with
  | error cause => cases cause <;> rfl
  | ok target =>
    cases target with
    | vacant place => rfl
    | node place node =>
      cases node with
      | file found =>
        have different : found ≠ number := by
          rintro rfl
          exact elsewhere ⟨place, resolved⟩
        simp only [contents_setContent_of_ne files number content different]
      | _ => rfl

/-- Files stay alike when a file that both have at a path gets one content in both. -/
theorem AlikeAt.setContent (alike : files.AlikeAt other paths) (known : path ∈ paths)
    {number twin : Nat} {content : Bytes} (reached : files.Reaches path number)
    (twinReached : other.Reaches path twin) :
    (files.setContent number content).AlikeAt (other.setContent twin content) paths := by
  constructor
  · intro second member
    have shared_iff : other.Reaches second twin ↔ files.Reaches second number := by
      rw [← twinReached.sameFile_iff, alike.sameFile_iff path known second member,
        reached.sameFile_iff]
    by_cases shared : files.Reaches second number
    · rw [lookUp_setContent_of_reaches shared,
        lookUp_setContent_of_reaches (shared_iff.mpr shared)]
    · rw [lookUp_setContent_of_not_reaches shared,
        lookUp_setContent_of_not_reaches (mt shared_iff.mp shared), alike.lookUp_eq second member]
  · intro first firstMember second secondMember
    rw [sameFile_setContent, sameFile_setContent]
    exact alike.sameFile_iff first firstMember second secondMember

/-- What is opened at a path where two file systems are alike reads the same in both, and the same
steps of replacing its content are refused, which leave the two alike. -/
theorem AlikeAt.exists_openFile (alike : files.AlikeAt other paths) (known : path ∈ paths)
    {handle : Handle} (opened : files.openFile path = .ok handle) :
    ∃ twin, other.openFile path = .ok twin ∧
      (∀ refusal?, other.read twin refusal? = files.read handle refusal?) ∧
      ∀ {output : Bytes} {refusal? : Option Refusal} {left : FileSystem} {cause : SystemError},
        files.replace handle output refusal? = (left, .error cause) →
        ∃ twinLeft, other.replace twin output refusal? = (twinLeft, .error cause) ∧
          left.AlikeAt twinLeft paths := by
  have same := alike.lookUp_eq path known
  cases handle with
  | file number =>
    have reached := openFile_eq_file_iff.mp opened
    have found := lookUp_of_reaches reached
    rw [← same, lookUp_eq_file_iff] at found
    obtain ⟨twin, twinReached, content_eq⟩ := found
    refine ⟨.file twin, openFile_eq_file_iff.mpr twinReached, ?_, ?_⟩
    · intro refusal?
      cases refusal? with
      | none => exact congrArg Except.ok content_eq
      | some cause => rfl
    · intro output refusal? left cause refused
      cases refusal? with
      | none =>
        rw [replace_file] at refused
        cases refused
      | some refusal =>
        cases refused
        refine ⟨_, rfl, ?_⟩
        rw [content_eq]
        exact alike.setContent known reached twinReached
  | device device =>
    have found := map_openFile files path
    rw [opened, ← same, ← map_openFile] at found
    cases otherOpened : other.openFile path with
    | error cause => simp [otherOpened, Except.map] at found
    | ok twin =>
      cases twin with
      | file number => simp [otherOpened, Except.map, Handle.device?] at found
      | device otherDevice =>
        simp only [otherOpened, Except.map, Handle.device?, Except.ok.injEq,
          Option.some.injEq] at found
        subst found
        refine ⟨_, rfl, ?_, ?_⟩
        · intro refusal?
          cases refusal? <;> cases device <;> rfl
        · intro output refusal? left cause refused
          refine ⟨other, ?_, ?_⟩
          · cases refusal? <;> cases device <;> cases refused <;> rfl
          · obtain ⟨_, onDevice⟩ := exists_replace_device_eq_error files output device refusal?
            rw [onDevice] at refused
            cases refused
            exact alike

end FileSystem

/-- What a visit did, but not the number of its file. -/
def Visit.unnumbered (visit : Visit) : Visit := { visit with number := 0 }

theorem Summary.ofVisits_unnumbered (visits : List Visit) (skipped : List Path) :
    ofVisits (visits.map Visit.unnumbered) skipped = ofVisits visits skipped := by
  simp only [ofVisits, List.filter_map, List.map_map]
  rfl

namespace Configuration

variable {config : Configuration} {files other : FileSystem} {paths : List Path}

theorem isMissing_of_alike (alike : files.AlikeAt other paths) {entry : Entry}
    (known : config.resolve entry.file ∈ paths) :
    config.isMissing other entry = config.isMissing files entry := by
  rw [Bool.eq_iff_iff, isMissing_iff, isMissing_iff, FileSystem.exists?_eq_false_iff,
    FileSystem.exists?_eq_false_iff, alike.lookUp_eq _ known]

/-- What an entry can do to its file in one of two alike file systems it can do in the other, and
the two are alike afterwards. -/
theorem exists_visit_of_alike (alike : files.AlikeAt other paths) {entry : Entry} {visit : Visit}
    (visit_of : visit.IsOf config files entry) (known : config.resolve entry.file ∈ paths) :
    ∃ twin : Visit, twin.IsOf config other entry ∧ twin.unnumbered = visit.unnumbered ∧
      (files.visit visit).AlikeAt (other.visit twin) paths := by
  rw [← visit_of.path_eq] at known
  have found := FileSystem.lookUp_of_reaches visit_of.reached
  rw [← alike.lookUp_eq _ known, FileSystem.lookUp_eq_file_iff] at found
  obtain ⟨number, reached, content_eq⟩ := found
  refine ⟨{ visit with number }, ?_, rfl, alike.setContent known visit_of.reached reached⟩
  exact ⟨visit_of.path_eq, reached, visit_of.before_eq.trans content_eq.symm,
    visit_of.substituted_eq, visit_of.after_eq⟩

/-- Alike file systems are visited alike. -/
theorem exists_visits_of_alike (alike : files.AlikeAt other paths) {entries : List Entry}
    {visits : List Visit} (made : config.Visits files entries visits)
    (known : config.pathsOf entries ⊆ paths) :
    ∃ twins, config.Visits other entries twins ∧
      twins.map Visit.unnumbered = visits.map Visit.unnumbered ∧
      (files.after visits).AlikeAt (other.after twins) paths := by
  induction made generalizing other with
  | nil files => exact ⟨[], .nil other, rfl, alike⟩
  | cons first others ih =>
    obtain ⟨first_known, others_known⟩ := List.cons_subset.mp known
    obtain ⟨twin, twin_of, twin_eq, alike⟩ := exists_visit_of_alike alike first first_known
    obtain ⟨twins, made, twins_eq, alike⟩ := ih alike others_known
    refine ⟨twin :: twins, .cons twin_of made, ?_, alike⟩
    rw [List.map_cons, List.map_cons, twin_eq, twins_eq]

/-- An entry that falters in one of two alike file systems does so in the other, for the same
reason, and the two are left alike. -/
theorem falters_of_alike (alike : files.AlikeAt other paths) {entry : Entry} {mishap : Mishap}
    {failure : Failure} {requests : List Request} {left : FileSystem}
    (falters : config.Falters mishap files entry failure requests left)
    (known : config.resolve entry.file ∈ paths) :
    ∃ others twinLeft, config.Falters mishap other entry failure others twinLeft ∧
      left.AlikeAt twinLeft paths := by
  cases falters with
  | notOpened refused there =>
    have same := alike.lookUp_eq _ known
    exact ⟨_, _, .notOpened (FileSystem.openFile_eq_error_of_lookUp_eq same refused) there, alike⟩
  | notRead opened refused =>
    obtain ⟨twin, opened, read_eq, -⟩ := alike.exists_openFile known opened
    exact ⟨_, _, .notRead opened ((read_eq _).trans refused), alike⟩
  | notFormatted opened read substituted_eq formatter_eq refused =>
    obtain ⟨twin, opened, read_eq, -⟩ := alike.exists_openFile known opened
    exact ⟨_, _, .notFormatted opened ((read_eq _).trans read) substituted_eq formatter_eq refused,
      alike⟩
  | notWritten opened read substituted_eq output_eq refused =>
    obtain ⟨twin, opened, read_eq, replaced⟩ := alike.exists_openFile known opened
    obtain ⟨twinLeft, twinRefused, alike⟩ := replaced refused
    exact ⟨_, twinLeft, .notWritten opened ((read_eq _).trans read) substituted_eq output_eq
      twinRefused, alike⟩

theorem present_of_alike (alike : files.AlikeAt other paths) {entries : List Entry}
    (known : config.pathsOf entries ⊆ paths) :
    config.present other entries = config.present files entries := by
  apply List.filter_congr
  intro entry member
  rw [isMissing_of_alike alike (known (List.mem_map_of_mem member))]

theorem missing_of_alike (alike : files.AlikeAt other paths) {entries : List Entry}
    (known : config.pathsOf entries ⊆ paths) :
    config.missing other entries = config.missing files entries := by
  apply List.filter_congr
  intro entry member
  rw [isMissing_of_alike alike (known (List.mem_map_of_mem member))]

/-- Decisions of the first pass are the same in alike file systems. -/
theorem steps_of_alike (alike : files.AlikeAt other (config.pathsOf config.entries)) :
    config.steps other = config.steps files := by
  apply Traversal.mapM_congr
  intro entry member
  have same := isMissing_of_alike alike (List.mem_map_of_mem member)
  cases missing : config.isMissing files entry with
  | true => rw [stepOf_of_missing missing, stepOf_of_missing (same.trans missing)]
  | false => rw [stepOf_of_there missing, stepOf_of_there (same.trans missing)]

/-- A run that stops at an entry in one of two alike file systems stops there in the other, for the
same reason, and leaves the two alike. -/
theorem exists_stopsAt_of_alike (alike : files.AlikeAt other paths) {mishaps : Mishaps}
    {before : List Entry} {entry : Entry} {visits : List Visit} {failure : Failure}
    {requests : List Request} {left : FileSystem}
    (stops : config.StopsAt mishaps files before entry visits failure requests left)
    (before_known : config.pathsOf before ⊆ paths) (known : config.resolve entry.file ∈ paths) :
    ∃ twins others twinLeft,
      config.StopsAt mishaps other before entry twins failure others twinLeft ∧
      left.AlikeAt twinLeft paths := by
  have present_known : config.pathsOf (config.present files before) ⊆ paths :=
    List.Subset.trans (List.map_subset _ (List.filter_sublist.subset)) before_known
  obtain ⟨twins, made, twins_eq, alike_after⟩ :=
    exists_visits_of_alike alike stops.visits_before present_known
  have length_eq : twins.length = visits.length := by simpa using congrArg List.length twins_eq
  obtain ⟨others, twinLeft, falters, alike_left⟩ :=
    falters_of_alike alike_after stops.falters known
  rw [← present_of_alike alike before_known] at made
  rw [← length_eq] at falters
  have there := (isMissing_of_alike alike known).trans stops.there
  exact ⟨twins, others, twinLeft, ⟨made, length_eq ▸ stops.spare, there, falters⟩, alike_left⟩

/-- A run comes out the same in alike file systems, however it ends, and leaves them alike. -/
theorem run_of_alike (alike : files.AlikeAt other (config.pathsOf config.entries))
    (mishaps : Mishaps) :
    (config.run other mishaps).outcome = (config.run files mishaps).outcome ∧
      (config.run files mishaps).files.AlikeAt (config.run other mishaps).files
        (config.pathsOf config.entries) := by
  have present_eq := present_of_alike alike (List.Subset.refl _)
  rcases run_cases config files mishaps with
    ⟨failure, refused⟩ | ⟨visits, made, spare⟩ |
      ⟨before, entry, after, visits, failure, requests, left, compiles, entries_eq, stops⟩
  · have ends := run_of_steps_eq_error refused mishaps
    have otherEnds := run_of_steps_eq_error ((steps_of_alike alike).trans refused) mishaps
    rw [ends.outcome_eq, otherEnds.outcome_eq, ends.files_eq, otherEnds.files_eq]
    exact ⟨rfl, alike⟩
  · have present_known : config.pathsOf (config.present files config.entries) ⊆
        config.pathsOf config.entries := List.map_subset _ (List.filter_sublist.subset)
    obtain ⟨twins, twins_made, twins_eq, alike_after⟩ :=
      exists_visits_of_alike alike made present_known
    have length_eq : twins.length = visits.length := by simpa using congrArg List.length twins_eq
    rw [← present_eq] at twins_made
    have ends := run_of_visits made spare
    have otherEnds := run_of_visits twins_made (length_eq ▸ spare)
    rw [ends.outcome_eq, otherEnds.outcome_eq, ends.files_eq, otherEnds.files_eq,
      missing_of_alike alike (List.Subset.refl _), ← Summary.ofVisits_unnumbered twins,
      ← Summary.ofVisits_unnumbered visits, twins_eq]
    exact ⟨rfl, alike_after⟩
  · have before_known : config.pathsOf before ⊆ config.pathsOf config.entries := by
      rw [entries_eq]
      exact List.map_subset _ (List.subset_append_left _ _)
    have entry_known : config.resolve entry.file ∈ config.pathsOf config.entries := by
      rw [entries_eq]
      exact List.mem_map_of_mem (by simp)
    obtain ⟨twins, others, twinLeft, otherStops, alike_left⟩ :=
      exists_stopsAt_of_alike alike stops before_known entry_known
    have ends := run_of_stopsAt compiles entries_eq stops
    have otherEnds := run_of_stopsAt (present_eq ▸ compiles) entries_eq otherStops
    rw [ends.outcome_eq, otherEnds.outcome_eq, ends.files_eq, otherEnds.files_eq]
    exact ⟨rfl, alike_left⟩

/-! ## What stays as it is -/

theorem nodes_after (visits : List Visit) : (files.after visits).nodes = files.nodes := by
  induction visits generalizing files with
  | nil => rfl
  | cons visit visits ih => exact ih

theorem here_after (visits : List Visit) : (files.after visits).here = files.here := by
  induction visits generalizing files with
  | nil => rfl
  | cons visit visits ih => exact ih

theorem resolve_after (visits : List Visit) (path : Path) (creating : Bool) :
    (files.after visits).resolve path creating = files.resolve path creating := by
  induction visits generalizing files with
  | nil => rfl
  | cons visit visits ih =>
    exact ih.trans (FileSystem.resolve_setContent files visit.number visit.after path creating)

/-- Files that nobody visits keep their content. -/
theorem contents_after_of_unvisited {visits : List Visit} {number : Nat}
    (unvisited : ∀ visit ∈ visits, number ≠ visit.number) :
    (files.after visits).contents number = files.contents number := by
  induction visits generalizing files with
  | nil => rfl
  | cons visit visits ih =>
    obtain ⟨first, others⟩ := List.forall_mem_cons.mp unvisited
    exact (ih others).trans (FileSystem.contents_setContent_of_ne files visit.number _ first)

/-- Visits go to files that their entries reach to begin with. -/
theorem reaches_of_visits {entries : List Entry} {visits : List Visit}
    (made : config.Visits files entries visits) :
    ∀ visit ∈ visits, ∃ entry ∈ entries,
      files.Reaches (config.resolve entry.file) visit.number := by
  induction made with
  | nil files => simp
  | @cons files entry visit entries visits first others ih =>
    intro later member
    rcases List.mem_cons.mp member with rfl | member
    · refine ⟨entry, List.mem_cons_self, ?_⟩
      rw [← first.path_eq]
      exact first.reached
    · obtain ⟨of, of_member, reached⟩ := ih later member
      exact ⟨of, List.mem_cons_of_mem entry of_member,
        FileSystem.reaches_setContent.mp reached⟩

/-- However a run ends, what it has done to the files is to put contents into files that its entries
reach.  What breaks off at the last file counts as a visit as well, which leaves what there is. -/
theorem exists_after_of_run (config : Configuration) (files : FileSystem) (mishaps : Mishaps) :
    ∃ visits : List Visit, (config.run files mishaps).files = files.after visits ∧
      ∀ visit ∈ visits, ∃ entry ∈ config.entries,
        files.Reaches (config.resolve entry.file) visit.number := by
  rcases run_cases config files mishaps with
    ⟨failure, refused⟩ | ⟨visits, made, spare⟩ |
      ⟨before, entry, after, visits, failure, requests, left, compiles, entries_eq, stops⟩
  · exact ⟨[], (run_of_steps_eq_error refused mishaps).files_eq, by simp⟩
  · refine ⟨visits, (run_of_visits made spare).files_eq, ?_⟩
    intro visit member
    obtain ⟨entry, entry_member, reached⟩ := reaches_of_visits made visit member
    exact ⟨entry, List.filter_sublist.subset entry_member, reached⟩
  · have ends := run_of_stopsAt compiles entries_eq stops
    have reaches : ∀ visit ∈ visits, ∃ entry ∈ config.entries,
        files.Reaches (config.resolve entry.file) visit.number := by
      intro visit member
      obtain ⟨earlier, earlier_member, reached⟩ :=
        reaches_of_visits stops.visits_before visit member
      refine ⟨earlier, ?_, reached⟩
      rw [entries_eq]
      exact List.mem_append_left _ (List.filter_sublist.subset earlier_member)
    rcases left_eq_or_breaksOff stops.falters with
      rfl | ⟨number, output, refusal, reached, -, -, -, rfl⟩
    · exact ⟨visits, ends.files_eq, reaches⟩
    · let content := refusal.step.leaves ((files.after visits).contents number) output
      let last : Visit := ⟨config.resolve entry.file, number, [], output, content⟩
      refine ⟨visits ++ [last], ?_, ?_⟩
      · have last_eq : files.after (visits ++ [last]) = (files.after visits).visit last :=
          List.foldl_append
        rw [ends.files_eq, last_eq]
        rfl
      · intro visit member
        rcases List.mem_append.mp member with member | member
        · exact reaches visit member
        · obtain rfl := List.mem_singleton.mp member
          refine ⟨entry, by simp [entries_eq], ?_⟩
          obtain ⟨place, resolved⟩ := reached
          exact ⟨place, (resolve_after visits _ _).symm.trans resolved⟩

/-- However a run ends, all names stand for what they stood for, every path leads where it led, and
files that no entry reaches keep their content; all paths to a file show the one content that it
has.  In any two file systems in which the paths of the entries are found alike, runs come out the
same and leave these paths alike. -/
theorem run_changes_reached_contents (config : Configuration) (files : FileSystem)
    (mishaps : Mishaps) :
    let final := (config.run files mishaps).files
    (final.nodes = files.nodes ∧ final.here = files.here ∧
      ∀ path creating, final.resolve path creating = files.resolve path creating) ∧
    (∀ number, (∀ entry ∈ config.entries, ¬ files.Reaches (config.resolve entry.file) number) →
      final.contents number = files.contents number) ∧
    (∀ path number, files.Reaches path number →
      final.readFile path = .ok (final.contents number)) ∧
    ∀ other : FileSystem, files.AlikeAt other (config.pathsOf config.entries) →
      (config.run other mishaps).outcome = (config.run files mishaps).outcome ∧
        final.AlikeAt (config.run other mishaps).files (config.pathsOf config.entries) := by
  obtain ⟨visits, files_eq, reaches⟩ := exists_after_of_run config files mishaps
  simp only [files_eq]
  refine ⟨⟨nodes_after visits, here_after visits, resolve_after visits⟩, ?_, ?_, ?_⟩
  · intro number unreached
    apply contents_after_of_unvisited
    rintro visit member rfl
    obtain ⟨entry, entry_member, reached⟩ := reaches visit member
    exact unreached entry entry_member reached
  · intro path number reached
    obtain ⟨place, resolved⟩ := reached
    have reachedAfter : (files.after visits).Reaches path number :=
      ⟨place, (resolve_after visits path false).trans resolved⟩
    exact reachedAfter.readFile_eq
  · intro other alike
    rw [← files_eq]
    exact run_of_alike alike mishaps

/-- A link to a file in one file system, two names of a file in the other, which holds a third file
besides: the third one keeps its content, and runs come out the same. -/
theorem run_changes_reached_contents_of_hard_link :
    let files := FileSystem.withLink (Bytes.ofText "old")
    let other : FileSystem :=
      { nodes := [(["c"], .file 2), (["b"], .file 5), (["a"], .file 5)]
        contents := fun number => Bytes.ofText (if number = 5 then "old" else "kept")
        here := [] }
    let config : Configuration :=
      { packages := [⟨[{ file := "gone" }, { file := "a", literals := [⟨"old", "newer"⟩] },
          { file := "b", literals := [⟨"newer", "new"⟩] }]⟩] }
    (config.run files).outcome = .ok { changed := ["a", "b"], skipped := ["gone"] } ∧
      (config.run other).outcome = (config.run files).outcome ∧
      (config.run other).files.contents 2 = Bytes.ofText "kept" ∧
      (config.run other).files.readFile "a" = (config.run other).files.readFile "b" := by
  refine ⟨by rfl, ((run_changes_reached_contents _ _ .none).2.2.2 _ ?alike).1,
    (run_changes_reached_contents _ _ .none).2.1 2 ?unreached,
    ((run_changes_reached_contents _ _ .none).2.2.1 "a" 5 ?first).trans
      ((run_changes_reached_contents _ _ .none).2.2.1 "b" 5 ?second).symm⟩
  case alike => exact ⟨by decide +kernel, by decide +kernel⟩
  case unreached => decide +kernel
  case first => decide +kernel
  case second => decide +kernel

end Configuration

end Emend
