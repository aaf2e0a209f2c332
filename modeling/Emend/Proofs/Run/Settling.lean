/-
# Runs that settle

If no text that is looked for overlaps one that is put in its place, a literal that has been
replaced is gone for good: neither the later substitutions of its own entry nor those of other
entries that reach the same file bring it back.  A second run then finds nothing to do.
-/

import Emend.Proofs.Run.Outcome
import Emend.Proofs.Text.Substitute

namespace Emend

/-! ## Literals that are gone -/

namespace Substitution

/-- The literal does not occur in a content. -/
def Absent (rule : Substitution) (content : Bytes) : Prop :=
  ¬ Bytes.ofText rule.find <:+: content

/-- No text is empty, and none that is looked for overlaps one that is put in, be it by another
substitution. -/
structure AreApart (rules : List Substitution) : Prop where
  nonempty : ∀ rule ∈ rules, rule.find ≠ "" ∧ rule.replacement ≠ ""
  not_overlap : ∀ rule ∈ rules, ∀ other ∈ rules,
    ¬ Bytes.Overlap (Bytes.ofText rule.find) (Bytes.ofText other.replacement)

variable {rule other : Substitution} {content : Bytes}

theorem replaceLiteral_eq (nonempty : rule.find ≠ "") :
    rule.replaceLiteral content =
      (Substitute.replace? (Bytes.ofText rule.find) (Bytes.ofText rule.replacement) content).getD
        content := by
  have notEmpty : rule.find.isEmpty = false := by simpa using nonempty
  simp [replaceLiteral, applyLiteral, notEmpty]

theorem replaceLiteral_of_absent (nonempty : rule.find ≠ "") (absent : rule.Absent content) :
    rule.replaceLiteral content = content := by
  rw [replaceLiteral_eq nonempty,
    Substitute.replace?_eq_none_of_absent (Bytes.ofText_ne_nil nonempty) absent]
  rfl

theorem absent_replaceLiteral_self (nonempty : rule.find ≠ "")
    (apart : ¬ Bytes.Overlap (Bytes.ofText rule.find) (Bytes.ofText rule.replacement)) :
    rule.Absent (rule.replaceLiteral content) := by
  rw [replaceLiteral_eq nonempty]
  exact Substitute.not_infix_getD_replace? (Bytes.ofText_ne_nil nonempty) apart

theorem absent_replaceLiteral (nonempty : rule.find ≠ "")
    (apart : ¬ Bytes.Overlap (Bytes.ofText other.find) (Bytes.ofText rule.replacement))
    (absent : other.Absent content) : other.Absent (rule.replaceLiteral content) := by
  rw [replaceLiteral_eq nonempty]
  exact Substitute.not_infix_getD_replace?_of_absent (Bytes.ofText_ne_nil nonempty) apart absent

/-- Replacing literals one after the other brings none back that is gone, and all of them are gone
in the end. -/
theorem absent_foldl {rules literals : List Substitution} (apart : AreApart rules)
    (known : literals ⊆ rules) (content : Bytes) :
    (∀ rule ∈ rules, rule.Absent content →
      rule.Absent (literals.foldl (fun content rule => rule.replaceLiteral content) content)) ∧
    ∀ rule ∈ literals,
      rule.Absent (literals.foldl (fun content rule => rule.replaceLiteral content) content) := by
  induction literals generalizing content with
  | nil => simp
  | cons first literals ih =>
    obtain ⟨first_known, others_known⟩ := List.cons_subset.mp known
    have nonempty := (apart.nonempty first first_known).1
    obtain ⟨kept, gone⟩ := ih others_known (first.replaceLiteral content)
    constructor
    · intro rule member absent
      have apart_first := apart.not_overlap rule member first first_known
      exact kept rule member (absent_replaceLiteral nonempty apart_first absent)
    · intro rule member
      rcases List.mem_cons.mp member with rfl | member
      · have apart_self := apart.not_overlap rule first_known rule first_known
        exact kept rule first_known (absent_replaceLiteral_self nonempty apart_self)
      · exact gone rule member

/-- Where none of them occurs, literals leave a content as it is. -/
theorem foldl_of_absent {literals : List Substitution} {content : Bytes}
    (nonempty : ∀ rule ∈ literals, rule.find ≠ "")
    (absent : ∀ rule ∈ literals, rule.Absent content) :
    literals.foldl (fun content rule => rule.replaceLiteral content) content = content := by
  induction literals with
  | nil => rfl
  | cons first literals ih =>
    obtain ⟨first_nonempty, others_nonempty⟩ := List.forall_mem_cons.mp nonempty
    obtain ⟨first_absent, others_absent⟩ := List.forall_mem_cons.mp absent
    rw [List.foldl_cons, replaceLiteral_of_absent first_nonempty first_absent]
    exact ih others_nonempty others_absent

end Substitution

/-! ## Summaries -/

namespace Summary

/-- Every visit is listed among those that changed something or among those that did not. -/
theorem perm_map_path (visits : List Visit) (skipped : List Path) :
    ((ofVisits visits skipped).changed ++ (ofVisits visits skipped).unchanged).Perm
      (visits.map Visit.path) := by
  have split := List.filter_append_perm (fun visit : Visit => !(visit.after = visit.before)) visits
  simp only [ofVisits, ← List.map_append]
  exact List.Perm.map Visit.path (by simpa using split)

/-- If no visit changes anything, all are listed as such. -/
theorem ofVisits_of_unchanged {visits : List Visit} (skipped : List Path)
    (unchanged : ∀ visit ∈ visits, visit.after = visit.before) :
    ofVisits visits skipped = { unchanged := visits.map Visit.path, skipped } := by
  have none : visits.filter (fun visit => visit.after ≠ visit.before) = [] := by
    simpa using unchanged
  have all : visits.filter (fun visit => visit.after = visit.before) = visits := by
    simpa using unchanged
  rw [ofVisits, none, all]
  rfl

end Summary

namespace Configuration

/-- A configuration of literals alone, all of them apart. -/
structure IsSettling (config : Configuration) : Prop where
  no_formatter : config.formatter = none
  no_patterns : ∀ entry ∈ config.entries, entry.patterns = []
  apart : Substitution.AreApart (config.entries.flatMap Entry.literals)

variable {config : Configuration} {files : FileSystem}

/-! ## Files that are settled -/

/-- The path of an entry leads to a file in which none of its literals occurs. -/
def HasSettled (config : Configuration) (files : FileSystem) (entry : Entry) : Prop :=
  ∃ place number, files.resolve (config.resolve entry.file) = .ok (.node place (.file number)) ∧
    ∀ rule ∈ entry.literals, rule.Absent (files.contents number)

theorem literals_subset {entry : Entry} (member : entry ∈ config.entries) :
    entry.literals ⊆ config.entries.flatMap Entry.literals :=
  fun _ found => List.mem_flatMap.mpr ⟨entry, member, found⟩

/-- The visit of a settling entry replaces its literals and does nothing else. -/
theorem IsSettling.after_eq (settling : config.IsSettling) {entry : Entry}
    (member : entry ∈ config.entries) {visit : Visit} (visit_of : visit.IsOf config files entry) :
    visit.after =
      entry.literals.foldl (fun content rule => rule.replaceLiteral content)
        (files.contents visit.number) := by
  have substituted_eq := visit_of.substituted_eq
  have after_eq := visit_of.after_eq
  rw [Entry.substituted?, settling.no_patterns entry member, visit_of.before_eq] at substituted_eq
  rw [settling.no_formatter] at after_eq
  have unformatted : visit.substituted = visit.after := Except.ok.inj after_eq
  rw [← unformatted]
  exact (Option.some.inj substituted_eq).symm

/-- A visit brings no literal back, in whichever file it is gone. -/
theorem absent_visit (settling : config.IsSettling) {entry : Entry}
    (member : entry ∈ config.entries) {visit : Visit} (visit_of : visit.IsOf config files entry)
    {rule : Substitution} (known : rule ∈ config.entries.flatMap Entry.literals) {number : Nat}
    (absent : rule.Absent (files.contents number)) :
    rule.Absent ((files.visit visit).contents number) := by
  unfold FileSystem.visit
  by_cases same : number = visit.number
  · subst same
    rw [FileSystem.contents_setContent_self, settling.after_eq member visit_of]
    exact (Substitution.absent_foldl settling.apart (literals_subset member) _).1 rule
      known absent
  · rw [FileSystem.contents_setContent_of_ne _ _ _ same]
    exact absent

/-- A visit settles the file of its entry. -/
theorem hasSettled_visit (settling : config.IsSettling) {entry : Entry}
    (member : entry ∈ config.entries) {visit : Visit} (visit_of : visit.IsOf config files entry) :
    config.HasSettled (files.visit visit) entry := by
  obtain ⟨place, reached⟩ := visit_of.reached
  refine ⟨place, visit.number, ?_, ?_⟩
  · rw [FileSystem.visit, FileSystem.resolve_setContent, ← visit_of.path_eq, reached]
  · rw [FileSystem.visit, FileSystem.contents_setContent_self, settling.after_eq member visit_of]
    exact (Substitution.absent_foldl settling.apart (literals_subset member) _).2

/-- A file that is settled stays so when others visit it, by whatever path. -/
theorem HasSettled.visit (settling : config.IsSettling) {entry settled : Entry}
    (member : entry ∈ config.entries) {visit : Visit} (visit_of : visit.IsOf config files entry)
    (settled_member : settled ∈ config.entries) (hasSettled : config.HasSettled files settled) :
    config.HasSettled (files.visit visit) settled := by
  obtain ⟨place, number, reached, absent⟩ := hasSettled
  refine ⟨place, number, ?_, fun rule found => ?_⟩
  · rw [FileSystem.visit, FileSystem.resolve_setContent, reached]
  · have known := literals_subset settled_member found
    exact absent_visit settling member visit_of known (absent rule found)

/-- Visits leave settled what was, and settle the files of their entries. -/
theorem hasSettled_after (settling : config.IsSettling) {entries : List Entry}
    {visits : List Visit} (known : entries ⊆ config.entries)
    (made : config.Visits files entries visits) :
    (∀ settled ∈ config.entries, config.HasSettled files settled →
      config.HasSettled (files.after visits) settled) ∧
    ∀ entry ∈ entries, config.HasSettled (files.after visits) entry := by
  induction made with
  | nil files => exact ⟨fun _ _ hasSettled => hasSettled, by simp⟩
  | @cons files entry visit entries visits first others ih =>
    obtain ⟨first_known, others_known⟩ := List.cons_subset.mp known
    obtain ⟨kept, settled⟩ := ih others_known
    constructor
    · intro earlier member hasSettled
      exact kept earlier member (hasSettled.visit settling first_known first member)
    · intro later member
      rcases List.mem_cons.mp member with rfl | member
      · exact kept later first_known (hasSettled_visit settling first_known first)
      · exact settled later member

/-! ## The second run -/

/-- Entries whose files are settled visit them without changing anything. -/
theorem visits_of_hasSettled (settling : config.IsSettling) {entries : List Entry}
    (known : entries ⊆ config.entries)
    (settled : ∀ entry ∈ entries, config.HasSettled files entry) :
    ∃ visits, config.Visits files entries visits ∧ files.after visits = files ∧
      ∀ visit ∈ visits, visit.after = visit.before := by
  induction entries with
  | nil => exact ⟨[], .nil files, rfl, by simp⟩
  | cons entry entries ih =>
    obtain ⟨first_known, others_known⟩ := List.cons_subset.mp known
    obtain ⟨first_settled, others_settled⟩ := List.forall_mem_cons.mp settled
    obtain ⟨visits, made, after_eq, unchanged⟩ := ih others_known others_settled
    obtain ⟨place, number, reached, absent⟩ := first_settled
    let content := files.contents number
    have nonempty : ∀ rule ∈ entry.literals, rule.find ≠ "" := fun rule found =>
      (settling.apart.nonempty rule (literals_subset first_known found)).1
    have substituted_eq : entry.substituted? content = some content := by
      rw [Entry.substituted?, settling.no_patterns entry first_known,
        Substitution.foldl_of_absent nonempty absent]
      rfl
    have finished : Formatter.finish config.formatter content = .ok content := by
      rw [settling.no_formatter]
      rfl
    -- The visit puts back what the file holds, so the others find the files as they were.
    let visit : Visit := ⟨config.resolve entry.file, number, content, content, content⟩
    have same : files.visit visit = files := files.setContent_contents number
    have visit_of : visit.IsOf config files entry :=
      ⟨rfl, ⟨place, reached⟩, rfl, substituted_eq, finished⟩
    refine ⟨visit :: visits, .cons visit_of (by rwa [same]), ?_, ?_⟩
    · change (files.visit visit).after visits = files
      rw [same, after_eq]
    · exact List.forall_mem_cons.mpr ⟨rfl, unchanged⟩

/-- Running a settling configuration again succeeds and changes no file.  All files that the first
run has visited are found unchanged, and the same ones are missing. -/
theorem run_again_changes_nothing {summary : Summary} (settling : config.IsSettling)
    (succeeded : (config.run files).outcome = .ok summary) :
    (config.run (config.run files).files).files = (config.run files).files ∧
      ∃ again : Summary, (config.run (config.run files).files).outcome = .ok again ∧
        again.changed = [] ∧
        again.unchanged.Perm (summary.changed ++ summary.unchanged) ∧
        again.skipped = summary.skipped := by
  obtain ⟨visits, made, spare⟩ := exists_visits_of_run_eq_ok succeeded
  have first := run_of_visits made spare
  rw [first.outcome_eq, Except.ok.injEq] at succeeded
  subst succeeded
  have present_subset : config.present files config.entries ⊆ config.entries :=
    List.filter_subset_self _
  obtain ⟨-, settled⟩ := hasSettled_after settling present_subset made
  obtain ⟨others, made_again, after_eq, unchanged⟩ :=
    visits_of_hasSettled settling present_subset settled
  rw [first.files_eq]
  rw [← present_after visits] at made_again
  have second := run_of_visits made_again (Mishaps.none_spare _)
  rw [after_eq] at second
  rw [Summary.ofVisits_of_unchanged _ unchanged] at second
  refine ⟨second.files_eq, _, second.outcome_eq, rfl, ?_, ?_⟩
  · have paths_eq : others.map Visit.path = visits.map Visit.path := by
      rw [map_path_of_visits made_again, map_path_of_visits made, present_after]
    change (others.map Visit.path).Perm _
    rw [paths_eq]
    exact (Summary.perm_map_path visits _).symm
  · change config.pathsOf (config.missing (files.after visits) config.entries) = _
    rw [missing_after]
    rfl

/-- Two entries replace different literals in one file, the second one through a link. -/
theorem run_again_changes_nothing_through_link :
    let files := FileSystem.withLink (Bytes.ofText "foo bar")
    let config : Configuration :=
      { packages := [⟨[{ file := "gone" }, { file := "a", literals := [⟨"foo", "X"⟩] },
          { file := "b", literals := [⟨"bar", "Y"⟩] }]⟩] }
    (config.run files).outcome = .ok { changed := ["a", "b"], skipped := ["gone"] } ∧
      (config.run (config.run files).files).files = (config.run files).files ∧
      ∃ again : Summary, (config.run (config.run files).files).outcome = .ok again ∧
        again.changed = [] ∧ again.unchanged.Perm ["a", "b"] ∧ again.skipped = ["gone"] := by
  refine ⟨?succeeded, run_again_changes_nothing ⟨rfl, ?no_patterns, ?nonempty, ?apart⟩ ?succeeded⟩
  case succeeded => rfl
  case no_patterns => simp [entries]
  case nonempty => simp [entries]
  case apart => decide +kernel

end Configuration

end Emend
