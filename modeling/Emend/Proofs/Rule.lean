/-
# What an entry makes of a content

An entry declares literals and patterns.  `Entry.substituted?` says what they make of a content
without compiling them first: the literals in order, then the patterns in order, each applied to
what the ones before it have made.  Compiling the entry gives rules that do the same, or the first
pattern that is refused.
-/

import Emend.Plan
import Emend.Proofs.Traversal

namespace Emend

open Traversal (FailsFirst)

/-! ## The content that an entry declares -/

/-- The pattern to look for is accepted. -/
def Substitution.Compiles (rule : Substitution) : Prop :=
  ∃ regex, Pattern.Regex.compile rule.find = .ok regex

/-- A content in which a literal has been replaced, which stays as it is without the literal. -/
def Substitution.replaceLiteral (rule : Substitution) (content : Bytes) : Bytes :=
  (rule.applyLiteral content).getD content

/-- A content in which the matches of a pattern have been replaced, if the pattern is accepted. -/
def Substitution.replacePattern? (rule : Substitution) (content : Bytes) : Option Bytes :=
  match Pattern.Regex.compile rule.find with
  | .ok regex =>
    some ((regex.replace? (Pattern.Template.parse rule.replacement) content).getD content)
  | .error _ => none

/-- A content after all literals of an entry and then all its patterns, if these are accepted. -/
def Entry.substituted? (entry : Entry) (content : Bytes) : Option Bytes :=
  entry.patterns.foldlM (fun content rule => rule.replacePattern? content)
    (entry.literals.foldl (fun content rule => rule.replaceLiteral content) content)

/-- A content after the formatter, which has nothing to do if there is none. -/
def Formatter.finish (formatter : Option Formatter) (content : Bytes) :
    Except Failure Bytes :=
  match formatter with
  | some formatter => formatter.format content
  | none => .ok content

/-- All patterns of an entry are accepted. -/
def Entry.Compiles (entry : Entry) : Prop := ∀ rule ∈ entry.patterns, rule.Compiles

/-- The first pattern of an entry that is refused, and why. -/
def Entry.FirstRefused (entry : Entry) (bad : BadPattern) : Prop :=
  ∃ before rule after, entry.patterns = before ++ rule :: after ∧
    (∀ earlier ∈ before, earlier.Compiles) ∧
    bad.pattern = rule.find ∧ Pattern.Regex.compile rule.find = .error bad.reason

/-! ## Compiling -/

theorem mapError_ok {ε ε' α : Type} (change : ε → ε') (result : α) :
    (Except.ok result).mapError change = .ok result := rfl

theorem mapError_error {ε ε' α : Type} (change : ε → ε') (error : ε) :
    (Except.error error : Except ε α).mapError change = .error (change error) := rfl

/-- Compile one pattern. -/
def RuleSet.compilePattern (rule : Substitution) : Except BadPattern Rule :=
  (Rule.ofPattern rule).mapError fun reason => { pattern := rule.find, reason }

namespace RuleSet

theorem compile_eq (literals patterns : List Substitution) :
    compile literals patterns =
      (patterns.mapM compilePattern).map (literals.map Rule.literal ++ ·) := by
  change (patterns.mapM compilePattern).bind _ = _
  cases patterns.mapM compilePattern <;> rfl

theorem compilePattern_eq_ok_iff {rule : Substitution} {compiled : Rule} :
    compilePattern rule = .ok compiled ↔
      ∃ regex, Pattern.Regex.compile rule.find = .ok regex ∧ compiled = .pattern rule regex := by
  unfold compilePattern Rule.ofPattern
  cases Pattern.Regex.compile rule.find <;> simp [Except.map, mapError_ok, mapError_error, eq_comm]

theorem compilePattern_eq_error_iff {rule : Substitution} {bad : BadPattern} :
    compilePattern rule = .error bad ↔
      bad.pattern = rule.find ∧ Pattern.Regex.compile rule.find = .error bad.reason := by
  obtain ⟨pattern, reason⟩ := bad
  unfold compilePattern Rule.ofPattern
  cases Pattern.Regex.compile rule.find <;> simp [Except.map, mapError_ok, mapError_error, eq_comm]

theorem exists_compilePattern_eq_ok_iff {rule : Substitution} :
    (∃ compiled, compilePattern rule = .ok compiled) ↔ rule.Compiles := by
  simp only [compilePattern_eq_ok_iff, Substitution.Compiles]
  exact ⟨fun ⟨_, regex, accepted, _⟩ => ⟨regex, accepted⟩,
    fun ⟨regex, accepted⟩ => ⟨_, regex, accepted, rfl⟩⟩

/-- Compiled patterns do in turn what the declared ones do. -/
theorem apply_of_mapM_compilePattern {patterns : List Substitution} {rules : RuleSet}
    (compiled : patterns.mapM compilePattern = .ok rules) (content : Bytes) :
    patterns.foldlM (fun content rule => rule.replacePattern? content) content =
      some (rules.apply content) := by
  induction patterns generalizing rules content with
  | nil => cases compiled; rfl
  | cons rule patterns ih =>
    obtain ⟨head, tail, first, rest, rfl⟩ := Traversal.mapM_cons_eq_ok_iff.mp compiled
    obtain ⟨regex, accepted, rfl⟩ := compilePattern_eq_ok_iff.mp first
    simp only [List.foldlM_cons, Substitution.replacePattern?, accepted]
    exact ih rest _

end RuleSet

namespace Entry

variable {entry : Entry} {path : Path}

/-- Compiled rules do to any content what the entry declares. -/
theorem substituted?_of_compile {rules : RuleSet} (compiled : entry.compile path = .ok rules)
    (content : Bytes) : entry.substituted? content = some (rules.apply content) := by
  unfold compile at compiled
  rw [RuleSet.compile_eq] at compiled
  cases patternRules : entry.patterns.mapM RuleSet.compilePattern with
  | error bad => simp [patternRules, Except.map, mapError_error] at compiled
  | ok patterns =>
    rw [patternRules] at compiled
    cases compiled
    rw [substituted?, RuleSet.apply_of_mapM_compilePattern patternRules]
    simp only [RuleSet.apply, List.foldl_append, List.foldl_map]
    rfl

/-- Compiling an entry fails as its first pattern does that is refused. -/
theorem compile_eq_error_iff {failure : Failure} :
    entry.compile path = .error failure ↔
      ∃ bad, failure = .patternInvalid path bad ∧ entry.FirstRefused bad := by
  have traversal (bad : BadPattern) :
      entry.patterns.mapM RuleSet.compilePattern = .error bad ↔ entry.FirstRefused bad := by
    simp only [Traversal.mapM_eq_error_iff, FailsFirst, FirstRefused,
      RuleSet.exists_compilePattern_eq_ok_iff, RuleSet.compilePattern_eq_error_iff]
  unfold compile
  rw [RuleSet.compile_eq]
  cases patternRules : entry.patterns.mapM RuleSet.compilePattern with
  | error bad =>
    have refused := (traversal bad).mp patternRules
    simp only [Except.map, mapError_error, Except.error.injEq]
    constructor
    · rintro rfl
      exact ⟨bad, rfl, refused⟩
    · rintro ⟨other, rfl, otherRefused⟩
      have same := (traversal other).mpr otherRefused
      rw [patternRules] at same
      cases same
      rfl
  | ok rules =>
    simp only [Except.map, mapError_ok, reduceCtorEq, false_iff]
    rintro ⟨bad, -, refused⟩
    have failed := (traversal bad).mpr refused
    rw [patternRules] at failed
    cases failed

/-- Compiling succeeds exactly if every pattern is accepted. -/
theorem exists_compile_eq_ok_iff : (∃ rules, entry.compile path = .ok rules) ↔ entry.Compiles := by
  have each : (∃ rules, entry.patterns.mapM RuleSet.compilePattern = .ok rules) ↔
      entry.Compiles := by
    simp only [Traversal.exists_mapM_eq_ok_iff, RuleSet.exists_compilePattern_eq_ok_iff, Compiles]
  rw [← each, compile, RuleSet.compile_eq]
  cases entry.patterns.mapM RuleSet.compilePattern <;>
    simp [Except.map, mapError_ok, mapError_error]

/-- An entry with a pattern that is refused does not compile. -/
theorem FirstRefused.not_compiles {bad : BadPattern} (first : entry.FirstRefused bad) :
    ¬ entry.Compiles := by
  obtain ⟨before, rule, after, patterns_eq, -, -, refused⟩ := first
  intro compiles
  obtain ⟨regex, accepted⟩ := compiles rule (by simp [patterns_eq])
  rw [refused] at accepted
  cases accepted

/-- An entry that makes something of a content has no pattern that is refused. -/
theorem compiles_of_substituted? {content substituted : Bytes}
    (made : entry.substituted? content = some substituted) : entry.Compiles := by
  unfold substituted? at made
  unfold Compiles
  generalize entry.literals.foldl _ content = start at made
  generalize entry.patterns = patterns at made ⊢
  induction patterns generalizing start with
  | nil => simp
  | cons rule patterns ih =>
    rw [List.foldlM_cons] at made
    cases accepted : Pattern.Regex.compile rule.find with
    | error reason => simp [Substitution.replacePattern?, accepted] at made
    | ok regex =>
      obtain ⟨next, -, rest⟩ := Option.bind_eq_some_iff.mp made
      exact List.forall_mem_cons.mpr ⟨⟨regex, accepted⟩, ih next rest⟩

theorem exists_substituted?_iff {content : Bytes} :
    (∃ substituted, entry.substituted? content = some substituted) ↔ entry.Compiles := by
  constructor
  · rintro ⟨substituted, made⟩
    exact compiles_of_substituted? made
  · intro compiles
    have compilable : ∃ rules, entry.compile entry.file = .ok rules :=
      exists_compile_eq_ok_iff.mpr compiles
    obtain ⟨rules, compiled⟩ := compilable
    exact ⟨rules.apply content, substituted?_of_compile compiled content⟩

end Entry

end Emend
