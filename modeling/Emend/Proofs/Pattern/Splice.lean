/-
# Pattern rules splice a content

A pattern rule puts the expansion of its template in the place of each match and touches nothing
else: the bytes between the matches stay as they are, in their order.
-/

import Emend.Proofs.Pattern.Found
import Emend.Proofs.Pattern.Template
import Emend.Proofs.Text.Positions
import Emend.Rule

namespace Emend

namespace Pattern

namespace Regex

variable {regex : Regex} {content : Bytes} {position : Nat} {hits : List Match}

/-! ## Replacing what is found -/

/-- A content from a position on, with other bytes in the place of matches. -/
def spliced (content : Bytes) (replacement : Match → Bytes) (position : Nat) : List Match → Bytes
  | [] => content.drop position
  | found :: later =>
    content.extract position found.start ++
      (replacement found ++ spliced content replacement found.stop later)

/-- Matches from a position on lie one after the other. -/
inductive InOrder : Nat → List Match → Prop where
  | nil {position : Nat} : InOrder position []
  | cons {position : Nat} {found : Match} {later : List Match} (position_le : position ≤ found.start)
      (start_le : found.start ≤ found.stop) (others : InOrder found.stop later) :
      InOrder position (found :: later)

theorem InOrder.anti {earlier : Nat} (inOrder : InOrder position hits)
    (le : earlier ≤ position) : InOrder earlier hits := by
  cases inOrder with
  | nil => exact .nil
  | cons position_le start_le others => exact .cons (Nat.le_trans le position_le) start_le others

theorem Scans.inOrder (sound : regex.IsSound) {lastStop : Option Nat} {content : Array UInt8}
    (scans : Scans regex content position lastStop hits) : InOrder position hits := by
  induction scans with
  | done => exact .nil
  | passed _ _ _ _ ih => exact ih.anti (Nat.le_succ _)
  | counted finds _ _ ih =>
    have isFound := isFound_of_find? sound finds
    exact .cons isFound.position_le isFound.start_le ih

theorem spliceFrom_eq (replacement : Match → Bytes) (inOrder : InOrder position hits)
    (done : Bytes) :
    spliceFrom replacement position done hits (content.drop position) =
      done.reverse ++ spliced content replacement position hits := by
  induction inOrder generalizing done with
  | nil => rfl
  | @cons position found later position_le start_le others ih =>
    have position_add : position + (found.stop - position) = found.stop := by omega
    rw [spliceFrom, List.drop_drop, position_add, ih, spliced]
    simp

/-- With their own bytes in the place of matches a content stays as it is. -/
theorem spliced_self (inOrder : InOrder position hits) :
    spliced content (fun found => content.extract found.start found.stop) position hits =
      content.drop position := by
  induction inOrder with
  | nil => rfl
  | @cons position found later position_le start_le others ih =>
    calc spliced content (fun found => content.extract found.start found.stop) position
          (found :: later)
        = content.extract position found.start ++
            (content.extract found.start found.stop ++ content.drop found.stop) := by
          rw [spliced, ih]
      _ = content.extract position found.start ++ content.drop found.start := by
          rw [Bytes.extract_append_drop start_le]
      _ = content.drop position := Bytes.extract_append_drop position_le

theorem spliced_congr {first second : Match → Bytes} {found : List Match}
    (same : ∀ hit ∈ found, first hit = second hit) :
    spliced content first position found = spliced content second position found := by
  induction found generalizing position with
  | nil => rfl
  | cons hit later ih =>
    obtain ⟨head, others⟩ := List.forall_mem_cons.mp same
    rw [spliced, spliced, head, ih others]

/-- The text of the group with number zero is that of the match. -/
theorem groupText_zero {found : Match}
    (whole : found.groups[0]? = some (some (found.start, found.stop))) :
    groupText content.toArray found 0 = content.extract found.start found.stop := by
  simp [groupText, whole]

/-! ## Pattern rules -/

/-- What a replacement makes of a content, given the matches that repeated searches find and what the
template stands for at each. -/
structure Splices (regex : Regex) (template : String) (content : Bytes) (hits : List Match)
    (expansion : Match → Bytes) (result : Option Bytes) : Prop where
  /-- The matches are those of repeated searches, and no others. -/
  scans : ∀ others, Scans regex content.toArray 0 none others ↔ others = hits
  /-- There is at most one more than there are bytes. -/
  length_le : hits.length ≤ content.length + 1
  /-- They start and stop one after the other and share nothing. -/
  ordered : hits.Pairwise Precedes
  /-- They lie inside the content, and their groups inside them. -/
  inside : ∀ hit ∈ hits, hit.start ≤ hit.stop ∧ hit.stop ≤ content.length ∧
    ∀ index start stop : Nat, hit.groups[index]? = some (some (start, stop)) →
      hit.start ≤ start ∧ stop ≤ hit.stop
  /-- The group with number zero is the match. -/
  whole : ∀ hit ∈ hits,
    groupText content.toArray hit 0 = content.extract hit.start hit.stop
  /-- The template stands for one text at each. -/
  expands : ∀ hit text,
    Expands (referenceText (groupText content.toArray hit) regex.groupNumber?) template.toList text ↔
      text = expansion hit
  /-- The matches and what lies between them make up the content. -/
  untouched : spliced content (fun hit => content.extract hit.start hit.stop) 0 hits = content
  /-- Without a match there is no result. -/
  result_eq : result = if hits = [] then none else some (spliced content expansion 0 hits)

theorem replace?_splices (sound : regex.IsSound) (template : String) (content : Bytes) :
    regex.Splices template content (regex.allMatches content.toArray)
      (fun hit =>
        (Template.parse template).expand (groupText content.toArray hit) regex.groupNumber?)
      (regex.replace? (Template.parse template) content) := by
  have scans := scans_allMatches sound content.toArray
  have inOrder := scans.inOrder sound
  have isFound (hit : Match) (member : hit ∈ regex.allMatches content.toArray) :=
    scans.isFound sound member
  constructor
  · intro others
    exact ⟨fun again => scans.unique again, fun same => same ▸ scans⟩
  · exact Nat.le_trans (scans.length_le sound) (by simp [positionsLeft])
  · exact scans.pairwise sound
  · intro hit member
    obtain ⟨position, found⟩ := isFound hit member
    exact ⟨found.start_le, by simpa using found.stop_le, found.inside⟩
  · intro hit member
    obtain ⟨position, found⟩ := isFound hit member
    exact groupText_zero found.whole
  · exact fun hit text => Template.expands_iff template
  · exact spliced_self inOrder
  · unfold replace?
    extract_lets array
    split
    · rename_i none_found
      rw [if_pos none_found]
    · rename_i first later some_found
      have nonempty : regex.allMatches content.toArray ≠ [] := by
        rw [some_found]
        exact List.cons_ne_nil first later
      rw [if_neg nonempty, ← some_found]
      exact congrArg some (spliceFrom_eq _ inOrder [])

theorem Splices.getD_result {template : String} {hits : List Match} {expansion : Match → Bytes}
    {result : Option Bytes} (splices : regex.Splices template content hits expansion result) :
    result.getD content = spliced content expansion 0 hits := by
  rw [splices.result_eq]
  split
  · rename_i none_found
    rw [none_found]
    rfl
  · rfl

/-- Each match is what a search finds. -/
theorem Splices.exists_find?_eq_some {template : String} {hits : List Match}
    {expansion : Match → Bytes} {result : Option Bytes}
    (splices : regex.Splices template content hits expansion result) (sound : regex.IsSound)
    {hit : Match} (member : hit ∈ hits) :
    ∃ position, regex.find? content.toArray position = some hit := by
  have scans := (splices.scans hits).mpr rfl
  obtain ⟨position, found⟩ := scans.isFound sound member
  exact ⟨position, found.leftmost position (Nat.le_refl _) found.position_le⟩

/-- A template for the match itself stands for its bytes. -/
theorem Splices.expansion_of_whole {hits : List Match} {expansion : Match → Bytes}
    {result : Option Bytes} (splices : regex.Splices "$0" content hits expansion result)
    {hit : Match} (member : hit ∈ hits) :
    expansion hit = content.extract hit.start hit.stop := by
  let reference := referenceText (groupText content.toArray hit) regex.groupNumber?
  have zero : reference ['0'] = groupText content.toArray hit 0 := rfl
  have stands : Expands reference ['$', '0'] (reference ['0'] ++ []) :=
    .bare (List.cons_ne_nil '0' []) (List.forall_mem_singleton.mpr rfl) (by simp) .nil
  rw [← (splices.expands hit _).mp stands, List.append_nil, zero, splices.whole hit member]

end Regex

end Pattern

namespace Rule

open Pattern

theorem exists_splices_of_ofPattern {rule : Substitution} {compiled : Rule}
    (compiles : ofPattern rule = .ok compiled) (content : Bytes) :
    ∃ regex hits expansion, Regex.compile rule.find = .ok regex ∧
      regex.Splices rule.replacement content hits expansion (compiled.substitute? content) := by
  rw [ofPattern] at compiles
  cases compile_eq : Regex.compile rule.find with
  | error reason =>
    rw [compile_eq] at compiles
    cases compiles
  | ok regex =>
    rw [compile_eq] at compiles
    cases compiles
    have sound := Regex.isSound_of_compile compile_eq
    exact ⟨regex, _, _, rfl, Regex.replace?_splices sound rule.replacement content⟩

/-- A pattern rule takes its matches from repeated searches of the whole content and puts the
expansion of its template in the place of each.  A match is one of what the pattern means, and the
template is given the groups that have been noted in it.  Nothing else changes, and without a match
nothing is reported. -/
theorem pattern_splices_matches {rule : Substitution} {compiled : Rule}
    (compiles : ofPattern rule = .ok compiled) (content : Bytes) :
    ∃ regex tree expr hits expansion, Regex.compile rule.find = .ok regex ∧
      Tree.parse rule.find = .ok tree ∧ tree.meaning = .ok expr ∧ regex.Represents tree expr ∧
      regex.Splices rule.replacement content hits expansion (compiled.substitute? content) ∧
      (∀ hit ∈ hits, ∃ noted,
        (Expr.capture 0 expr).Matches content.toArray hit.start hit.stop noted ∧
        ∀ text, Expands (referenceText (notedText content.toArray noted) regex.groupNumber?)
          rule.replacement.toList text ↔ text = expansion hit) ∧
      compiled.apply content = Regex.spliced content expansion 0 hits ∧
      (rule.replacement = "$0" → compiled.apply content = content) := by
  obtain ⟨regex, hits, expansion, compiled_eq, splices⟩ :=
    exists_splices_of_ofPattern compiles content
  obtain ⟨tree, expr, parsed, means, represents⟩ := Regex.exists_represents_of_compile compiled_eq
  refine ⟨regex, tree, expr, hits, expansion, compiled_eq, parsed, means, represents, splices,
    fun hit member => ?_, splices.getD_result, fun whole => ?_⟩
  · have sound := Regex.isSound_of_compile compiled_eq
    obtain ⟨position, finds⟩ := splices.exists_find?_eq_some sound member
    obtain ⟨noted, matches_, groups_eq⟩ := represents.finds.isMatch finds
    refine ⟨noted, matches_, fun text => ?_⟩
    rw [← funext groups_eq]
    exact splices.expands hit text
  · rw [whole] at splices
    rw [apply, splices.getD_result,
      Regex.spliced_congr fun hit member => splices.expansion_of_whole member]
    exact splices.untouched

/-- Groups with and without a name, and a pattern that matches the empty text too: there is no empty
match after `aa`, where the last match stops. -/
theorem pattern_splices_matches_of_groups :
    let rule : Substitution := ⟨"(a*)(?<_>b?)", "<$1|$\x7b_\x7d>"⟩
    let content := Bytes.ofText "baac"
    ∃ compiled, ofPattern rule = .ok compiled ∧
      compiled.apply content = Bytes.ofText "<|b><aa|>c<|>" ∧
      ∃ regex tree expr hits expansion, Regex.compile rule.find = .ok regex ∧
        Tree.parse rule.find = .ok tree ∧ tree.meaning = .ok expr ∧ regex.Represents tree expr ∧
        regex.Splices rule.replacement content hits expansion (compiled.substitute? content) ∧
        compiled.apply content = Regex.spliced content expansion 0 hits := by
  intro rule content
  have applied : (ofPattern rule).map (·.apply content) = .ok (Bytes.ofText "<|b><aa|>c<|>") := by
    decide +kernel
  cases compiles : ofPattern rule with
  | error reason =>
    rw [compiles] at applied
    cases applied
  | ok compiled =>
    rw [compiles] at applied
    obtain ⟨regex, tree, expr, hits, expansion, compiled_eq, parsed, means, represents, splices, -,
      apply_eq, -⟩ := pattern_splices_matches compiles content
    exact ⟨compiled, rfl, Except.ok.inj applied, regex, tree, expr, hits, expansion, compiled_eq,
      parsed, means, represents, splices, apply_eq⟩

end Rule

end Emend
