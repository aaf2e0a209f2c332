/-
# Pattern rules in a text

Where nothing but characters and texts is read, and templates stand for texts, a replacement can take
a text apart only at an empty match inside of a character.  Whether it does depends on the template
alone: no group has a text there.
-/

import Emend.Proofs.Pattern.Aligned
import Emend.Proofs.Pattern.Splice

namespace Emend

namespace Pattern

open Bytes (IsText IsBoundary)

/-! ## Templates -/

/-- A reference stands for a group or for nothing. -/
theorem referenceText_cases (group : Nat → Bytes) (number? : String → Option Nat)
    (name : List Char) :
    referenceText group number? name = [] ∨
      ∃ index, referenceText group number? name = group index := by
  unfold referenceText
  split
  · exact .inr ⟨_, rfl⟩
  · cases number? (String.ofList name) with
    | none => exact .inl rfl
    | some index => exact .inr ⟨index, rfl⟩

theorem isText_referenceText {group : Nat → Bytes} (groups : ∀ index, IsText (group index))
    (number? : String → Option Nat) (name : List Char) :
    IsText (referenceText group number? name) := by
  rcases referenceText_cases group number? name with nothing | ⟨index, stands⟩
  · rw [nothing]
    exact Bytes.isText_nil
  · rw [stands]
    exact groups index

theorem referenceText_of_empty {group : Nat → Bytes} (empty : ∀ index, group index = [])
    (number? : String → Option Nat) : referenceText group number? = fun _ => [] := by
  funext name
  rcases referenceText_cases group number? name with nothing | ⟨index, stands⟩
  · exact nothing
  · rw [stands, empty]

/-- Where references stand for texts a template does. -/
theorem isText_of_expands {reference : List Char → Bytes} {chars : List Char} {bytes : Bytes}
    (references : ∀ name, IsText (reference name)) (expands : Expands reference chars bytes) :
    IsText bytes := by
  induction expands with
  | nil => exact Bytes.isText_nil
  | char plain others ih => exact (Bytes.isText_utf8EncodeChar _).append ih
  | doubled others ih => exact (Bytes.isText_utf8EncodeChar _).append ih
  | braced closes others ih => exact (references _).append ih
  | bare nonempty all longest others ih => exact (references _).append ih
  | lone alone others ih => exact (Bytes.isText_utf8EncodeChar _).append ih

/-- What a template stands for where no group has a text. -/
def Template.bareText (template : String) : Bytes :=
  (parse template).expand (fun _ => []) fun _ => none

namespace Regex

variable {regex : Regex} {content : Bytes} {position : Nat} {found : Match} {hits : List Match}

/-! ## Replacements -/

theorem isText_groupText (isAligned : found.IsAligned content) (index : Nat) :
    IsText (groupText content.toArray found index) := by
  unfold groupText
  split
  · rename_i start stop at_index
    obtain ⟨first, last⟩ := isAligned.groups index start stop at_index
    simpa using first.isText_extract last
  · exact Bytes.isText_nil

/-- Inside of a character all groups are empty. -/
theorem groupText_of_inside (isAligned : found.IsAligned content)
    (inside : ¬ IsBoundary content found.start) (index : Nat) :
    groupText content.toArray found index = [] := by
  have at_start {position : Nat} (aligned : Aligned content found.start position) :
      position = found.start := aligned.resolve_right fun boundaries => inside boundaries.1
  unfold groupText
  split
  · rename_i start stop at_index
    obtain ⟨first, last⟩ := isAligned.groups index start stop at_index
    rw [at_start first, at_start last]
    simp
  · rfl

/-- In a text, with replacements that are texts, the result is a text if and only if nothing is put
inside of a character. -/
theorem isText_spliced_iff {expansion : Match → Bytes} {earlier : Nat} (isText : IsText content)
    (inOrder : InOrder position hits) (earlier_le : earlier ≤ position)
    (boundary : IsBoundary content earlier)
    (aligned : ∀ hit ∈ hits, Aligned content hit.start hit.stop)
    (expansions : ∀ hit ∈ hits, IsText (expansion hit)) :
    IsText (content.extract earlier position ++ spliced content expansion position hits) ↔
      ∀ hit ∈ hits, ¬ IsBoundary content hit.start → expansion hit = [] := by
  induction inOrder generalizing earlier with
  | @nil position =>
    rw [spliced, Bytes.extract_append_drop earlier_le]
    simp [boundary.isText_drop isText]
  | @cons position found later position_le start_le others ih =>
    obtain ⟨foundAligned, laterAligned⟩ := List.forall_mem_cons.mp aligned
    obtain ⟨foundExpansion, laterExpansions⟩ := List.forall_mem_cons.mp expansions
    rw [spliced, ← List.append_assoc, Bytes.extract_append_extract earlier_le position_le,
      List.forall_mem_cons]
    by_cases inside : IsBoundary content found.start
    · -- the match is between characters, and a text begins where it stops
      have stop : IsBoundary content found.stop := by
        rcases foundAligned with same | ⟨-, stop⟩
        · rwa [same]
        · exact stop
      have before := boundary.isText_extract inside
      have onward := ih (Nat.le_refl found.stop) stop laterAligned laterExpansions
      rw [Bytes.extract_self, List.nil_append] at onward
      rw [before.append_iff, foundExpansion.append_iff, onward]
      simp [inside]
    · have same : found.stop = found.start := by
        rcases foundAligned with same | ⟨start, -⟩
        · exact same
        · exact absurd start inside
      have le : earlier ≤ found.start := by omega
      by_cases empty : expansion found = []
      · have onward := ih (by omega) boundary laterAligned laterExpansions
        rw [same] at onward
        rw [empty, List.nil_append, same, onward]
        simp
      · -- a text that is put inside of a character would have a text before it
        constructor
        · intro whole
          have before := (whole.around foundExpansion empty).1
          exact absurd ((boundary.isText_extract_iff le).mp before) inside
        · intro nothing
          exact absurd (nothing.1 inside) empty

/-! ## Matches and their replacements -/

variable {template : String} {expansion : Match → Bytes} {result : Option Bytes}

theorem Splices.isText_expansion
    (splices : regex.Splices template content hits expansion result)
    (isAligned : found.IsAligned content) : IsText (expansion found) := by
  have references := isText_referenceText (isText_groupText isAligned) regex.groupNumber?
  exact isText_of_expands references ((splices.expands found (expansion found)).mpr rfl)

/-- Inside of a character a template stands for what it does without groups. -/
theorem Splices.expansion_of_inside
    (splices : regex.Splices template content hits expansion result)
    (isAligned : found.IsAligned content) (inside : ¬ IsBoundary content found.start) :
    expansion found = Template.bareText template := by
  have references_eq : referenceText (groupText content.toArray found) regex.groupNumber? =
      referenceText (fun _ => []) fun _ => none := by
    rw [referenceText_of_empty (groupText_of_inside isAligned inside),
      referenceText_of_empty fun _ => rfl]
  have expands := (splices.expands found (expansion found)).mpr rfl
  rw [references_eq] at expands
  exact (Template.expands_iff template).mp expands

theorem Splices.boundaries_or_inside
    (splices : regex.Splices template content hits expansion result)
    (isAligned : found.IsAligned content) :
    (IsBoundary content found.start ∧ IsBoundary content found.stop) ∨
      (found.start = found.stop ∧ expansion found = Template.bareText template) := by
  rcases isAligned.stop with same | boundaries
  · by_cases inside : IsBoundary content found.start
    · exact .inl ⟨inside, by rwa [same]⟩
    · exact .inr ⟨same.symm, splices.expansion_of_inside isAligned inside⟩
  · exact .inl boundaries

/-- The result is a text if and only if no match is inside of a character or nothing is put there. -/
theorem Splices.isText_spliced_iff
    (splices : regex.Splices template content hits expansion result) (isText : IsText content)
    (inOrder : InOrder 0 hits) (aligned : ∀ hit ∈ hits, hit.IsAligned content) :
    IsText (spliced content expansion 0 hits) ↔
      Template.bareText template = [] ∨ ∀ hit ∈ hits, IsBoundary content hit.start := by
  have inner (hit : Match) (member : hit ∈ hits) (inside : ¬ IsBoundary content hit.start) :
      expansion hit = Template.bareText template :=
    splices.expansion_of_inside (aligned hit member) inside
  have spliced_iff := Regex.isText_spliced_iff isText inOrder (Nat.le_refl 0)
    (Bytes.isBoundary_zero content) (fun hit member => (aligned hit member).stop)
    (fun hit member => splices.isText_expansion (aligned hit member))
  rw [Bytes.extract_self, List.nil_append] at spliced_iff
  rw [spliced_iff]
  constructor
  · intro nothing_inside
    by_cases empty : Template.bareText template = []
    · exact .inl empty
    · refine .inr fun hit member => ?_
      by_contra inside
      rw [← inner hit member inside] at empty
      exact empty (nothing_inside hit member inside)
  · intro kept hit member inside
    rcases kept with empty | boundaries
    · rw [inner hit member inside, empty]
    · exact absurd (boundaries hit member) inside

end Regex

end Pattern

namespace Rule

open Pattern
open Bytes (IsText IsBoundary)

/-- With a pattern that nowhere turns Unicode off, a match in a text starts and stops between
characters, unless it is empty and inside of one, and what a template stands for is a text.  So the
result is a text if and only if no match is inside of a character or nothing is put there. -/
theorem pattern_keeps_text_iff {rule : Substitution} {compiled : Rule} {tree : Tree}
    (compiles : ofPattern rule = .ok compiled) (parsed : Tree.parse rule.find = .ok tree)
    (keeps : tree.keepsUnicode = true) (text : String) :
    let content := Bytes.ofText text
    let inserted := Template.bareText rule.replacement
    ∃ regex hits expansion, Regex.compile rule.find = .ok regex ∧
      regex.Splices rule.replacement content hits expansion (compiled.substitute? content) ∧
      compiled.apply content = Regex.spliced content expansion 0 hits ∧
      (∀ hit ∈ hits, IsText (expansion hit)) ∧
      (∀ hit ∈ hits, (IsBoundary content hit.start ∧ IsBoundary content hit.stop) ∨
        (hit.start = hit.stop ∧ expansion hit = inserted)) ∧
      ((∃ result, compiled.apply content = Bytes.ofText result) ↔
        inserted = [] ∨ ∀ hit ∈ hits, IsBoundary content hit.start) := by
  intro content inserted
  have isText : IsText content := Bytes.isText_ofText text
  obtain ⟨regex, hits, expansion, compiled_eq, splices⟩ :=
    exists_splices_of_ofPattern compiles content
  have sound := Regex.isSound_of_compile compiled_eq
  have textual := Regex.isTextual_of_compile compiled_eq parsed keeps
  have scans := (splices.scans hits).mpr rfl
  have aligned := scans.isAligned sound textual isText
  have apply_eq : compiled.apply content = Regex.spliced content expansion 0 hits :=
    splices.getD_result
  have isText_iff := splices.isText_spliced_iff isText (scans.inOrder sound) aligned
  rw [← apply_eq] at isText_iff
  refine ⟨regex, hits, expansion, compiled_eq, splices, apply_eq, ?_, ?_, ?_⟩
  · exact fun hit member => splices.isText_expansion (aligned hit member)
  · exact fun hit member => splices.boundaries_or_inside (aligned hit member)
  · rw [← isText_iff]
    constructor
    · rintro ⟨result, result_eq⟩
      rw [result_eq]
      exact Bytes.isText_ofText result
    · exact IsText.exists_ofText

/-- A pattern that matches the empty text too, but not inside of the characters of this text. -/
theorem pattern_keeps_text_iff_of_whole_characters :
    let rule : Substitution := ⟨"é*", "<$0>"⟩
    let content := Bytes.ofText "aéé"
    ∃ compiled tree, ofPattern rule = .ok compiled ∧ Tree.parse rule.find = .ok tree ∧
      tree.keepsUnicode = true ∧ compiled.apply content = Bytes.ofText "<>a<éé>" ∧
      ∃ regex hits expansion, Regex.compile rule.find = .ok regex ∧
        regex.Splices rule.replacement content hits expansion (compiled.substitute? content) ∧
        ∀ hit ∈ hits, IsBoundary content hit.start := by
  intro rule content
  have applied : (ofPattern rule).map (·.apply content) = .ok (Bytes.ofText "<>a<éé>") := by
    decide +kernel
  have kept : (Tree.parse rule.find).map (·.keepsUnicode) = .ok true := by decide +kernel
  have some_inserted : Template.bareText rule.replacement ≠ [] := by decide +kernel
  obtain ⟨compiled, compiles, apply_eq⟩ := map_eq_ok_iff.mp applied
  obtain ⟨tree, parsed, keeps⟩ := map_eq_ok_iff.mp kept
  obtain ⟨regex, hits, expansion, compiled_eq, splices, -, -, -, isText_iff⟩ :=
    pattern_keeps_text_iff compiles parsed keeps "aéé"
  have boundaries := (isText_iff.mp ⟨_, apply_eq⟩).resolve_left some_inserted
  exact ⟨compiled, tree, compiles, parsed, keeps, apply_eq, regex, hits, expansion, compiled_eq,
    splices, boundaries⟩

/-- The empty pattern matches inside of a character too, and what is put there takes the character
apart. -/
theorem pattern_breaks_text_of_empty :
    ¬ ∀ (rule : Substitution) (compiled : Rule) (tree : Tree) (text : String),
      ofPattern rule = .ok compiled → Tree.parse rule.find = .ok tree →
        tree.keepsUnicode = true →
          ∃ result, compiled.apply (Bytes.ofText text) = Bytes.ofText result := by
  intro claimed
  let rule : Substitution := ⟨"(?:)", "|"⟩
  have applied : (ofPattern rule).map (·.apply (Bytes.ofText "é")) =
      .ok ([0x7C] ++ [0xC3, 0x7C, 0xA9, 0x7C]) := by
    decide +kernel
  have kept : (Tree.parse rule.find).map (·.keepsUnicode) = .ok true := by decide +kernel
  obtain ⟨compiled, compiles, apply_eq⟩ := map_eq_ok_iff.mp applied
  obtain ⟨tree, parsed, keeps⟩ := map_eq_ok_iff.mp kept
  obtain ⟨result, result_eq⟩ := claimed rule compiled tree "é" compiles parsed keeps
  have isText : IsText ([0x7C] ++ [0xC3, 0x7C, 0xA9, 0x7C]) := by
    rw [← apply_eq, result_eq]
    exact Bytes.isText_ofText result
  have bar : IsText [0x7C] := Bytes.isText_singleton (by decide)
  have isRest : IsText [0xC3, 0x7C, 0xA9, 0x7C] := bar.append_iff.mp isText
  exact isRest.scalar?_ne_none (by simp) (by decide)

end Rule

end Emend
