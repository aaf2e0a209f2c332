/-
# Between characters

A byte that begins a character is never one that continues another, so an encoding that occurs
anywhere in a content is one of its segments.  An empty literal is found between segments, and a
literal that occurs in a well-formed text begins and ends between characters: replacing it keeps the
text well formed.
-/

import Emend.Proofs.Rule
import Emend.Proofs.Text.Independence
import Emend.Proofs.Text.Utf8

namespace Emend

namespace Utf8

/-- The first byte of a character does not continue one, and all others do. -/
theorem exists_lead (c : Char) :
    ∃ lead tails, String.utf8EncodeChar c = lead :: tails ∧ isTail lead = false ∧
      ∀ b ∈ tails, isTail b = true := by
  have not_tail {lead : UInt8} (out : lead.toNat < 0x80 ∨ 0xC0 ≤ lead.toNat) :
      isTail lead = false := by
    rw [Bool.eq_false_iff, Ne, isTail_iff_toNat]
    omega
  have tail_of_second {lead x : UInt8} (second : isSecond lead x = true) : isTail x = true :=
    isTail_iff_toNat.mpr (isSecond_iff.mp second).1
  have encodes := encodes_utf8EncodeChar c
  generalize String.utf8EncodeChar c = bytes, c.toNat = value at encodes
  cases encodes with
  | one range => exact ⟨_, [], rfl, not_tail (.inl range), by simp⟩
  | two range x_tail => exact ⟨_, _, rfl, not_tail (.inr (by omega)), by simpa using x_tail⟩
  | three range x_second y_tail =>
    exact ⟨_, _, rfl, not_tail (.inr (by omega)), by simp [tail_of_second x_second, y_tail]⟩
  | four range x_second y_tail z_tail =>
    exact ⟨_, _, rfl, not_tail (.inr (by omega)),
      by simp [tail_of_second x_second, y_tail, z_tail]⟩

/-- No character begins inside another one. -/
theorem not_prefix_inside {c d : Char} {before behind rest : Bytes}
    (some_before : before ≠ []) (some_behind : behind ≠ [])
    (split : String.utf8EncodeChar d = before ++ behind) :
    ¬ String.utf8EncodeChar c <+: behind ++ rest := by
  obtain ⟨lead, tails, encoded, -, areTails⟩ := exists_lead d
  obtain ⟨otherLead, otherTails, otherEncoded, notTail, -⟩ := exists_lead c
  rw [encoded] at split
  obtain ⟨first, before, rfl⟩ := List.exists_cons_of_ne_nil some_before
  obtain ⟨b, behind, rfl⟩ := List.exists_cons_of_ne_nil some_behind
  rw [otherEncoded, List.cons_append, List.cons_prefix_cons]
  rintro ⟨rfl, -⟩
  rw [List.cons_append, List.cons.injEq] at split
  have tail : isTail otherLead = true := areTails otherLead (by simp [split.2])
  rw [notTail] at tail
  cases tail

/-- An encoding that occurs in a content is one of its segments. -/
theorem Segmented.exists_segment {content : Bytes} {segments : List Bytes}
    (segmented : Segmented content segments) {c : Char} {before after : Bytes}
    (content_eq : content = before ++ (String.utf8EncodeChar c ++ after)) :
    ∃ earlier later, segments = earlier ++ String.utf8EncodeChar c :: later ∧
      earlier.flatten = before ∧ Segmented after later := by
  induction segmented generalizing before with
  | nil =>
    have empty := (List.append_eq_nil_iff.mp content_eq.symm).2
    exact absurd (List.append_eq_nil_iff.mp empty).1 String.utf8EncodeChar_ne_nil
  | @character d rest segments others ih =>
    rcases List.append_eq_append_iff.mp content_eq with ⟨more, rfl, rest_eq⟩ | ⟨inside, split, stands⟩
    · obtain ⟨earlier, later, rfl, rfl, segmented⟩ := ih rest_eq
      exact ⟨String.utf8EncodeChar d :: earlier, later, by simp, by simp, segmented⟩
    · by_cases some_before : before = []
      · -- The segment that begins here is the encoding itself.
        subst some_before
        rw [List.nil_append] at split
        subst split
        obtain rfl : d = c := eq_of_prefix ⟨after, stands⟩ (List.prefix_append _ rest)
        rw [← List.append_cancel_left stands] at others
        exact ⟨[], segments, rfl, rfl, others⟩
      · by_cases some_inside : inside = []
        · subst some_inside
          have rest_eq : rest = [] ++ (String.utf8EncodeChar c ++ after) := by simpa using stands.symm
          obtain ⟨earlier, later, rfl, empty, segmented⟩ := ih rest_eq
          refine ⟨String.utf8EncodeChar d :: earlier, later, by simp, ?_, segmented⟩
          rw [List.flatten_cons, empty, split, List.append_nil, List.append_nil]
        · exact absurd ⟨after, stands⟩ (not_prefix_inside some_before some_inside split)
  | @byte b rest segments alone others ih =>
    cases before with
    | nil => exact absurd ⟨after, content_eq.symm⟩ (alone c)
    | cons first before =>
      rw [List.cons_append, List.cons.injEq] at content_eq
      obtain ⟨rfl, rest_eq⟩ := content_eq
      obtain ⟨earlier, later, rfl, rfl, segmented⟩ := ih rest_eq
      exact ⟨[b] :: earlier, later, by simp, by simp, segmented⟩

/-- The segments of a text are the encodings of its characters. -/
theorem segmented_ofChars (chars : List Char) :
    Segmented (Bytes.ofChars chars) (chars.map String.utf8EncodeChar) := by
  induction chars with
  | nil => exact .nil
  | cons c chars ih => exact .character c ih

end Utf8

/-! ## Empty literals -/

namespace Substitution

open Utf8 (Chunk)

/-- An insertion before every segment and at the end. -/
theorem insertAtBoundaries_eq (inserted content : Bytes) :
    applyLiteral.insertAtBoundaries inserted content =
      (Utf8.segments content).flatMap (inserted ++ ·) ++ inserted := by
  have chunk_eq (chunk : Chunk) :
      (chunk.valid.flatMap fun c => inserted ++ String.utf8EncodeChar c) ++
          (chunk.invalid.flatMap fun b => inserted ++ [b]) =
        chunk.segments.flatMap (inserted ++ ·) := by
    simp [Chunk.segments, List.flatMap_map]
  simp only [applyLiteral.insertAtBoundaries, chunk_eq]
  rw [← List.flatMap_assoc, Utf8.flatMap_segments_chunks]

theorem flatMap_before_eq_after (inserted : Bytes) (segments : List Bytes) :
    segments.flatMap (inserted ++ ·) ++ inserted = inserted ++ segments.flatMap (· ++ inserted) := by
  induction segments with
  | nil => simp
  | cons segment segments ih => simp [List.flatMap_cons, List.append_assoc, ih]

end Substitution

theorem Rule.substitute?_empty_literal (replacement : String) (content : Bytes) :
    (Rule.literal ⟨"", replacement⟩).substitute? content =
      some (Bytes.ofText replacement ++
        (Utf8.segments content).flatMap (· ++ Bytes.ofText replacement)) := by
  rw [← Substitution.flatMap_before_eq_after, ← Substitution.insertAtBoundaries_eq]
  rfl

open Utf8 (Segmented) in
/-- An empty literal is found before the first segment of a content, between any two and after the
last, whatever the content is.  The segments are all of the content, they are the only ones into
which it can be cut, and an encoding of a character that occurs anywhere is one of them. -/
theorem Rule.empty_literal_inserts_between_segments (replacement : String) (content : Bytes) :
    let inserted := Bytes.ofText replacement
    ∃ segments : List Bytes,
      (Segmented content segments ∧ ∀ others, Segmented content others → others = segments) ∧
      segments.flatten = content ∧
      (Rule.literal ⟨"", replacement⟩).substitute? content =
        some (inserted ++ segments.flatMap (· ++ inserted)) ∧
      (Rule.literal ⟨"", replacement⟩).apply content =
        inserted ++ segments.flatMap (· ++ inserted) ∧
      ∀ before c after, content = before ++ (String.utf8EncodeChar c ++ after) →
        ∃ earlier later, segments = earlier ++ String.utf8EncodeChar c :: later ∧
          earlier.flatten = before ∧ later.flatten = after := by
  intro inserted
  have segmented := Utf8.segments_segmented content
  have substituted := Rule.substitute?_empty_literal replacement content
  refine ⟨Utf8.segments content, ⟨segmented, fun others => segmented.unique⟩,
    segmented.flatten_eq, substituted, ?_, ?_⟩
  · rw [Rule.apply, substituted]
    rfl
  · intro before c after content_eq
    obtain ⟨earlier, later, segments_eq, before_eq, rest⟩ := segmented.exists_segment content_eq
    exact ⟨earlier, later, segments_eq, before_eq, rest.flatten_eq⟩

/-! ## Well-formed contents -/

namespace Bytes

/-- A content that encodes a sequence of characters. -/
def IsText (content : Bytes) : Prop := ∃ chars, content = ofChars chars

variable {content literal replacement before after : Bytes}

theorem isText_ofText (text : String) : IsText (ofText text) := ⟨text.toList, rfl⟩

theorem IsText.exists_ofText (isText : IsText content) : ∃ text, content = ofText text := by
  obtain ⟨chars, rfl⟩ := isText
  exact ⟨String.ofList chars, by rw [ofText, String.toList_ofList]⟩

theorem IsText.append (first : IsText before) (second : IsText after) :
    IsText (before ++ after) := by
  obtain ⟨chars, rfl⟩ := first
  obtain ⟨others, rfl⟩ := second
  exact ⟨chars ++ others, (ofChars_append chars others).symm⟩

theorem IsText.intercalate {parts : List Bytes} (inserted : IsText literal)
    (all : ∀ part ∈ parts, IsText part) : IsText (literal.intercalate parts) := by
  induction parts with
  | nil => exact ⟨[], rfl⟩
  | cons part parts ih =>
    have later := ih fun other member => all other (List.mem_cons_of_mem part member)
    have first := all part List.mem_cons_self
    cases parts with
    | nil => simpa using first
    | cons next parts =>
      rw [List.intercalate_cons_cons]
      exact (first.append inserted).append later

theorem IsText.flatMap_append {segments : List Bytes} (inserted : IsText literal)
    (all : ∀ segment ∈ segments, IsText segment) :
    IsText (segments.flatMap (· ++ literal)) := by
  induction segments with
  | nil => exact ⟨[], rfl⟩
  | cons segment segments ih =>
    have later := ih fun other member => all other (List.mem_cons_of_mem segment member)
    exact ((all segment List.mem_cons_self).append inserted).append later

/-- What stands behind a text in a text is one. -/
theorem IsText.of_ofChars_append {chars : List Char} (isText : IsText (ofChars chars ++ after)) :
    IsText after := by
  induction chars with
  | nil => exact isText
  | cons c chars ih =>
    obtain ⟨all, whole⟩ := isText
    rw [ofChars_cons, List.append_assoc] at whole
    cases all with
    | nil => exact absurd (List.append_eq_nil_iff.mp whole).1 String.utf8EncodeChar_ne_nil
    | cons d all =>
      rw [ofChars_cons] at whole
      obtain rfl : d = c := Utf8.eq_of_prefix ⟨_, whole⟩ (List.prefix_append _ _)
      exact ih ⟨all, List.append_cancel_left whole⟩

/-- A text that occurs in a text, unless it is empty, has texts before and behind it. -/
theorem IsText.around (isText : IsText (before ++ (literal ++ after))) (isLiteral : IsText literal)
    (nonempty : literal ≠ []) : IsText before ∧ IsText after := by
  obtain ⟨chars, whole⟩ := isText
  obtain ⟨literalChars, rfl⟩ := isLiteral
  obtain ⟨c, others, rfl⟩ : ∃ c others, literalChars = c :: others :=
    List.exists_cons_of_ne_nil (by rintro rfl; exact nonempty rfl)
  rw [ofChars_cons, List.append_assoc] at whole
  obtain ⟨earlier, later, segments_eq, before_eq, -⟩ :=
    (Utf8.segmented_ofChars chars).exists_segment whole.symm
  obtain ⟨front, back, rfl, front_eq, back_eq⟩ := List.map_eq_append_iff.mp segments_eq
  have isBefore : before = ofChars front := by
    rw [← before_eq, ← front_eq, ofChars, List.flatMap_def]
  subst isBefore
  refine ⟨⟨front, rfl⟩, ?_⟩
  rw [ofChars_append, ← List.append_assoc (String.utf8EncodeChar c), ← ofChars_cons] at whole
  exact IsText.of_ofChars_append ⟨back, List.append_cancel_left whole⟩

end Bytes

namespace Substitute

open Bytes (IsText)

/-- The pieces of a text around the occurrences of a text are texts. -/
theorem Cuts.isText {literal content : Bytes} {pieces : List Bytes} (isLiteral : IsText literal)
    (nonempty : literal ≠ []) (cuts : Cuts literal content pieces) (isText : IsText content) :
    ∀ piece ∈ pieces, IsText piece := by
  induction cuts with
  | whole absent => simpa using isText
  | occurrence first others ih =>
    obtain ⟨isPiece, isRest⟩ := isText.around isLiteral nonempty
    exact List.forall_mem_cons.mpr ⟨isPiece, ih isRest⟩

end Substitute

namespace Rule

open Bytes (IsText)

/-- A literal rule makes a text of a text. -/
theorem isText_apply_literal (rule : Substitution) {content : Bytes} (isText : IsText content) :
    IsText ((literal rule).apply content) := by
  have inserted := Bytes.isText_ofText rule.replacement
  by_cases empty : rule.find = ""
  · obtain ⟨find, replacement⟩ := rule
    subst empty
    obtain ⟨chars, rfl⟩ := isText
    have segments_eq : Utf8.segments (Bytes.ofChars chars) = chars.map String.utf8EncodeChar :=
      (Utf8.segmented_ofChars chars).unique (Utf8.segments_segmented _)
    rw [apply, substitute?_empty_literal, Option.getD_some, segments_eq]
    refine inserted.append (inserted.flatMap_append ?_)
    intro segment member
    obtain ⟨c, -, rfl⟩ := List.mem_map.mp member
    exact ⟨[c], by simp⟩
  · have nonempty := Bytes.ofText_ne_nil empty
    rw [apply_literal nonempty]
    exact inserted.intercalate
      ((Substitute.pieces_cuts nonempty content).isText (Bytes.isText_ofText rule.find) nonempty
        isText)

end Rule

namespace RuleSet

open Bytes (IsText)

theorem compile_literals (literals : List Substitution) :
    compile literals [] = .ok (literals.map Rule.literal) := by
  rw [compile_eq]
  exact congrArg Except.ok (List.append_nil _)

/-- After each step of literal rules a text is still one. -/
theorem isText_of_mem_steps (literals : List Substitution) {content : Bytes}
    (isText : IsText content) :
    ∀ step ∈ steps (literals.map Rule.literal) content, IsText step.content := by
  induction literals generalizing content with
  | nil => simp [steps]
  | cons rule literals ih =>
    have next := Rule.isText_apply_literal rule isText
    rw [List.map_cons, steps]
    rw [Rule.apply] at next
    cases substituted : (Rule.literal rule).substitute? content with
    | some changed =>
      rw [substituted, Option.getD_some] at next
      exact List.forall_mem_cons.mpr ⟨next, ih next⟩
    | none => exact List.forall_mem_cons.mpr ⟨isText, ih isText⟩

theorem isText_apply_literals (literals : List Substitution) {content : Bytes}
    (isText : IsText content) : IsText (apply (literals.map Rule.literal) content) := by
  induction literals generalizing content with
  | nil => exact isText
  | cons rule literals ih => exact ih (Rule.isText_apply_literal rule isText)

theorem map_rule_steps (rules : RuleSet) (content : Bytes) :
    (rules.steps content).map Step.rule = rules := by
  induction rules generalizing content with
  | nil => rfl
  | cons rule rules ih =>
    rw [steps]
    cases rule.substitute? content <;> simp [ih]

/-- Literal rules always compile, and whatever they look for and insert, they keep a text well
formed: the content is a text after each of them, and so is the result if there is no formatter. -/
theorem literals_keep_text (literals : List Substitution) (text : String) :
    ∃ rules, compile literals [] = .ok rules ∧
      (rules.steps (Bytes.ofText text)).map Step.rule = literals.map Rule.literal ∧
      (∀ step ∈ rules.steps (Bytes.ofText text), ∃ after, step.content = Bytes.ofText after) ∧
      ∃ result, rules.emend none (Bytes.ofText text) = .ok (Bytes.ofText result) := by
  have isText := Bytes.isText_ofText text
  refine ⟨literals.map Rule.literal, compile_literals literals, map_rule_steps _ _, ?_, ?_⟩
  · intro step member
    exact (isText_of_mem_steps literals isText step member).exists_ofText
  · obtain ⟨result, result_eq⟩ := (isText_apply_literals literals isText).exists_ofText
    exact ⟨result, by rw [emend, result_eq]⟩

end RuleSet

end Emend
