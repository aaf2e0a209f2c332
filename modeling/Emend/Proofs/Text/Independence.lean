/-
# Literals that keep out of each other's way

Two literals that do not overlap are found in different places, and a replacement that does not
overlap a literal neither brings it about nor takes part in it.  Replacing one of two such literals
therefore acts on the pieces between the occurrences of the other one, each by itself, and it does
not matter which of the two is replaced first.
-/

import Emend.Proofs.Text.Occurrence

namespace Emend

namespace Bytes

variable {text inserted first second : Bytes}

theorem Overlap.symm (overlap : Overlap first second) : Overlap second first := by
  rcases overlap with inside | around | into | outOf
  · exact .inr (.inl inside)
  · exact .inl around
  · exact .inr (.inr (.inr into))
  · exact .inr (.inr (.inl outOf))

/-- Texts joined by an insertion, with something behind the last one, do not hold what none of them
holds and what does not begin in the last one either. -/
theorem not_infix_intercalate_append {parts : List Bytes} {behind : Bytes}
    (apart : ¬ Overlap text inserted) (free : ∀ part ∈ parts, ¬ text <:+: part)
    (last : ∀ part, parts.getLast? = some part → ¬ text <:+: part ++ behind)
    (some_parts : parts ≠ []) : ¬ text <:+: inserted.intercalate parts ++ behind := by
  induction parts with
  | nil => exact absurd rfl some_parts
  | cons part parts ih =>
    cases parts with
    | nil => simpa using last part rfl
    | cons next parts =>
      have later := ih (fun other member => free other (List.mem_cons_of_mem part member))
        (fun other is_last => last other (by simpa using is_last)) (List.cons_ne_nil next parts)
      rw [List.intercalate_cons_cons, List.append_assoc, List.append_assoc]
      intro found
      rcases infix_of_infix_around apart found with inPart | inLater
      · exact free part List.mem_cons_self inPart
      · exact later inLater

end Bytes

namespace Substitute

open Bytes (Overlap)

variable {literal replacement content inserted : Bytes} {pieces : List Bytes}

/-- A content with the replacement in place of the occurrences of a literal, if there are any. -/
def exchange (literal replacement content : Bytes) : Bytes :=
  replacement.intercalate (Substitute.pieces literal content)

/-! ## First occurrences -/

/-- The literal is not found before the end of a piece exactly if it does not occur in the piece
with all but the last byte of the literal behind it. -/
theorem notFoundBefore_iff (nonempty : literal ≠ []) (piece rest : Bytes) :
    NotFoundBefore literal (piece ++ (literal ++ rest)) piece.length ↔
      ¬ literal <:+: piece ++ literal.dropLast := by
  have positive : 0 < literal.length := List.length_pos_iff.mpr nonempty
  have short : literal.dropLast <+: literal ++ rest :=
    (List.dropLast_prefix literal).trans (List.prefix_append literal rest)
  have start : piece ++ literal.dropLast <+: piece ++ (literal ++ rest) :=
    (List.prefix_append_right_inj piece).mpr short
  constructor
  · rintro first ⟨before, behind, content_eq⟩
    have lengths := congrArg List.length content_eq
    simp only [List.length_append, List.length_dropLast] at lengths
    refine first before.length (by omega) ?_
    obtain ⟨more, whole⟩ := start
    rw [← whole, ← content_eq]
    simp [List.append_assoc]
  · intro absent position early found
    apply absent
    -- The occurrence ends before the last byte of the literal behind the piece.
    have within : ((piece ++ literal.dropLast).drop position).length ≥ literal.length := by
      simp only [List.length_drop, List.length_append, List.length_dropLast]
      omega
    have same : (piece ++ literal.dropLast).drop position <+:
        (piece ++ (literal ++ rest)).drop position := start.drop position
    have inside := List.prefix_of_prefix_length_le found same within
    exact inside.isInfix.trans (List.drop_suffix position _).isInfix

namespace Cuts

/-- The last piece ends the content. -/
theorem suffix_of_getLast? (cuts : Cuts literal content pieces) :
    ∀ piece, pieces.getLast? = some piece → piece <:+ content := by
  induction cuts with
  | whole absent => simp
  | @occurrence piece rest pieces first others ih =>
    intro last is_last
    have some_pieces : pieces ≠ [] := by cases others <;> simp
    rw [List.getLast?_cons_of_ne_nil some_pieces] at is_last
    exact ((ih last is_last).trans (List.suffix_append literal rest)).trans
      (List.suffix_append piece _)

theorem ne_nil (cuts : Cuts literal content pieces) : pieces ≠ [] := by
  cases cuts <;> simp

/-- The literal occurs exactly if the content is cut. -/
theorem infix_iff (cuts : Cuts literal content pieces) :
    literal <:+: content ↔ 1 < pieces.length := by
  cases cuts with
  | whole absent => simpa using absent
  | @occurrence piece rest pieces first others =>
    have some_pieces : 0 < pieces.length := List.length_pos_iff.mpr others.ne_nil
    simpa [List.infix_append'] using some_pieces

/-- Around an insertion that the literal does not overlap, both sides are cut as if they stood
alone. -/
theorem exists_around {before after : Bytes} {first second : List Bytes}
    (nonempty : literal ≠ []) (apart : ¬ Overlap literal inserted)
    (cutsBefore : Cuts literal before first) (cutsAfter : Cuts literal after second) :
    ∃ pieces, Cuts literal (before ++ (inserted ++ after)) pieces ∧
      ∀ replacement : Bytes, replacement.intercalate pieces =
        replacement.intercalate first ++ (inserted ++ replacement.intercalate second) := by
  induction cutsBefore with
  | @whole before absent =>
    cases cutsAfter with
    | @whole after absentAfter =>
      refine ⟨[before ++ (inserted ++ after)], .whole fun found => ?_, by simp⟩
      rcases Bytes.infix_of_infix_around apart found with inBefore | inAfter
      · exact absent inBefore
      · exact absentAfter inAfter
    | @occurrence piece rest others firstAfter later =>
      have firstHere : NotFoundBefore literal
          ((before ++ (inserted ++ piece)) ++ (literal ++ rest))
          (before ++ (inserted ++ piece)).length := by
        rw [notFoundBefore_iff nonempty] at firstAfter ⊢
        rw [List.append_assoc, List.append_assoc]
        intro found
        rcases Bytes.infix_of_infix_around apart found with inBefore | inAfter
        · exact absent inBefore
        · exact firstAfter inAfter
      refine ⟨_ :: others, by simpa using Cuts.occurrence firstHere later, fun replacement => ?_⟩
      rw [List.intercalate_cons_of_ne_nil later.ne_nil, List.intercalate_cons_of_ne_nil later.ne_nil]
      simp
  | @occurrence piece rest others firstBefore later ih =>
    obtain ⟨pieces, cuts, joined⟩ := ih
    have firstHere : NotFoundBefore literal (piece ++ (literal ++ (rest ++ (inserted ++ after))))
        piece.length := by
      rw [notFoundBefore_iff nonempty] at firstBefore ⊢
      exact firstBefore
    refine ⟨piece :: pieces, by simpa using Cuts.occurrence firstHere cuts, fun replacement => ?_⟩
    rw [List.intercalate_cons_of_ne_nil cuts.ne_nil, joined,
      List.intercalate_cons_of_ne_nil later.ne_nil]
    simp only [List.append_assoc]

end Cuts

/-! ## Exchanging a literal -/

theorem Cuts.exchange_eq (nonempty : literal ≠ []) (cuts : Cuts literal content pieces) :
    exchange literal replacement content = replacement.intercalate pieces := by
  rw [exchange, cuts.unique (pieces_cuts nonempty content)]

/-- Around an insertion that the literal does not overlap, it is exchanged on both sides. -/
theorem exchange_around (nonempty : literal ≠ []) (apart : ¬ Overlap literal inserted)
    (before after : Bytes) :
    exchange literal replacement (before ++ (inserted ++ after)) =
      exchange literal replacement before ++ (inserted ++ exchange literal replacement after) := by
  obtain ⟨pieces, cuts, joined⟩ := Cuts.exists_around nonempty apart
    (pieces_cuts nonempty before) (pieces_cuts nonempty after)
  rw [cuts.exchange_eq nonempty, joined]
  rfl

/-- In texts joined by an insertion that the literal does not overlap, it is exchanged in each. -/
theorem exchange_intercalate (nonempty : literal ≠ []) (apart : ¬ Overlap literal inserted)
    {parts : List Bytes} (some_parts : parts ≠ []) :
    exchange literal replacement (inserted.intercalate parts) =
      inserted.intercalate (parts.map (exchange literal replacement)) := by
  induction parts with
  | nil => exact absurd rfl some_parts
  | cons part parts ih =>
    cases parts with
    | nil => simp
    | cons next parts =>
      have later := ih (List.cons_ne_nil next parts)
      rw [List.intercalate_cons_cons, List.append_assoc, exchange_around nonempty apart, later]
      simp

/-- A literal is found between the same pieces after another one has been exchanged in each, if it
overlaps neither that one nor its replacement. -/
theorem Cuts.map_exchange {other : Bytes} (nonempty : literal ≠ []) (otherNonempty : other ≠ [])
    (apart : ¬ Overlap literal other) (apartReplacement : ¬ Overlap literal replacement)
    (cuts : Cuts literal content pieces) :
    Cuts literal (exchange other replacement content)
      (pieces.map (exchange other replacement)) := by
  induction cuts with
  | @whole content absent =>
    refine .whole ?_
    rw [exchange, ← getD_replace? otherNonempty]
    exact not_infix_getD_replace?_of_absent otherNonempty apartReplacement absent
  | @occurrence piece rest pieces first others ih =>
    rw [exchange_around otherNonempty (mt Overlap.symm apart), List.map_cons]
    refine .occurrence ?_ ih
    -- What stands before the literal is the end of the piece, whatever was exchanged before it.
    have otherCuts := pieces_cuts otherNonempty piece
    rw [notFoundBefore_iff nonempty] at first ⊢
    refine Bytes.not_infix_intercalate_append apartReplacement ?_ ?_ otherCuts.ne_nil
    · intro part member found
      exact first ((found.trans (otherCuts.infix_of_mem part member)).trans
        (List.prefix_append piece _).isInfix)
    · intro last is_last found
      obtain ⟨start, rfl⟩ := otherCuts.suffix_of_getLast? last is_last
      rw [List.append_assoc] at first
      exact first (found.trans (List.suffix_append start _).isInfix)

/-- It does not matter which of two literals is exchanged first if neither overlaps the other or
what the other is exchanged for. -/
theorem exchange_comm {first second inFirst inSecond : Bytes} (apart : ¬ Overlap first second)
    (apartFirst : ¬ Overlap inFirst second) (apartSecond : ¬ Overlap inSecond first)
    (content : Bytes) :
    exchange second inSecond (exchange first inFirst content) =
      exchange first inFirst (exchange second inSecond content) := by
  have nonempty := Bytes.ne_nil_of_not_overlap apart
  have secondNonempty := Bytes.ne_nil_of_not_overlap (mt Overlap.symm apart)
  have cuts := pieces_cuts nonempty content
  calc exchange second inSecond (exchange first inFirst content)
      = inFirst.intercalate ((Substitute.pieces first content).map (exchange second inSecond)) :=
        exchange_intercalate secondNonempty (mt Overlap.symm apartFirst) cuts.ne_nil
    _ = exchange first inFirst (exchange second inSecond content) :=
        ((cuts.map_exchange nonempty secondNonempty apart
          (mt Overlap.symm apartSecond)).exchange_eq nonempty).symm

/-- A literal occurs after another one has been exchanged exactly if it did before. -/
theorem infix_exchange_iff {other : Bytes} (apart : ¬ Overlap literal other)
    (apartReplacement : ¬ Overlap literal replacement) (content : Bytes) :
    literal <:+: exchange other replacement content ↔ literal <:+: content := by
  have nonempty := Bytes.ne_nil_of_not_overlap apart
  have otherNonempty := Bytes.ne_nil_of_not_overlap (mt Overlap.symm apart)
  have cuts := pieces_cuts nonempty content
  rw [cuts.infix_iff, (cuts.map_exchange nonempty otherNonempty apart apartReplacement).infix_iff,
    List.length_map]

end Substitute

/-! ## Literal rules -/

namespace Rule

open Bytes (Overlap)
open Substitute (exchange)

theorem isEmpty_eq_false {rule : Substitution} (nonempty : Bytes.ofText rule.find ≠ []) :
    rule.find.isEmpty = false := by
  cases empty : rule.find.isEmpty with
  | false => rfl
  | true =>
    rw [String.isEmpty_iff] at empty
    exact absurd (by rw [empty]; rfl) nonempty

theorem apply_literal {rule : Substitution} (nonempty : Bytes.ofText rule.find ≠ [])
    (content : Bytes) :
    (literal rule).apply content =
      exchange (Bytes.ofText rule.find) (Bytes.ofText rule.replacement) content := by
  rw [exchange, ← Substitute.getD_replace? nonempty]
  simp [apply, substitute?, Substitution.applyLiteral, isEmpty_eq_false nonempty]

theorem isSome_substitute?_literal {rule : Substitution} (nonempty : Bytes.ofText rule.find ≠ [])
    (content : Bytes) :
    ((literal rule).substitute? content).isSome = true ↔ Bytes.ofText rule.find <:+: content := by
  simp only [substitute?, Substitution.applyLiteral, isEmpty_eq_false nonempty,
    Bool.false_eq_true, if_false]
  by_cases found : Bytes.ofText rule.find <:+: content
  · simp [Substitute.replace?_eq_some_of_infix nonempty found, found]
  · simp [Substitute.replace?_eq_none_of_absent nonempty found, found]

/-- Of two literal rules that keep out of each other's way either may come first: the result is the
same, and each of the two reports a change in one order exactly if it does in the other.  That no
two of these texts overlap implies that none of them is empty. -/
theorem independent_literals_commute (first second : Substitution)
    (apart : ¬ Overlap (Bytes.ofText first.find) (Bytes.ofText second.find))
    (apartFirst : ¬ Overlap (Bytes.ofText first.replacement) (Bytes.ofText second.find))
    (apartSecond : ¬ Overlap (Bytes.ofText second.replacement) (Bytes.ofText first.find))
    (content : Bytes) :
    (literal second).apply ((literal first).apply content) =
      (literal first).apply ((literal second).apply content) ∧
    (((literal first).substitute? content).isSome ↔
      ((literal first).substitute? ((literal second).apply content)).isSome) ∧
    (((literal second).substitute? ((literal first).apply content)).isSome ↔
      ((literal second).substitute? content).isSome) := by
  have nonempty := Bytes.ne_nil_of_not_overlap apart
  have secondNonempty := Bytes.ne_nil_of_not_overlap (mt Overlap.symm apart)
  simp only [apply_literal nonempty, apply_literal secondNonempty,
    isSome_substitute?_literal nonempty, isSome_substitute?_literal secondNonempty]
  refine ⟨Substitute.exchange_comm apart apartFirst apartSecond content, ?_, ?_⟩
  · exact (Substitute.infix_exchange_iff apart (mt Overlap.symm apartSecond) content).symm
  · exact Substitute.infix_exchange_iff (mt Overlap.symm apart) (mt Overlap.symm apartFirst) content

/-- A literal that overlaps itself next to occurrences of another one. -/
theorem independent_literals_commute_of_adjacent :
    let first : Substitution := ⟨"aba", "c"⟩
    let second : Substitution := ⟨"xx", "yz"⟩
    let content := Bytes.ofText "xxababaxxxaba"
    ¬ Overlap (Bytes.ofText first.find) (Bytes.ofText second.find) ∧
      ¬ Overlap (Bytes.ofText first.replacement) (Bytes.ofText second.find) ∧
      ¬ Overlap (Bytes.ofText second.replacement) (Bytes.ofText first.find) ∧
      (literal second).apply ((literal first).apply content) = Bytes.ofText "yzcbayzxc" ∧
      (literal first).apply ((literal second).apply content) = Bytes.ofText "yzcbayzxc" := by
  intro first second content
  have apart : ¬ Overlap (Bytes.ofText first.find) (Bytes.ofText second.find) := by decide
  have apartFirst : ¬ Overlap (Bytes.ofText first.replacement) (Bytes.ofText second.find) := by
    decide
  have apartSecond : ¬ Overlap (Bytes.ofText second.replacement) (Bytes.ofText first.find) := by
    decide
  have oneOrder :
      (literal second).apply ((literal first).apply content) = Bytes.ofText "yzcbayzxc" := by
    decide
  refine ⟨apart, apartFirst, apartSecond, oneOrder, ?_⟩
  rw [← (independent_literals_commute first second apart apartFirst apartSecond content).1]
  exact oneOrder

end Rule

end Emend
