/-
# What a literal substitution leaves

The scan of `Substitute.pieces` keeps a piece under way and the pieces before it; here it is shown
to cut a content at its leftmost occurrences.  No piece holds the literal, so after a substitution
the literal is gone unless the replacement brings it back, and so is every other text that was not
there before and does not overlap the replacement.
-/

import Emend.Proofs.Text.Overlap
import Emend.Text.Substitute

namespace Emend.Substitute

open Bytes (Overlap)

/-- No occurrence of a literal begins at one of the first positions of a content. -/
def NotFoundBefore (literal content : Bytes) (position : Nat) : Prop :=
  ∀ earlier < position, ¬ literal <+: content.drop earlier

/-- The parts of a content around the occurrences of a literal, each of which is the first one in
what the ones before it leave. -/
inductive Cuts (literal : Bytes) : Bytes → List Bytes → Prop
  | whole {content : Bytes} (absent : ¬ literal <:+: content) : Cuts literal content [content]
  | occurrence {piece rest : Bytes} {pieces : List Bytes}
      (first : NotFoundBefore literal (piece ++ (literal ++ rest)) piece.length)
      (others : Cuts literal rest pieces) :
      Cuts literal (piece ++ (literal ++ rest)) (piece :: pieces)

/-- A nonempty literal that is not found before the end of a piece does not occur in the piece. -/
theorem not_infix_of_notFoundBefore {literal piece rest : Bytes} (nonempty : literal ≠ [])
    (first : NotFoundBefore literal (piece ++ rest) piece.length) : ¬ literal <:+: piece := by
  rintro ⟨before, after, rfl⟩
  have positive : 0 < literal.length := List.length_pos_iff.mpr nonempty
  have earlier : before.length < (before ++ literal ++ after).length := by
    simp only [List.length_append]
    omega
  apply first before.length earlier
  simp [List.append_assoc]

/-! ## The scan -/

/-- The scan finds the leftmost occurrences, if none has been passed over in the piece under way. -/
theorem piecesFrom_cuts {literal : Bytes} (nonempty : literal ≠ []) (content : Bytes) (skip : Nat)
    (piece : Bytes) (done : List Bytes)
    (clear : NotFoundBefore literal (piece.reverse ++ content.drop skip) piece.length) :
    ∃ pieces, piecesFrom literal skip piece done content = done.reverse ++ pieces ∧
      Cuts literal (piece.reverse ++ content.drop skip) pieces := by
  induction content generalizing skip piece done with
  | nil =>
    refine ⟨[piece.reverse], by simp [piecesFrom], ?_⟩
    rw [List.drop_nil] at clear ⊢
    have last : NotFoundBefore literal (piece.reverse ++ []) piece.reverse.length := by
      simpa using clear
    simpa using Cuts.whole (not_infix_of_notFoundBefore nonempty last)
  | cons b rest ih =>
    cases skip with
    | succ more => exact ih more piece done clear
    | zero =>
      rw [List.drop_zero] at clear ⊢
      by_cases found : literal <+: b :: rest
      · -- The occurrence is skipped byte by byte, and the next piece starts behind it.
        obtain ⟨behind, content_eq⟩ := found
        have skipped : rest.drop (literal.length - 1) = behind := by
          cases literal with
          | nil => exact absurd rfl nonempty
          | cons first others =>
            obtain ⟨-, rfl⟩ := List.cons_eq_cons.mp content_eq
            simp
        obtain ⟨pieces, scanned, cuts⟩ :=
          ih (literal.length - 1) [] (piece.reverse :: done) (by simp [NotFoundBefore])
        refine ⟨piece.reverse :: pieces, ?_, ?_⟩
        · have here : literal.isPrefixOf (b :: rest) = true :=
            List.isPrefixOf_iff_prefix.mpr ⟨behind, content_eq⟩
          simp [piecesFrom, here, scanned]
        · rw [skipped] at cuts
          rw [← content_eq] at clear ⊢
          exact .occurrence (by simpa using clear) (by simpa using cuts)
      · -- The byte joins the piece, in which no occurrence begins so far.
        have extended :
            NotFoundBefore literal ((b :: piece).reverse ++ rest.drop 0) (b :: piece).length := by
          intro earlier bound
          rw [List.drop_zero, List.reverse_cons, List.append_assoc, List.singleton_append]
          rcases Nat.lt_succ_iff_lt_or_eq.mp bound with within | rfl
          · exact clear earlier (by simpa using within)
          · simpa using found
        obtain ⟨pieces, scanned, cuts⟩ := ih 0 (b :: piece) done extended
        refine ⟨pieces, ?_, by simpa using cuts⟩
        have notHere : ¬ literal.isPrefixOf (b :: rest) = true :=
          fun here => found (List.isPrefixOf_iff_prefix.mp here)
        simp [piecesFrom, notHere, scanned]

/-- `pieces` cuts a content at the leftmost occurrences of a nonempty literal. -/
theorem pieces_cuts {literal : Bytes} (nonempty : literal ≠ []) (content : Bytes) :
    Cuts literal content (pieces literal content) := by
  obtain ⟨found, scanned, cuts⟩ :=
    piecesFrom_cuts nonempty content 0 [] [] (by simp [NotFoundBefore])
  rw [pieces, scanned]
  simpa using cuts

/-! ## What the pieces hold -/

namespace Cuts

variable {literal content : Bytes} {pieces : List Bytes}

theorem infix_of_mem (cuts : Cuts literal content pieces) :
    ∀ piece ∈ pieces, piece <:+: content := by
  induction cuts with
  | whole absent => simp [List.infix_rfl]
  | @occurrence piece rest pieces first others ih =>
    intro other member
    rcases List.mem_cons.mp member with rfl | member
    · exact (List.prefix_append other _).isInfix
    · exact List.infix_append_of_infix_right (List.infix_append_of_infix_right (ih other member))

theorem not_infix_of_mem (nonempty : literal ≠ []) (cuts : Cuts literal content pieces) :
    ∀ piece ∈ pieces, ¬ literal <:+: piece := by
  induction cuts with
  | whole absent => simpa using absent
  | @occurrence piece rest pieces first others ih =>
    intro other member
    rcases List.mem_cons.mp member with rfl | member
    · exact not_infix_of_notFoundBefore nonempty first
    · exact ih other member

/-- A content without the literal stays whole. -/
theorem eq_whole_of_absent (cuts : Cuts literal content pieces)
    (absent : ¬ literal <:+: content) : pieces = [content] := by
  cases cuts with
  | whole => rfl
  | @occurrence piece rest pieces first others =>
    exact absurd (List.infix_append' piece literal rest) absent

end Cuts

/-! ## Substitutions -/

variable {literal replacement content : Bytes}

/-- Where the literal does not occur nothing is replaced. -/
theorem replace?_eq_none_of_absent (nonempty : literal ≠ []) (absent : ¬ literal <:+: content) :
    replace? literal replacement content = none := by
  have whole := (pieces_cuts nonempty content).eq_whole_of_absent absent
  simp [replace?, whole]

/-- Whether anything is replaced or not, the result is the pieces with the replacement between
them. -/
theorem getD_replace? (nonempty : literal ≠ []) :
    (replace? literal replacement content).getD content =
      replacement.intercalate (pieces literal content) := by
  have cuts := pieces_cuts nonempty content
  generalize pieces_eq : pieces literal content = found at cuts
  unfold replace?
  rw [pieces_eq]
  cases cuts with
  | whole absent => simp
  | @occurrence piece rest others first cuts => cases cuts <;> rfl

/-- After a substitution the literal is gone. -/
theorem not_infix_getD_replace? (nonempty : literal ≠ []) (apart : ¬ Overlap literal replacement) :
    ¬ literal <:+: (replace? literal replacement content).getD content := by
  rw [getD_replace? nonempty]
  exact Bytes.not_infix_intercalate apart ((pieces_cuts nonempty content).not_infix_of_mem nonempty)

/-- A substitution does not bring about a text that its replacement does not overlap. -/
theorem not_infix_getD_replace?_of_absent {text : Bytes} (nonempty : literal ≠ [])
    (apart : ¬ Overlap text replacement) (absent : ¬ text <:+: content) :
    ¬ text <:+: (replace? literal replacement content).getD content := by
  rw [getD_replace? nonempty]
  refine Bytes.not_infix_intercalate apart fun piece member found => ?_
  exact absent (found.trans ((pieces_cuts nonempty content).infix_of_mem piece member))

end Emend.Substitute
