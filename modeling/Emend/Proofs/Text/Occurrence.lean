/-
# Where a literal is replaced

A content is cut at the leftmost occurrences of a literal in one way only, and no occurrence lies
beside the ones at which it is cut.  Putting a content together again from its stretches between
these occurrences never takes a stretch that is not there.
-/

import Emend.Proofs.Text.Substitute
import Emend.Rule

namespace Emend

namespace Substitute

variable {literal replacement content : Bytes} {pieces : List Bytes}

/-! ## The pieces of a content -/

namespace Cuts

/-- Pieces with the literal between them are the content. -/
theorem intercalate_eq (cuts : Cuts literal content pieces) :
    literal.intercalate pieces = content := by
  induction cuts with
  | whole absent => simp
  | @occurrence piece rest pieces first others ih =>
    cases others with
    | whole absent => simp
    | occurrence => rw [List.intercalate_cons_cons, ih, List.append_assoc]

/-- There is one way to cut a content at the leftmost occurrences of a literal. -/
theorem unique (cuts : Cuts literal content pieces) {others : List Bytes}
    (again : Cuts literal content others) : others = pieces := by
  induction cuts generalizing others with
  | whole absent => exact again.eq_whole_of_absent absent
  | @occurrence piece rest pieces first later ih =>
    generalize content_eq : piece ++ (literal ++ rest) = content at again
    cases again with
    | whole absent =>
      rw [← content_eq] at absent
      exact absurd (List.infix_append' piece literal rest) absent
    | @occurrence other otherRest others otherFirst otherLater =>
      -- Neither of the two first occurrences begins before the other one.
      have here : literal <+: (other ++ (literal ++ otherRest)).drop piece.length := by
        simp [← content_eq]
      have otherHere : literal <+: (piece ++ (literal ++ rest)).drop other.length := by
        simp [content_eq]
      have length_eq : piece.length = other.length :=
        Nat.le_antisymm (Nat.le_of_not_lt fun less => first _ less otherHere)
          (Nat.le_of_not_lt fun less => otherFirst _ less here)
      obtain ⟨rfl, behind⟩ := List.append_inj content_eq length_eq
      rw [← List.append_cancel_left behind] at otherLater
      rw [ih otherLater]

end Cuts

/-! ## The occurrences between them -/

/-- Where the occurrences of a literal of a given width start that lie between some pieces, the
first of which starts at a position. -/
def starts (width : Nat) : (position : Nat) → (pieces : List Bytes) → List Nat
  | position, piece :: next :: pieces =>
    (position + piece.length) :: starts width (position + piece.length + width) (next :: pieces)
  | _, _ => []

theorem Cuts.starts_cons {piece rest : Bytes} {others : List Bytes} (width position : Nat)
    (later : Cuts literal rest others) :
    starts width position (piece :: others) =
      (position + piece.length) :: starts width (position + piece.length + width) others := by
  cases later <;> rfl

/-- Every occurrence of the literal has a byte in common with one that is replaced. -/
theorem Cuts.exists_start (nonempty : literal ≠ []) (cuts : Cuts literal content pieces)
    (offset : Nat) {position : Nat} (found : literal <+: content.drop position) :
    ∃ start ∈ starts literal.length offset pieces,
      start < offset + position + literal.length ∧ offset + position < start + literal.length := by
  have positive : 0 < literal.length := List.length_pos_iff.mpr nonempty
  induction cuts generalizing offset position with
  | whole absent => exact absurd (found.isInfix.trans (List.drop_suffix _ _).isInfix) absent
  | @occurrence piece rest pieces first later ih =>
    rw [later.starts_cons]
    have behind : piece.length ≤ position := Nat.le_of_not_lt fun less => first _ less found
    by_cases near : position < piece.length + literal.length
    · exact ⟨_, List.mem_cons_self, by omega, by omega⟩
    · -- The occurrence lies behind the first one that is replaced.
      obtain ⟨beyond, rfl⟩ := Nat.exists_eq_add_of_le (Nat.le_of_not_lt near)
      have inRest : literal <+: rest.drop beyond := by
        rwa [← List.append_assoc, ← List.length_append, ← List.drop_drop, List.drop_left] at found
      obtain ⟨start, member, overlaps⟩ := ih (offset + piece.length + literal.length) inRest
      exact ⟨start, List.mem_cons_of_mem _ member, by omega⟩

/-! ## Putting stretches together -/

/-- The stretch of a content between two positions; `none` unless they are in order and the content
reaches that far. -/
def stretch? (content : Bytes) (start stop : Nat) : Option Bytes :=
  if start ≤ stop ∧ stop ≤ content.length then some ((content.take stop).drop start) else none

/-- A content with a replacement for its occurrences of a literal of a given width, which start at
the given positions.  What comes before the position `last` is done. -/
def spliceFrom? (replacement content : Bytes) (width last : Nat) (done : Bytes) :
    (starts : List Nat) → Option Bytes
  | [] => (stretch? content last content.length).map (done ++ ·)
  | start :: starts =>
    (stretch? content last start).bind fun before =>
      spliceFrom? replacement content width (start + width) (done ++ before ++ replacement) starts

theorem stretch?_append (before piece behind : Bytes) :
    stretch? (before ++ (piece ++ behind)) before.length (before.length + piece.length) =
      some piece := by
  have inside : before.length + piece.length ≤ (before ++ (piece ++ behind)).length := by
    simp only [List.length_append]
    omega
  rw [stretch?, if_pos ⟨Nat.le_add_right _ _, inside⟩, ← List.append_assoc, ← List.length_append,
    List.take_left, List.drop_left]

/-- All stretches are there, and they make up the pieces with the replacement between them. -/
theorem Cuts.spliceFrom?_eq (cuts : Cuts literal content pieces) (before done : Bytes) :
    spliceFrom? replacement (before ++ content) literal.length before.length done
        (starts literal.length before.length pieces) =
      some (done ++ replacement.intercalate pieces) := by
  induction cuts generalizing before done with
  | @whole content absent =>
    have rest := stretch?_append before content []
    rw [List.append_nil] at rest
    simp [starts, spliceFrom?, rest]
  | @occurrence piece rest pieces first later ih =>
    have next := ih (before ++ piece ++ literal) (done ++ piece ++ replacement)
    rw [later.starts_cons, spliceFrom?, stretch?_append, Option.bind_some]
    simp only [List.length_append, List.append_assoc] at next ⊢
    rw [← Nat.add_assoc] at next
    rw [next]
    cases later <;> simp

theorem replace?_eq_some_of_infix (nonempty : literal ≠ []) (found : literal <:+: content) :
    replace? literal replacement content =
      some (replacement.intercalate (Substitute.pieces literal content)) := by
  have cuts := pieces_cuts nonempty content
  generalize pieces_eq : Substitute.pieces literal content = parts at cuts
  unfold replace?
  rw [pieces_eq]
  cases cuts with
  | whole absent => exact absurd found absent
  | occurrence first later => cases later <;> rfl

end Substitute

/-! ## Literal rules -/

open Substitute in
/-- A literal rule that looks for something cuts a content at the leftmost occurrences, which can be
done in one way only, and puts its replacement between the pieces as it is.  It reports a change
exactly if its literal occurs, and otherwise hands the content back.  Each occurrence overlaps one
that is replaced, and the stretches of the content between those are all there. -/
theorem Rule.literal_replaces_leftmost (rule : Substitution) (nonempty : rule.find ≠ "")
    (content : Bytes) :
    let literal := Bytes.ofText rule.find
    let replacement := Bytes.ofText rule.replacement
    ∃ pieces : List Bytes,
      (Cuts literal content pieces ∧ ∀ others, Cuts literal content others → others = pieces) ∧
      content = literal.intercalate pieces ∧
      (Rule.literal rule).apply content = replacement.intercalate pieces ∧
      (Rule.literal rule).substitute? content =
        (if literal <:+: content then some (replacement.intercalate pieces) else none) ∧
      (∀ position, literal <+: content.drop position →
        ∃ start ∈ starts literal.length 0 pieces,
          start < position + literal.length ∧ position < start + literal.length) ∧
      spliceFrom? replacement content literal.length 0 [] (starts literal.length 0 pieces) =
        some (replacement.intercalate pieces) := by
  intro literal replacement
  have notEmpty : literal ≠ [] := Bytes.ofText_ne_nil nonempty
  have find_eq : rule.find.isEmpty = false := by simpa using nonempty
  have substituted : (Rule.literal rule).substitute? content =
      replace? literal replacement content := by
    simp [substitute?, Substitution.applyLiteral, find_eq, literal, replacement]
  have cuts := pieces_cuts notEmpty content
  refine ⟨pieces literal content, ⟨cuts, fun others => cuts.unique⟩, cuts.intercalate_eq.symm,
    ?_, ?_, ?_, ?_⟩
  · rw [Rule.apply, substituted, getD_replace? notEmpty]
  · rw [substituted]
    by_cases found : literal <:+: content
    · rw [if_pos found, replace?_eq_some_of_infix notEmpty found]
    · rw [if_neg found, replace?_eq_none_of_absent notEmpty found]
  · intro position found
    simpa using cuts.exists_start notEmpty 0 found
  · simpa using cuts.spliceFrom?_eq [] []

/-- A literal that overlaps itself occurs three times, and two of these are replaced by a text that
a template would expand. -/
theorem Rule.literal_replaces_leftmost_of_overlapping :
    let rule : Substitution := ⟨"aa", "$0"⟩
    let content := Bytes.ofText "baaab aa"
    rule.find ≠ "" ∧
      ∃ pieces, Substitute.Cuts (Bytes.ofText "aa") content pieces ∧
        (Rule.literal rule).apply content = (Bytes.ofText "$0").intercalate pieces ∧
        (Rule.literal rule).apply content = Bytes.ofText "b$0ab $0" := by
  intro rule content
  have nonempty : rule.find ≠ "" := by decide
  obtain ⟨pieces, ⟨cuts, -⟩, -, applied, -⟩ :=
    Rule.literal_replaces_leftmost rule nonempty content
  exact ⟨nonempty, pieces, cuts, applied, by decide⟩

end Emend
