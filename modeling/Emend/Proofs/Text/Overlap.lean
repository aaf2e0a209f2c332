/-
# Overlapping texts

Two texts overlap if one occurs inside the other or if one can end in the middle of the other.  A
text that does not overlap an insertion cannot come into being at the seams of that insertion: it
stands before it or after it, if it stands anywhere.
-/

import Emend.Text.Bytes
import Mathlib.Data.List.Infix

namespace Emend.Bytes

/-- A text ends with bytes with which another one begins. -/
def EndsInto (first second : Bytes) : Prop :=
  ∃ shared, shared ≠ [] ∧ shared <:+ first ∧ shared <+: second

/-- One text occurs inside the other, or ends with bytes with which the other begins. -/
def Overlap (first second : Bytes) : Prop :=
  first <:+: second ∨ second <:+: first ∨ EndsInto first second ∨ EndsInto second first

theorem endsInto_iff {first second : Bytes} :
    EndsInto first second ↔ ∃ shared ∈ first.tails, shared ≠ [] ∧ shared <+: second := by
  simp only [EndsInto, List.mem_tails]
  exact exists_congr fun shared => and_left_comm

instance (first second : Bytes) : Decidable (EndsInto first second) :=
  decidable_of_iff _ endsInto_iff.symm

instance (first second : Bytes) : Decidable (Overlap first second) :=
  inferInstanceAs (Decidable (_ ∨ _ ∨ _ ∨ _))

/-- The empty text occurs in every other one. -/
theorem ne_nil_of_not_overlap {text inserted : Bytes} (apart : ¬ Overlap text inserted) :
    text ≠ [] := by
  rintro rfl
  exact apart (.inl (List.nil_infix))

/-- Where a text occurs around an insertion that it does not overlap, it occurs before or after. -/
theorem infix_of_infix_around {text before inserted after : Bytes}
    (apart : ¬ Overlap text inserted) (found : text <:+: before ++ (inserted ++ after)) :
    text <:+: before ∨ text <:+: after := by
  rcases List.infix_append_iff_ne_nil.mp found with
    inBefore | inRest | ⟨head, tail, -, tailNonempty, rfl, -, tailStarts⟩
  · exact .inl inBefore
  · rcases List.infix_append_iff_ne_nil.mp inRest with
      inInserted | inAfter | ⟨head, tail, headNonempty, -, rfl, headEnds, -⟩
    · exact absurd (.inl inInserted) apart
    · exact .inr inAfter
    · -- The text begins inside the insertion and goes on after it.
      have into : EndsInto inserted (head ++ tail) :=
        ⟨head, headNonempty, headEnds, List.prefix_append head tail⟩
      exact absurd (.inr (.inr (.inr into))) apart
  · -- The text begins before the insertion and reaches into it, perhaps beyond its end.
    rcases List.prefix_or_prefix_of_prefix tailStarts (List.prefix_append inserted after) with
      within | beyond
    · have into : EndsInto (head ++ tail) inserted :=
        ⟨tail, tailNonempty, List.suffix_append head tail, within⟩
      exact absurd (.inr (.inr (.inl into))) apart
    · have inside : inserted <:+: head ++ tail :=
        beyond.isInfix.trans (List.suffix_append head tail).isInfix
      exact absurd (.inr (.inl inside)) apart

/-- Texts joined by an insertion do not hold what none of them holds. -/
theorem not_infix_intercalate {text inserted : Bytes} {parts : List Bytes}
    (apart : ¬ Overlap text inserted) (free : ∀ part ∈ parts, ¬ text <:+: part) :
    ¬ text <:+: inserted.intercalate parts := by
  induction parts with
  | nil =>
    intro found
    exact ne_nil_of_not_overlap apart (List.infix_nil.mp found)
  | cons part parts ih =>
    have later := ih fun other member => free other (List.mem_cons_of_mem part member)
    cases parts with
    | nil => simpa using free part List.mem_cons_self
    | cons next parts =>
      rw [List.intercalate_cons_cons, List.append_assoc]
      intro found
      rcases infix_of_infix_around apart found with inPart | inLater
      · exact free part List.mem_cons_self inPart
      · exact later inLater

end Emend.Bytes
