/-
# Positions between characters

A position of a content is between characters if what stands before it is a text.  In a text, what
stands between two such positions is a text as well, and a text occurs only there, unless it is
empty.
-/

import Emend.Proofs.Text.Boundaries

namespace Emend

theorem Bytes.extract_of_prefix {content literal : Bytes} {position : Nat}
    (stands : literal <+: content.drop position) :
    content.extract position (position + literal.length) = literal := by
  rw [List.extract_eq_take_drop, Nat.add_sub_cancel_left]
  exact (List.prefix_iff_eq_take.mp stands).symm

namespace Utf8

theorem scalarOf_of_ascii {lead : UInt8} (ascii : lead < 0x80) (b₁ b₂ b₃ : Option UInt8) :
    scalarOf lead b₁ b₂ b₃ = some (Char.ofNat lead.toNat, 1) := by
  unfold scalarOf
  rw [if_pos ascii]

theorem scalarAt?_toArray (content : Bytes) (position : Nat) :
    scalarAt? content.toArray position = scalar? (content.drop position) := by
  unfold scalarAt?
  by_cases inside : position < content.length
  · have rest_eq (distance : Nat) :
        (content.drop (position + 1))[distance]? = content[position + 1 + distance]? :=
      List.getElem?_drop
    rw [List.drop_eq_getElem_cons inside, scalar?, rest_eq, rest_eq, rest_eq]
    simp only [List.getElem?_toArray, List.getElem?_eq_getElem inside, Nat.add_assoc, Nat.reduceAdd]
    generalize content[position] = lead
    split
    · rename_i ascii
      exact (scalarOf_of_ascii ascii _ _ _).symm
    · rfl
  · have beyond : content.length ≤ position := Nat.le_of_not_lt inside
    rw [List.drop_eq_nil_of_le beyond, List.getElem?_toArray, List.getElem?_eq_none beyond]
    rfl

/-- A scalar is read at a position exactly where the encoding of a character stands. -/
theorem extract_of_scalarAt? {content : Bytes} {position length : Nat} {c : Char}
    (read : scalarAt? content.toArray position = some (c, length)) :
    content.extract position (position + length) = String.utf8EncodeChar c := by
  rw [scalarAt?_toArray] at read
  obtain ⟨stands, rfl⟩ := scalar?_eq_some_iff.mp read
  exact Bytes.extract_of_prefix stands

end Utf8

namespace Bytes

variable {content before after : Bytes} {position first last : Nat}

/-! ## Texts -/

theorem isText_nil : IsText [] := ⟨[], rfl⟩

theorem isText_utf8EncodeChar (c : Char) : IsText (String.utf8EncodeChar c) := ⟨[c], by simp⟩

theorem isText_singleton {b : UInt8} (ascii : b.toNat < 0x80) : IsText [b] := by
  rw [← (Utf8.Encodes.one ascii).utf8EncodeChar_eq]
  exact isText_utf8EncodeChar _

/-- A text of one byte is a character. -/
theorem IsText.exists_char {b : UInt8} (isText : IsText [b]) :
    ∃ c, String.utf8EncodeChar c = [b] := by
  obtain ⟨chars, whole⟩ := isText
  cases chars with
  | nil => cases whole
  | cons c chars =>
    rw [ofChars_cons] at whole
    rcases List.append_eq_singleton_iff.mp whole.symm with ⟨empty, -⟩ | ⟨encoded, -⟩
    · exact absurd empty String.utf8EncodeChar_ne_nil
    · exact ⟨c, encoded⟩

/-- A text begins with a character. -/
theorem IsText.scalar?_ne_none (isText : IsText content) (nonempty : content ≠ []) :
    Utf8.scalar? content ≠ none := by
  intro unread
  obtain ⟨chars, rfl⟩ := isText
  cases chars with
  | nil => exact nonempty rfl
  | cons c chars => exact Utf8.scalar?_eq_none_iff.mp unread c (List.prefix_append _ _)

theorem IsText.append_iff (isText : IsText before) :
    IsText (before ++ after) ↔ IsText after := by
  constructor
  · intro whole
    obtain ⟨chars, rfl⟩ := isText
    exact whole.of_ofChars_append
  · exact isText.append

/-! ## Positions -/

/-- No character of a content stands on both sides of a position. -/
def IsBoundary (content : Bytes) (position : Nat) : Prop := IsText (content.take position)

theorem take_append_extract (le : first ≤ last) :
    content.take first ++ content.extract first last = content.take last := by
  have last_eq : first + (last - first) = last := by omega
  rw [List.extract_eq_take_drop, ← List.take_add, last_eq]

theorem extract_append_drop (le : first ≤ last) :
    content.extract first last ++ content.drop last = content.drop first := by
  have last_eq : first + (last - first) = last := by omega
  rw [List.extract_eq_take_drop, ← last_eq, ← List.drop_drop, last_eq, List.take_append_drop]

theorem extract_append_extract (first_le : first ≤ position) (le : position ≤ last) :
    content.extract first position ++ content.extract position last =
      content.extract first last := by
  have length_eq : last - first = (position - first) + (last - position) := by omega
  have position_eq : first + (position - first) = position := by omega
  rw [List.extract_eq_take_drop, List.extract_eq_take_drop, List.extract_eq_take_drop, length_eq,
    List.take_add, List.drop_drop, position_eq]

theorem extract_succ {b : UInt8} (le : first ≤ position)
    (at_position : content[position]? = some b) :
    content.extract first (position + 1) = content.extract first position ++ [b] := by
  have length_eq : position + 1 - first = position - first + 1 := by omega
  have position_eq : first + (position - first) = position := by omega
  rw [List.extract_eq_take_drop, List.extract_eq_take_drop, length_eq, List.take_add_one,
    List.getElem?_drop, position_eq, at_position]
  rfl

@[simp] theorem extract_self (content : Bytes) (position : Nat) :
    content.extract position position = [] := by
  rw [List.extract_eq_take_drop, Nat.sub_self, List.take_zero]

theorem isBoundary_zero (content : Bytes) : IsBoundary content 0 := isText_nil

theorem IsBoundary.isText_drop (boundary : IsBoundary content position) (isText : IsText content) :
    IsText (content.drop position) := by
  rw [← List.take_append_drop position content] at isText
  exact (IsText.append_iff boundary).mp isText

theorem IsBoundary.isText_extract_iff (boundary : IsBoundary content first) (le : first ≤ last) :
    IsText (content.extract first last) ↔ IsBoundary content last := by
  rw [IsBoundary, ← take_append_extract le]
  exact (IsText.append_iff boundary).symm

theorem IsBoundary.isText_extract (start : IsBoundary content first)
    (stop : IsBoundary content last) : IsText (content.extract first last) := by
  by_cases le : first ≤ last
  · exact (start.isText_extract_iff le).mpr stop
  · have empty : last - first = 0 := by omega
    rw [List.extract_eq_take_drop, empty]
    exact isText_nil

/-- A text that stands in a text stands between characters, unless it is empty. -/
theorem IsText.eq_or_isBoundary (isText : IsText content) (le : first ≤ last)
    (inside : IsText (content.extract first last)) :
    first = last ∨ (IsBoundary content first ∧ IsBoundary content last) := by
  by_cases empty : content.extract first last = []
  · by_cases same : first = last
    · exact .inl same
    · -- nothing is left of the content
      have bytes_eq := congrArg List.length empty
      simp only [List.extract_eq_take_drop, List.length_take, List.length_drop, List.length_nil]
        at bytes_eq
      have whole (position : Nat) (beyond : content.length ≤ position) :
          IsBoundary content position := by
        rw [IsBoundary, List.take_of_length_le beyond]
        exact isText
      exact .inr ⟨whole first (by omega), whole last (by omega)⟩
  · have content_eq : content =
        content.take first ++ (content.extract first last ++ content.drop last) := by
      rw [← List.append_assoc, take_append_extract le, List.take_append_drop]
    rw [content_eq] at isText
    have start : IsBoundary content first := (isText.around inside empty).1
    exact .inr ⟨start, (start.isText_extract_iff le).mp inside⟩

end Bytes

end Emend
