/-
# Blank lines and comments

A line of a document is blank, or it is a comment once a number sign has followed the white space.
`linesAfter` follows the characters of a document through such lines, `isBlankAtBreaks` its bytes.
The two keep in step: what can be read of a text whose bytes keep to blank lines and comments does.
-/

import Emend.Proofs.Traversal
import Emend.Yaml.Cursor
import Mathlib.Data.List.Basic

namespace Emend.Yaml

/-! ## Computations that may fail -/

section

variable {ε α : Type}

theorem ite_error_eq_ok_iff {p : Prop} [Decidable p] {error : ε} {other : Except ε α}
    {result : α} : (if p then .error error else other) = .ok result ↔
      ¬ p ∧ other = .ok result := by
  by_cases holds : p <;> simp [holds]

end

/-! ## Characters -/

/-- What a character makes of the line under way, which is a comment if `inComment` is true and
white space so far if not.  There is no result if the line is neither any longer. -/
def lineAfter (inComment : Bool) (c : Char) : Option Bool :=
  if isBreak c then some false
  else if inComment then some true
  else if isBlank c then some false
  else if c = '#' then some true
  else none

/-- What some characters make of the line under way. -/
def linesAfter (inComment : Bool) (chars : List Char) : Option Bool :=
  chars.foldlM lineAfter inComment

theorem isBreak_iff (c : Char) :
    isBreak c = true ↔ c.toNat ∈ [0x0A, 0x0D, 0x85, 0x2028, 0x2029] := by
  simp [isBreak, ← Char.toNat_inj, or_assoc]

theorem linesAfter_cons (inComment : Bool) (c : Char) (chars : List Char) :
    linesAfter inComment (c :: chars) =
      (lineAfter inComment c).bind fun next => linesAfter next chars :=
  List.foldlM_cons

theorem linesAfter_append (inComment : Bool) (chars others : List Char) :
    linesAfter inComment (chars ++ others) =
      (linesAfter inComment chars).bind fun next => linesAfter next others :=
  List.foldlM_append

theorem linesAfter_concat {inComment between next : Bool} {chars : List Char} {c : Char}
    (state : linesAfter inComment chars = some between)
    (next_eq : lineAfter between c = some next) :
    linesAfter inComment (chars ++ [c]) = some next := by
  rw [linesAfter_append, state]
  simp [linesAfter, next_eq]

/-- A beginning of blank lines and comments consists of such lines. -/
theorem isSome_linesAfter_take {inComment : Bool} {chars : List Char}
    (blank : (linesAfter inComment chars).isSome) (count : Nat) :
    (linesAfter inComment (chars.take count)).isSome := by
  rw [← List.take_append_drop count chars, linesAfter_append] at blank
  exact Option.isSome_of_isSome_bind blank

/-! ## Bytes -/

/-- Whether a text begins with a line break. -/
def startsBreak (text : Bytes) : Bool :=
  ([[0x0A], [0x0D], [0xC2, 0x85], [0xE2, 0x80, 0xA8], [0xE2, 0x80, 0xA9]] : List Bytes).any
    fun lineBreak => lineBreak.isPrefixOf text

/-- Whether a byte belongs to the character that an earlier one began. -/
def isTail (b : UInt8) : Bool := 0x80 ≤ b && b < 0xC0

/-- Whether a byte adds nothing to a blank line: it is white space, or it belongs to a character
that can only be the line break before. -/
def isWhite (b : UInt8) : Bool := b = 0x20 || b = 0x09 || b = 0x0C || isTail b

/-- Whether the lines of a text are blank or comments, if they end wherever lines of a document may.
While `inComment` is true the line under way is a comment; otherwise all of it so far is white
space. -/
def isBlankAtBreaksFrom (inComment : Bool) : Bytes → Bool
  | [] => true
  | b :: rest =>
    if startsBreak (b :: rest) then isBlankAtBreaksFrom false rest
    else if inComment then isBlankAtBreaksFrom true rest
    else if isWhite b then isBlankAtBreaksFrom false rest
    else if b = 0x23 then isBlankAtBreaksFrom true rest
    else false

/-- Whether every line of a text is blank or a comment.  Lines end at line feeds, at carriage
returns and at the line breaks beyond ASCII. -/
def isBlankAtBreaks (text : Bytes) : Bool := isBlankAtBreaksFrom false text

theorem isTail_iff {b : UInt8} : isTail b = true ↔ 0x80 ≤ b.toNat ∧ b.toNat < 0xC0 := by
  simp [isTail, UInt8.le_iff_toNat_le, UInt8.lt_iff_toNat_lt]

theorem not_startsBreak_of_isTail {b : UInt8} (tail : isTail b = true) (rest : Bytes) :
    startsBreak (b :: rest) = false := by
  have bounds := isTail_iff.mp tail
  have different (lead : UInt8) (out : lead.toNat < 0x80 ∨ 0xC0 ≤ lead.toNat) : lead ≠ b := by
    rintro rfl
    omega
  simp [startsBreak, List.isPrefixOf, different]

/-- Bytes within a character make no difference. -/
theorem isBlankAtBreaksFrom_tails {inComment : Bool} {tails : Bytes}
    (areTails : ∀ b ∈ tails, isTail b = true) (rest : Bytes) :
    isBlankAtBreaksFrom inComment (tails ++ rest) = isBlankAtBreaksFrom inComment rest := by
  induction tails with
  | nil => rfl
  | cons b tails ih =>
    obtain ⟨tail, others⟩ := List.forall_mem_cons.mp areTails
    rw [List.cons_append, isBlankAtBreaksFrom, not_startsBreak_of_isTail tail]
    cases inComment <;> simp [isWhite, tail, ih others]

/-! ## Decoding -/

/-- The first byte and the others of a character, by their number. -/
inductive Encodes : (lead : UInt8) → (tails : Bytes) → Char → Prop where
  | one {lead : UInt8} {c : Char} (range : lead.toNat < 0x80) (value_eq : c.toNat = lead.toNat) :
    Encodes lead [] c
  | two {lead t : UInt8} {c : Char} (range : 0xC0 ≤ lead.toNat ∧ lead.toNat < 0xE0)
    (t_tail : isTail t = true) (least : 0x80 ≤ c.toNat)
    (value_eq : c.toNat = lead.toNat % 32 * 64 + t.toNat % 64) : Encodes lead [t] c
  | three {lead t u : UInt8} {c : Char} (range : 0xE0 ≤ lead.toNat ∧ lead.toNat < 0xF0)
    (t_tail : isTail t = true) (u_tail : isTail u = true) (least : 0x800 ≤ c.toNat)
    (value_eq : c.toNat = (lead.toNat % 16 * 64 + t.toNat % 64) * 64 + u.toNat % 64) :
    Encodes lead [t, u] c
  | four {lead t u v : UInt8} {c : Char} (range : 0xF0 ≤ lead.toNat ∧ lead.toNat < 0xF8)
    (t_tail : isTail t = true) (u_tail : isTail u = true) (v_tail : isTail v = true)
    (least : 0x10000 ≤ c.toNat) : Encodes lead [t, u, v] c

namespace Encodes

variable {lead : UInt8} {tails : Bytes} {c : Char}

theorem areTails (encoded : Encodes lead tails c) : ∀ b ∈ tails, isTail b = true := by
  cases encoded <;> simp [*]

/-- A byte of ASCII is a character by itself. -/
theorem toNat_eq (encoded : Encodes lead tails c) (low : lead.toNat < 0x80) :
    c.toNat = lead.toNat := by
  cases encoded with
  | one _ value_eq => exact value_eq
  | two range | three range | four range => omega

/-- A text begins with a line break exactly if its first character is one. -/
theorem startsBreak_eq (encoded : Encodes lead tails c) (rest : Bytes) :
    startsBreak (lead :: (tails ++ rest)) = isBreak c := by
  rw [Bool.eq_iff_iff, isBreak_iff]
  cases encoded with
  | one range value_eq =>
    simp [startsBreak, List.isPrefixOf, ← UInt8.toNat_inj]
    omega
  | two range t_tail least value_eq =>
    rw [isTail_iff] at t_tail
    simp [startsBreak, List.isPrefixOf, ← UInt8.toNat_inj]
    omega
  | three range t_tail u_tail least value_eq =>
    rw [isTail_iff] at t_tail u_tail
    simp [startsBreak, List.isPrefixOf, ← UInt8.toNat_inj]
    omega
  | four range t_tail u_tail v_tail least =>
    simp [startsBreak, List.isPrefixOf, ← UInt8.toNat_inj]
    omega

/-- White space in a text is white space in a line. -/
theorem lineAfter_of_isWhite (encoded : Encodes lead tails c)
    (allowed : Source.isAllowed c.toNat = true) (white : isWhite lead = true) :
    lineAfter false c = some false := by
  simp only [isWhite, Bool.or_eq_true, decide_eq_true_eq] at white
  rcases white with ((rfl | rfl) | rfl) | tail
  · obtain rfl : c = ' ' := Char.toNat_inj.mp (encoded.toNat_eq (by decide))
    rfl
  · obtain rfl : c = '\t' := Char.toNat_inj.mp (encoded.toNat_eq (by decide))
    rfl
  · -- A document may not hold form feeds.
    rw [encoded.toNat_eq (by decide)] at allowed
    cases allowed
  · -- No character begins with a byte within one.
    rw [isTail_iff] at tail
    cases encoded <;> omega

/-- A character does to the line under way what its bytes do. -/
theorem exists_lineAfter {inComment : Bool} {rest : Bytes} (encoded : Encodes lead tails c)
    (allowed : Source.isAllowed c.toNat = true)
    (blank : isBlankAtBreaksFrom inComment (lead :: (tails ++ rest)) = true) :
    ∃ next, lineAfter inComment c = some next ∧ isBlankAtBreaksFrom next rest = true := by
  rw [isBlankAtBreaksFrom, encoded.startsBreak_eq] at blank
  simp only [isBlankAtBreaksFrom_tails encoded.areTails] at blank
  cases isBreak_eq : isBreak c with
  | true =>
    rw [isBreak_eq] at blank
    exact ⟨false, by simp [lineAfter, isBreak_eq], blank⟩
  | false =>
    simp only [isBreak_eq, Bool.false_eq_true, ↓reduceIte] at blank
    cases inComment with
    | true => exact ⟨true, by simp [lineAfter, isBreak_eq], blank⟩
    | false =>
      simp only [Bool.false_eq_true, ↓reduceIte] at blank
      split at blank
      · rename_i white
        exact ⟨false, encoded.lineAfter_of_isWhite allowed white, blank⟩
      · split at blank
        · rename_i sharp
          obtain rfl : lead = 0x23 := sharp
          obtain rfl : c = '#' := Char.toNat_inj.mp (encoded.toNat_eq (by decide))
          exact ⟨true, rfl, blank⟩
        · cases blank

end Encodes

namespace Source

theorem width?_eq_some {lead : UInt8} {width : Nat} (width_eq : width? lead = some width) :
    lead.toNat < 0x80 ∧ width = 1 ∨ (0xC0 ≤ lead.toNat ∧ lead.toNat < 0xE0) ∧ width = 2 ∨
      (0xE0 ≤ lead.toNat ∧ lead.toNat < 0xF0) ∧ width = 3 ∨
      (0xF0 ≤ lead.toNat ∧ lead.toNat < 0xF8) ∧ width = 4 := by
  unfold width? at width_eq
  simp only [UInt8.lt_iff_toNat_lt, UInt8.reduceToNat] at width_eq
  repeat' split at width_eq
  all_goals simp at width_eq
  all_goals omega

theorem addTails_eq_ok {offset value result : Nat} {tails : Bytes}
    (added : addTails offset value tails = .ok result) :
    (∀ b ∈ tails, isTail b = true) ∧
      result = tails.foldl (fun value tail => value * 64 + tail.toNat % 64) value := by
  induction tails generalizing offset value with
  | nil =>
    cases added
    simp
  | cons tail tails ih =>
    rw [addTails] at added
    split at added
    · rename_i first
      obtain ⟨others, result_eq⟩ := ih added
      exact ⟨List.forall_mem_cons.mpr ⟨first, others⟩, result_eq⟩
    · cases added

/-- The least number that stands for a character of some width. -/
def leastOfWidth : (width : Nat) → Nat
  | 1 => 0
  | 2 => 0x80
  | 3 => 0x800
  | _ => 0x10000

theorem decode_eq_ok {offset width : Nat} {lead : UInt8} {tails : Bytes} {c : Char}
    (decoded : decode offset width lead tails = .ok c) :
    addTails (offset + 1) (leadBits width lead) tails = .ok c.toNat ∧
      leastOfWidth width ≤ c.toNat ∧ isAllowed c.toNat = true := by
  unfold decode at decoded
  cases added : addTails (offset + 1) (leadBits width lead) tails with
  | error fault => simp [added, bind, Except.bind] at decoded
  | ok value =>
    simp only [added, bind, Except.bind, pure, Except.pure, throw, throwThe,
      MonadExceptOf.throw, ite_error_eq_ok_iff, Except.ok.injEq] at decoded
    obtain ⟨notLess, inRange, allowed, rfl⟩ := decoded
    have valid : value.isValidChar := by
      simp only [Bool.or_eq_true, Bool.and_eq_true, decide_eq_true_eq] at inRange
      unfold Nat.isValidChar
      omega
    have toNat_eq : (Char.ofNat value).toNat = value := by
      rw [Char.ofNat, dif_pos valid]
      rfl
    rw [toNat_eq]
    exact ⟨rfl, Nat.le_of_not_lt notLess, by simpa using allowed⟩

/-- A character that is decoded is the one that its bytes encode. -/
theorem encodes_of_decode {offset width : Nat} {lead : UInt8} {tails : Bytes} {c : Char}
    (width_eq : width? lead = some width) (complete : tails.length = width - 1)
    (decoded : decode offset width lead tails = .ok c) : Encodes lead tails c := by
  obtain ⟨added, least, -⟩ := decode_eq_ok decoded
  obtain ⟨areTails, value_eq⟩ := addTails_eq_ok added
  rcases width?_eq_some width_eq with ⟨range, rfl⟩ | ⟨range, rfl⟩ | ⟨range, rfl⟩ | ⟨range, rfl⟩
  · obtain rfl := List.length_eq_zero_iff.mp complete
    exact .one range value_eq
  · obtain ⟨t, rfl⟩ := List.length_eq_one_iff.mp complete
    exact .two range (areTails t (by simp)) least value_eq
  · obtain ⟨t, u, rfl⟩ := List.length_eq_two.mp complete
    exact .three range (areTails t (by simp)) (areTails u (by simp)) least value_eq
  · obtain ⟨t, u, v, rfl⟩ := List.length_eq_three.mp complete
    exact .four range (areTails t (by simp)) (areTails u (by simp)) (areTails v (by simp)) least

/-! ## Reading -/

/-- Where a portion begins does not touch what has been read. -/
@[simp] theorem Progress.entering_done (progress : Progress) (width : Nat) :
    (progress.entering width).done = progress.done := by
  unfold entering
  split <;> rfl

/-- What is read after blank lines and comments, of bytes that continue them, continues them. -/
theorem isSome_linesAfter_readFrom {progress : Progress} {text : Bytes} {inComment : Bool}
    (state : linesAfter false progress.done.reverse = some inComment)
    (blank : isBlankAtBreaksFrom inComment (text.drop progress.pending) = true) :
    (linesAfter false (readFrom progress text).chars).isSome := by
  have isSome : (linesAfter false progress.done.reverse).isSome := by rw [state]; rfl
  induction text generalizing progress inComment with
  | nil => exact isSome
  | cons b rest ih =>
    rw [readFrom]
    split
    · rename_i more pending_eq
      rw [pending_eq] at blank
      exact ih state blank isSome
    · rename_i pending_eq
      rw [pending_eq] at blank
      split
      · exact isSome_linesAfter_take (by simpa using isSome) _
      · rename_i width width_eq
        simp only
        split
        · simpa using isSome
        · rename_i enough
          split
          · exact isSome_linesAfter_take (by simpa using isSome) _
          · rename_i c decoded
            have complete : (rest.take (width - 1)).length = width - 1 := by
              rw [List.length_take] at enough ⊢
              omega
            rw [List.drop_zero, ← List.take_append_drop (width - 1) rest] at blank
            have encoded := encodes_of_decode width_eq complete decoded
            have allowed := (decode_eq_ok decoded).2.2
            obtain ⟨next, next_eq, rest_blank⟩ := encoded.exists_lineAfter allowed blank
            have next_state :
                linesAfter false ((progress.entering width).after width c).done.reverse =
                  some next := by
              rw [Progress.after, List.reverse_cons, Progress.entering_done]
              exact linesAfter_concat state next_eq
            exact ih next_state rest_blank (by rw [next_state]; rfl)

/-- What can be read of a text of blank lines and comments consists of such lines. -/
theorem isSome_linesAfter_ofBytes {text : Bytes} (blank : isBlankAtBreaks text = true) :
    (linesAfter false (ofBytes text).chars).isSome :=
  isSome_linesAfter_readFrom rfl blank

end Source

end Emend.Yaml
