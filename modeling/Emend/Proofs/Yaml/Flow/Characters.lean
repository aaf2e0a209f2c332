/-
# The characters of documents in one line

Printable characters are read from bytes as they are.  Between quotes an escape by number is read
back as the character it stands for, and a word as itself.
-/

import Emend.Proofs.Yaml.Flow.Written
import Emend.Proofs.Yaml.Lines

namespace Emend.Yaml

/-! ## From bytes -/

namespace Source

variable {c : Char}

theorem utf8EncodeChar_of_isPrintable (printable : IsPrintable c) :
    String.utf8EncodeChar c = [UInt8.ofNat c.toNat] := by
  have low : c.toNat ≤ 0x7F := Nat.le_trans printable.2 (by decide)
  rw [String.utf8EncodeChar]
  simp only [Char.toNat_val, low, ↓reduceIte]

theorem toNat_ofNat_of_isPrintable (printable : IsPrintable c) :
    (UInt8.ofNat c.toNat).toNat = c.toNat := by
  obtain ⟨least, greatest⟩ := printable
  exact UInt8.toNat_ofNat_of_lt' (Nat.lt_of_le_of_lt greatest (by decide))

theorem width?_of_isPrintable (printable : IsPrintable c) :
    width? (UInt8.ofNat c.toNat) = some 1 := by
  have value_eq := toNat_ofNat_of_isPrintable printable
  obtain ⟨least, greatest⟩ := printable
  rw [width?, if_pos]
  rw [UInt8.lt_iff_toNat_lt, value_eq]
  exact Nat.lt_of_le_of_lt greatest (by decide)

theorem decode_of_isPrintable (printable : IsPrintable c) (offset : Nat) :
    decode offset 1 (UInt8.ofNat c.toNat) [] = .ok c := by
  have value_eq := toNat_ofNat_of_isPrintable printable
  obtain ⟨least, greatest⟩ := printable
  have allowed : isAllowed c.toNat = true := by simp [isAllowed, least, greatest]
  have noSurrogate : ((0xD800 ≤ c.toNat && c.toNat ≤ 0xDFFF) || 0x10FFFF < c.toNat) = false := by
    simp
    omega
  simp only [decode, addTails, leadBits, value_eq, bind, Except.bind, Nat.not_lt_zero, ↓reduceIte,
    noSurrogate, allowed, Bool.not_true, Bool.false_eq_true, Char.ofNat_toNat]
  rfl

theorem readFrom_of_isPrintable (progress : Progress) (between : progress.pending = 0)
    {chars : List Char} (printable : ∀ c ∈ chars, IsPrintable c) :
    readFrom progress (Bytes.ofChars chars) = { chars := progress.done.reverse ++ chars } := by
  induction chars generalizing progress with
  | nil => simp [readFrom]
  | cons c chars ih =>
    obtain ⟨first, others⟩ := List.forall_mem_cons.mp printable
    rw [Bytes.ofChars_cons, utf8EncodeChar_of_isPrintable first, List.singleton_append, readFrom,
      between]
    simp only [width?_of_isPrintable first, Nat.sub_self, List.take_zero, List.length_nil,
      Nat.lt_irrefl, ↓reduceIte, decode_of_isPrintable first]
    rw [ih _ rfl others]
    simp [Progress.after]

/-- Printable characters are read as they are. -/
theorem ofBytes_of_isPrintable {chars : List Char} (printable : ∀ c ∈ chars, IsPrintable c) :
    ofBytes (Bytes.ofChars chars) = { chars } :=
  readFrom_of_isPrintable {} rfl printable

end Source

/-! ## Between quotes -/

theorem startsDocumentIndicator_eq_false {c : Char} (dash : c ≠ '-') (dot : c ≠ '.')
    (rest : List Char) : startsDocumentIndicator (c :: rest) = false := by
  unfold startsDocumentIndicator
  split
  · rename_i same
    obtain ⟨rfl, -⟩ := List.cons.inj same
    simp [dash, dot]
  · rfl

section

variable {start mark : Mark} {rest : List Char}

/-- Characters that have been dealt with are passed over. -/
theorem exists_quotedFrom_passed (text : List Char) (gap : Gap) (passed : List Char)
    (mark : Mark) (rest : List Char) :
    ∃ after, quotedFrom none '"' start text gap passed.length mark (passed ++ rest) =
      quotedFrom none '"' start text gap 0 after rest := by
  induction passed generalizing mark with
  | nil => exact ⟨mark, rfl⟩
  | cons c passed ih =>
    obtain ⟨after, passed_eq⟩ := ih (mark.after c (passed ++ rest))
    refine ⟨after, ?_⟩
    rw [List.cons_append, List.length_cons, quotedFrom, passed_eq]

theorem numberedEscape_hexDigits (capital : Bool) (c : Char) :
    numberedEscape start mark 8 (hexDigits capital 8 c.toNat ++ rest) = .ok c := by
  have digits : (hexDigits capital 8 c.toNat ++ rest).take 8 = hexDigits capital 8 c.toNat := by
    rw [List.take_append_of_le_length (by simp), List.take_of_length_le (by simp)]
  have range : c.toNat < 0xD800 ∨ (0xDFFF < c.toNat ∧ c.toNat < 0x110000) := c.valid
  have value : hexValue? 0 (hexDigits capital 8 c.toNat) = some c.toNat := by
    have fits : c.toNat < Nat.pow 16 8 := Nat.lt_trans (by omega : _ < 0x110000) (by decide)
    rw [hexValue?_hexDigits capital fits]
  have scalar : ((0xD800 ≤ c.toNat && c.toNat ≤ 0xDFFF) || 0x10FFFF < c.toNat) = false := by
    simp
    omega
  simp only [numberedEscape, digits, value, length_hexDigits, Nat.lt_irrefl, ↓reduceIte, scalar,
    Bool.false_eq_true, Char.ofNat_toNat]

/-- An escape by number is read as its character. -/
theorem exists_quotedFrom_escaped (capital : Bool) (c : Char) (text : List Char) (mark : Mark)
    (rest : List Char) :
    ∃ after, quotedFrom none '"' start text {} 0 mark (escaped capital c ++ rest) =
      quotedFrom none '"' start (c :: text) {} 0 after rest := by
  let digits := hexDigits capital 8 c.toNat
  obtain ⟨after, passed_eq⟩ := exists_quotedFrom_passed (c :: text) {} ('U' :: digits)
    (mark.after '\\' ('U' :: (digits ++ rest))) rest
  have passed_count : ('U' :: digits).length = 8 + 1 := by simp [digits]
  have unmarked := startsDocumentIndicator_eq_false (c := '\\') (by decide) (by decide)
    ('U' :: (digits ++ rest))
  refine ⟨after, ?_⟩
  rw [← passed_eq, passed_count, escaped, List.cons_append, List.cons_append]
  conv => lhs; rw [quotedFrom]
  simp [isBlank, isBreak, demand, unmarked, digits, shortEscape?, escapeDigits?,
    numberedEscape_hexDigits, Gap.reversedText, bind, Except.bind]

/-- Escaped characters and the quote after them are read as a text. -/
theorem exists_quotedFrom_text (capital : Bool) (said : List Char) (start mark : Mark)
    (text rest : List Char) :
    ∃ stop,
      quotedFrom none '"' start text {} 0 mark (said.flatMap (escaped capital) ++ '"' :: rest) =
        .ok { text := text.reverse ++ said, stop, cursor := { rest, mark := stop } } := by
  induction said generalizing text mark with
  | nil =>
    have unmarked := startsDocumentIndicator_eq_false (c := '"') (by decide) (by decide) rest
    refine ⟨mark.after '"' rest, ?_⟩
    rw [List.flatMap_nil, List.nil_append, quotedFrom]
    simp [isBlank, isBreak, demand, unmarked, Gap.reversedText, bind, Except.bind, pure,
      Except.pure]
  | cons c said ih =>
    obtain ⟨after, escaped_eq⟩ := exists_quotedFrom_escaped capital c text mark
      (said.flatMap (escaped capital) ++ '"' :: rest)
    obtain ⟨stop, text_eq⟩ := ih after (c :: text)
    refine ⟨stop, ?_⟩
    rw [List.flatMap_cons, List.append_assoc, escaped_eq, text_eq]
    simp

end

section

variable {c : Char}

theorem ne_of_isAlpha {d : Char} (letter : c.isAlpha = true) (other : d.isAlpha = false) :
    c ≠ d := by
  rintro rfl
  rw [letter] at other
  cases other

theorem isBlank_of_isAlpha (letter : c.isAlpha = true) : isBlank c = false := by
  simp [isBlank, ne_of_isAlpha letter (d := ' ') rfl, ne_of_isAlpha letter (d := '\t') rfl]

theorem isBreak_of_isAlpha (letter : c.isAlpha = true) : isBreak c = false := by
  simp [isBreak, ne_of_isAlpha letter (d := '\n') rfl, ne_of_isAlpha letter (d := '\r') rfl,
    ne_of_isAlpha letter (d := '\u0085') rfl, ne_of_isAlpha letter (d := '\u2028') rfl,
    ne_of_isAlpha letter (d := '\u2029') rfl]

theorem after_of_isAlpha (letter : c.isAlpha = true) (mark : Mark) (rest : List Char) :
    mark.after c rest = mark.next c := by
  simp [Mark.after, isBreak_of_isAlpha letter, ne_of_isAlpha letter (d := '\r') rfl]

end

/-- A word and the quote after it are read as the word. -/
theorem quotedFrom_word {word : List Char} (letters : ∀ c ∈ word, c.isAlpha = true)
    (start mark : Mark) (text rest : List Char) :
    quotedFrom none '"' start text {} 0 mark (word ++ '"' :: rest) =
      .ok { text := text.reverse ++ word, stop := mark.nextAll (word ++ ['"'])
            cursor := { rest, mark := mark.nextAll (word ++ ['"']) } } := by
  induction word generalizing text mark with
  | nil =>
    have unmarked := startsDocumentIndicator_eq_false (c := '"') (by decide) (by decide) rest
    rw [List.nil_append, quotedFrom]
    simp [isBlank, isBreak, demand, unmarked, Gap.reversedText, bind, Except.bind, pure,
      Except.pure, Mark.nextAll, Mark.after]
  | cons c word ih =>
    obtain ⟨letter, others⟩ := List.forall_mem_cons.mp letters
    have unmarked := startsDocumentIndicator_eq_false (ne_of_isAlpha letter rfl)
      (ne_of_isAlpha letter rfl) (word ++ '"' :: rest)
    have noQuote : c ≠ '"' := ne_of_isAlpha letter rfl
    have noSlash : c ≠ '\\' := ne_of_isAlpha letter rfl
    have noReturn : c ≠ '\r' := ne_of_isAlpha letter rfl
    rw [List.cons_append, quotedFrom]
    simp [isBlank_of_isAlpha letter, isBreak_of_isAlpha letter, noReturn, demand, unmarked, noQuote,
      noSlash, Gap.reversedText, after_of_isAlpha letter, bind, Except.bind, ih others,
      Mark.nextAll]

end Emend.Yaml
