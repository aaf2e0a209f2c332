/-
# Documents in one line

A `Flow` is a document that is written in one line: texts in double quotes, every character of which
is escaped by its number, sequences in brackets and mappings in braces.  This is what is written,
and the tokens and events that it should be taken apart into.
-/

import Emend.Yaml.Event

namespace Emend.Yaml

/-! ## Escapes by number -/

/-- The hexadecimal digit with a value; beyond nine it is a letter, capital or small. -/
def hexDigit (capital : Bool) (value : Nat) : Char :=
  if value < 10 then Char.ofNat ('0'.toNat + value)
  else Char.ofNat ((if capital then 'A' else 'a').toNat + (value - 10))

/-- The last `count` hexadecimal digits of a number. -/
def hexDigits (capital : Bool) : (count n : Nat) → List Char
  | 0, _ => []
  | count + 1, n => hexDigits capital count (n / 16) ++ [hexDigit capital (n % 16)]

/-- A character as it is escaped by its number, with eight digits. -/
def escaped (capital : Bool) (c : Char) : List Char :=
  '\\' :: 'U' :: hexDigits capital 8 c.toNat

/-! ## Trees -/

/-- The key of a mapping: a word that is not too long to be one. -/
structure Flow.Key where
  word : List Char
  isWord : word.all Char.isAlpha = true
  isShort : word.length < 1000

/-- A document to be written in one line. -/
inductive Flow where
  | text (chars : List Char)
  | sequence (items : List Flow)
  | mapping (entries : List (Flow.Key × Flow))

namespace Flow

/-- What stands before an item or an entry, unless it is the first. -/
def separator (isFirst : Bool) : List Char := if isFirst then [] else [',', ' ']

mutual

/-- A document as it is written. -/
def chars (capital : Bool) : Flow → List Char
  | .text said => '"' :: (said.flatMap (escaped capital) ++ ['"'])
  | .sequence items => '[' :: itemsChars capital true items
  | .mapping entries => '\x7b' :: entriesChars capital true entries

/-- The items of a sequence with the bracket after them. -/
def itemsChars (capital isFirst : Bool) : List Flow → List Char
  | [] => [']']
  | item :: items =>
    separator isFirst ++ (item.chars capital ++ itemsChars capital false items)

/-- The entries of a mapping with the brace after them. -/
def entriesChars (capital isFirst : Bool) : List (Key × Flow) → List Char
  | [] => ['\x7d']
  | (key, value) :: entries =>
    separator isFirst ++ ('"' :: (key.word ++ '"' :: ':' :: ' ' ::
      (value.chars capital ++ entriesChars capital false entries)))

end

/-- The token before an item or an entry, unless it is the first. -/
def comma (isFirst : Bool) : List TokenKind := if isFirst then [] else [.flowEntry]

mutual

/-- The tokens of a document. -/
def tokens : Flow → List TokenKind
  | .text said => [.scalar said .doubleQuoted]
  | .sequence items => .flowSequenceStart :: itemsTokens true items
  | .mapping entries => .flowMappingStart :: entriesTokens true entries

/-- The tokens of the items of a sequence and of its end. -/
def itemsTokens (isFirst : Bool) : List Flow → List TokenKind
  | [] => [.flowSequenceEnd]
  | item :: items => comma isFirst ++ (item.tokens ++ itemsTokens false items)

/-- The tokens of the entries of a mapping and of its end. -/
def entriesTokens (isFirst : Bool) : List (Key × Flow) → List TokenKind
  | [] => [.flowMappingEnd]
  | (key, value) :: entries =>
    comma isFirst ++ (.key :: .scalar key.word .doubleQuoted :: .value ::
      (value.tokens ++ entriesTokens false entries))

end

mutual

/-- The events of a document. -/
def events : Flow → List EventKind
  | .text said => [.scalar {} said false]
  | .sequence items => .sequenceStart {} :: itemsEvents items
  | .mapping entries => .mappingStart {} :: entriesEvents entries

/-- The events of the items of a sequence and of its end. -/
def itemsEvents : List Flow → List EventKind
  | [] => [.sequenceEnd]
  | item :: items => item.events ++ itemsEvents items

/-- The events of the entries of a mapping and of its end. -/
def entriesEvents : List (Key × Flow) → List EventKind
  | [] => [.mappingEnd]
  | (key, value) :: entries =>
    .scalar {} key.word false :: (value.events ++ entriesEvents entries)

end

end Flow

/-! ## What the characters are -/

/-- A character that takes one byte and may stand in any document. -/
def IsPrintable (c : Char) : Prop := 0x20 ≤ c.toNat ∧ c.toNat ≤ 0x7E

instance (c : Char) : Decidable (IsPrintable c) := inferInstanceAs (Decidable (_ ∧ _))

theorem hexDigit_spec (capital : Bool) {value : Nat} (isDigit : value < 16) :
    IsPrintable (hexDigit capital value) ∧
      Number.hexDigit? (hexDigit capital value) = some value := by
  have all : ∀ capital : Bool, ∀ value < 16, IsPrintable (hexDigit capital value) ∧
      Number.hexDigit? (hexDigit capital value) = some value := by
    decide
  exact all capital value isDigit

@[simp] theorem length_hexDigits (capital : Bool) (count n : Nat) :
    (hexDigits capital count n).length = count := by
  induction count generalizing n with
  | zero => rfl
  | succ count ih => rw [hexDigits, List.length_append, ih, List.length_singleton]

theorem isPrintable_of_mem_hexDigits {capital : Bool} {count n : Nat} :
    ∀ c ∈ hexDigits capital count n, IsPrintable c := by
  induction count generalizing n with
  | zero => exact List.forall_mem_nil _
  | succ count ih =>
    have digit := (hexDigit_spec capital (Nat.mod_lt n (by decide : 0 < 16))).1
    rw [hexDigits, List.forall_mem_append, List.forall_mem_singleton]
    exact ⟨ih, digit⟩

theorem hexValue?_concat {digits : List Char} {value found digit : Nat} {c : Char}
    (digits_eq : hexValue? value digits = some found)
    (digit_eq : Number.hexDigit? c = some digit) :
    hexValue? value (digits ++ [c]) = some (found * 16 + digit) := by
  induction digits generalizing value with
  | nil =>
    cases digits_eq
    simp [hexValue?, digit_eq]
  | cons d digits ih =>
    rw [hexValue?] at digits_eq
    rw [List.cons_append, hexValue?]
    cases first_eq : Number.hexDigit? d with
    | none => simp [first_eq] at digits_eq
    | some first =>
      rw [first_eq] at digits_eq
      exact ih digits_eq

/-- Enough digits are worth the number that they are those of. -/
theorem hexValue?_hexDigits (capital : Bool) {count n : Nat} (fits : n < Nat.pow 16 count) :
    hexValue? 0 (hexDigits capital count n) = some n := by
  induction count generalizing n with
  | zero =>
    obtain rfl : n = 0 := Nat.lt_one_iff.mp fits
    rfl
  | succ count ih =>
    have digit := (hexDigit_spec capital (Nat.mod_lt n (by decide : 0 < 16))).2
    have rest_fits : n / 16 < Nat.pow 16 count :=
      (Nat.div_lt_iff_lt_mul (by decide)).mpr fits
    rw [hexDigits, hexValue?_concat (ih rest_fits) digit, Nat.div_add_mod']

theorem isPrintable_of_mem_escaped {capital : Bool} {c : Char} :
    ∀ d ∈ escaped capital c, IsPrintable d := by
  simp only [escaped, List.forall_mem_cons]
  exact ⟨by decide, by decide, isPrintable_of_mem_hexDigits⟩

theorem toNat_of_isAlpha {c : Char} (letter : c.isAlpha = true) :
    (0x41 ≤ c.toNat ∧ c.toNat ≤ 0x5A) ∨ (0x61 ≤ c.toNat ∧ c.toNat ≤ 0x7A) := by
  have upper : c.isUpper = decide (0x41 ≤ c.val ∧ c.val ≤ 0x5A) := rfl
  have lower : c.isLower = (decide (0x61 ≤ c.val) && decide (c.val ≤ 0x7A)) := rfl
  have either : (c.isUpper || c.isLower) = true := letter
  simpa [upper, lower, UInt32.le_iff_toNat_le] using either

namespace Flow

theorem isPrintable_of_mem_separator {isFirst : Bool} :
    ∀ c ∈ separator isFirst, IsPrintable c := by
  cases isFirst with
  | true => exact List.forall_mem_nil _
  | false =>
    have blank : ∀ c ∈ [' '], IsPrintable c := List.forall_mem_singleton.mpr (by decide)
    exact List.forall_mem_cons.mpr ⟨by decide, blank⟩

theorem Key.isPrintable (key : Key) : ∀ c ∈ key.word, IsPrintable c := by
  intro c member
  have letter := toNat_of_isAlpha (List.all_eq_true.mp key.isWord c member)
  unfold IsPrintable
  omega

mutual

/-- A document is written with printable characters alone. -/
theorem isPrintable_of_mem_chars (capital : Bool) (flow : Flow) :
    ∀ c ∈ flow.chars capital, IsPrintable c := by
  cases flow with
  | text said =>
    simp only [chars, List.forall_mem_cons, List.forall_mem_append, List.mem_flatMap,
      forall_exists_index, and_imp]
    exact ⟨by decide, fun d c _ member => isPrintable_of_mem_escaped d member, by decide,
      List.forall_mem_nil _⟩
  | sequence items =>
    simp only [chars, List.forall_mem_cons]
    exact ⟨by decide, isPrintable_of_mem_itemsChars capital true items⟩
  | mapping entries =>
    simp only [chars, List.forall_mem_cons]
    exact ⟨by decide, isPrintable_of_mem_entriesChars capital true entries⟩

theorem isPrintable_of_mem_itemsChars (capital isFirst : Bool) (items : List Flow) :
    ∀ c ∈ itemsChars capital isFirst items, IsPrintable c := by
  match items with
  | [] =>
    rw [itemsChars, List.forall_mem_singleton]
    decide
  | item :: items =>
    simp only [itemsChars, List.forall_mem_append]
    exact ⟨isPrintable_of_mem_separator, isPrintable_of_mem_chars capital item,
      isPrintable_of_mem_itemsChars capital false items⟩

theorem isPrintable_of_mem_entriesChars (capital isFirst : Bool) (entries : List (Key × Flow)) :
    ∀ c ∈ entriesChars capital isFirst entries, IsPrintable c := by
  match entries with
  | [] =>
    rw [entriesChars, List.forall_mem_singleton]
    decide
  | (key, value) :: entries =>
    simp only [entriesChars, List.forall_mem_append, List.forall_mem_cons]
    exact ⟨isPrintable_of_mem_separator, by decide, key.isPrintable, by decide, by decide,
      by decide, isPrintable_of_mem_chars capital value,
      isPrintable_of_mem_entriesChars capital false entries⟩

end

end Flow

end Emend.Yaml
