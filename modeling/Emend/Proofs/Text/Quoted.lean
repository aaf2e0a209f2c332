/-
# Reading quoted texts

Inside quotes a quote and a backslash stand only behind a backslash, so reading from the left finds
where each escape and where the text ends.  A rule as it is shown has two quoted texts in it: its
kind and both texts can be read back, whatever characters they are made of.
-/

import Emend.Number.Reading
import Emend.Rule

namespace Emend

/-! ## Digits -/

namespace Number

theorem digitsFrom_concat {base value result digit : Nat} {text : List Char} {c : Char}
    (first : digitsFrom base value text = some result) (last : hexDigit? c = some digit)
    (fits : digit < base) :
    digitsFrom base value (text ++ [c]) = some (result * base + digit) := by
  induction text generalizing value with
  | nil =>
    cases first
    simp [digitsFrom, last, fits]
  | cons b text ih =>
    rw [digitsFrom] at first
    rw [List.cons_append, digitsFrom]
    split at first
    · split at first
      · rename_i small
        rw [if_pos small]
        exact ih first
      · cases first
    · cases first

theorem hexDigit?_digitChar : ∀ n < 16, hexDigit? (Nat.digitChar n) = some n := by
  decide

theorem digitChar_ne_brace : ∀ n < 16, Nat.digitChar n ≠ '\x7d' := by
  decide

/-- Hexadecimal digits are read as the number that they write. -/
theorem digitsFrom_toDigits (n : Nat) : digitsFrom 16 0 (Nat.toDigits 16 n) = some n := by
  induction n using Nat.strongRecOn with
  | ind n ih =>
    rw [Nat.toDigits_eq_if (by decide)]
    split
    · rename_i small
      simp [digitsFrom, hexDigit?_digitChar n small, small]
    · rename_i large
      have less : n % 16 < 16 := Nat.mod_lt n (by decide)
      rw [digitsFrom_concat (ih (n / 16) (by omega)) (hexDigit?_digitChar _ less) less,
        Nat.div_add_mod']

theorem digits?_toDigits (n : Nat) : digits? 16 (Nat.toDigits 16 n) = some n := by
  rw [digits?, if_neg (by simp [Nat.toDigits_ne_nil]), digitsFrom_toDigits]

theorem brace_not_mem_toDigits (n : Nat) : '\x7d' ∉ Nat.toDigits 16 n := by
  induction n using Nat.strongRecOn with
  | ind n ih =>
    rw [Nat.toDigits_eq_if (by decide)]
    split
    · rename_i small
      rw [List.mem_singleton]
      exact (digitChar_ne_brace n small).symm
    · rename_i large
      have less : n % 16 < 16 := Nat.mod_lt n (by decide)
      rw [List.mem_append, List.mem_singleton, not_or]
      exact ⟨ih (n / 16) (by omega), (digitChar_ne_brace _ less).symm⟩

end Number

namespace Quoted

/-! ## Escapes -/

/-- The character that an escape stands for, given all that is behind its backslash. -/
def escaped? : List Char → Option Char
  | ['0'] => some '\x00'
  | ['t'] => some '\t'
  | ['r'] => some '\r'
  | ['n'] => some '\n'
  | ['\\'] => some '\\'
  | ['"'] => some '"'
  | 'u' :: '\x7b' :: number =>
    if number.getLast? = some '\x7d' then (Number.digits? 16 number.dropLast).map Char.ofNat
    else none
  | _ => none

/-- Letters behind a backslash are an escape for a character, and nothing that they begin with is
one. -/
structure IsEscape (letters : List Char) (c : Char) : Prop where
  whole : escaped? letters = some c
  pending : ∀ before after, letters = before ++ after → after ≠ [] → escaped? before = none

theorem isEscape_of_shortEscape? {c letter : Char} (short : shortEscape? c = some letter) :
    IsEscape [letter] c where
  whole := by
    unfold shortEscape? at short
    split at short <;> cases short <;> rfl
  pending before after split nonempty := by
    cases before with
    | nil => rfl
    | cons b before =>
      rw [List.cons_append, List.cons.injEq] at split
      exact absurd (List.append_eq_nil_iff.mp split.2.symm).2 nonempty

theorem isEscape_number (c : Char) :
    IsEscape ('u' :: '\x7b' :: (Nat.toDigits 16 c.toNat ++ ['\x7d'])) c where
  whole := by
    simp [escaped?, Number.digits?_toDigits, Char.ofNat_toNat]
  pending before after split nonempty := by
    match before with
    | [] => rfl
    | [b] =>
      rw [List.cons_append, List.cons.injEq] at split
      rw [← split.1]
      rfl
    | b :: d :: number =>
      rw [List.cons_append, List.cons_append, List.cons.injEq, List.cons.injEq] at split
      obtain ⟨rfl, rfl, split⟩ := split
      -- The brace that ends the escape is its last letter, and the digits have none.
      have proper : number <+: Nat.toDigits 16 c.toNat := by
        obtain ⟨others, last, rfl⟩ := (List.eq_nil_or_concat after).resolve_left nonempty
        rw [List.concat_eq_append, ← List.append_assoc] at split
        exact ⟨others, (List.append_inj' split rfl).1.symm⟩
      rw [escaped?, if_neg]
      intro ends
      exact Number.brace_not_mem_toDigits c.toNat
        (proper.subset (List.mem_of_getLast? ends))

/-! ## Texts -/

/-- Read a text up to the quote that ends it, after the characters of `done`, which are in reverse.
If an escape is under way, `escape` is what has been read of it.  The answer holds what comes behind
the quote. -/
def unquoteFrom (escape : Option (List Char)) (done : List Char) :
    List Char → Option (String × List Char)
  | [] => none
  | c :: rest =>
    match escape with
    | none =>
      if c = '"' then some (String.ofList done.reverse, rest)
      else if c = '\\' then unquoteFrom (some []) done rest
      else unquoteFrom none (c :: done) rest
    | some letters =>
      match escaped? (letters ++ [c]) with
      | some d => unquoteFrom none (d :: done) rest
      | none => unquoteFrom (some (letters ++ [c])) done rest

/-- The text in the quotes at the beginning, and what comes behind it. -/
def unquote? : List Char → Option (String × List Char)
  | '"' :: rest => unquoteFrom none [] rest
  | _ => none

/-- What is left of an escape is read to its end. -/
theorem unquoteFrom_escape {before after : List Char} {c : Char}
    (isEscape : IsEscape (before ++ after) c) (nonempty : after ≠ []) (done rest : List Char) :
    unquoteFrom (some before) done (after ++ rest) = unquoteFrom none (c :: done) rest := by
  induction after generalizing before with
  | nil => exact absurd rfl nonempty
  | cons letter after ih =>
    have split : before ++ letter :: after = before ++ [letter] ++ after := by simp
    rw [List.cons_append, unquoteFrom]
    by_cases last : after = []
    · subst last
      rw [isEscape.whole]
      rfl
    · simp only [isEscape.pending _ _ split last]
      rw [split] at isEscape
      exact ih isEscape last

theorem unquoteFrom_quoteChar (c : Char) (done rest : List Char) :
    unquoteFrom none done (quoteChar c ++ rest) = unquoteFrom none (c :: done) rest := by
  unfold quoteChar
  split
  · rename_i letter short
    have isEscape : IsEscape ([] ++ [letter]) c := isEscape_of_shortEscape? short
    exact unquoteFrom_escape isEscape (List.cons_ne_nil _ _) done rest
  · rename_i long
    split
    · have isEscape : IsEscape ([] ++ 'u' :: '\x7b' :: (Nat.toDigits 16 c.toNat ++ ['\x7d'])) c :=
        isEscape_number c
      have letters_eq : ['\\', 'u', '\x7b'] ++ Nat.toDigits 16 c.toNat ++ ['\x7d'] ++ rest =
          '\\' :: ('u' :: '\x7b' :: (Nat.toDigits 16 c.toNat ++ ['\x7d']) ++ rest) := by simp
      rw [letters_eq]
      exact unquoteFrom_escape isEscape (List.cons_ne_nil _ _) done rest
    · -- A character that stands for itself is neither of the two that have a meaning here.
      have notQuote : c ≠ '"' := by
        rintro rfl
        cases long
      have notBackslash : c ≠ '\\' := by
        rintro rfl
        cases long
      rw [List.singleton_append, unquoteFrom, if_neg notQuote, if_neg notBackslash]

theorem unquoteFrom_quoted (text done rest : List Char) :
    unquoteFrom none done (text.flatMap quoteChar ++ '"' :: rest) =
      some (String.ofList (done.reverse ++ text), rest) := by
  induction text generalizing done with
  | nil => simp [unquoteFrom]
  | cons c text ih =>
    rw [List.flatMap_cons, List.append_assoc, unquoteFrom_quoteChar, ih]
    simp

/-- A quoted text is read back, whatever comes behind it. -/
theorem unquote?_quote (text : String) (rest : List Char) :
    unquote? ((quote text).toList ++ rest) = some (text, rest) := by
  have quoted_eq : (quote text).toList ++ rest =
      '"' :: (text.toList.flatMap quoteChar ++ '"' :: rest) := by
    simp [quote]
  rw [quoted_eq, unquote?, unquoteFrom_quoted, List.reverse_nil, List.nil_append,
    String.ofList_toList]

end Quoted

/-! ## Rules -/

namespace Rule

open Quoted

/-- The kind and the texts of the rule that a text shows, if it shows one. -/
def shown? (text : String) : Option (String × Substitution) :=
  let kind := text.toList.takeWhile (· ≠ ' ')
  match unquote? ((text.toList.dropWhile (· ≠ ' ')).drop 1) with
  | some (find, ' ' :: '-' :: '>' :: ' ' :: rest) =>
    match unquote? rest with
    | some (replacement, []) => some (String.ofList kind, { find, replacement })
    | _ => none
  | _ => none

theorem ne_blank_of_mem_kind (rule : Rule) : ∀ c ∈ rule.kind.toList, c ≠ ' ' := by
  cases rule with
  | literal rule => simp [kind]
  | pattern rule regex => simp [kind]

theorem shown?_display (rule : Rule) :
    shown? rule.display = some (rule.kind, rule.substitution) := by
  let rest := (quote rule.substitution.replacement).toList
  have display_eq : rule.display.toList =
      rule.kind.toList ++
        ' ' :: ((quote rule.substitution.find).toList ++ ' ' :: '-' :: '>' :: ' ' :: rest) := by
    simp [display, rest]
  have kind_eq : rule.display.toList.takeWhile (· ≠ ' ') = rule.kind.toList := by
    rw [display_eq, List.takeWhile_append_of_pos (by simpa using rule.ne_blank_of_mem_kind)]
    simp
  have after_eq : (rule.display.toList.dropWhile (· ≠ ' ')).drop 1 =
      (quote rule.substitution.find).toList ++ ' ' :: '-' :: '>' :: ' ' :: rest := by
    rw [display_eq, List.dropWhile_append_of_pos (by simpa using rule.ne_blank_of_mem_kind)]
    simp
  have replacement_eq : unquote? rest = some (rule.substitution.replacement, []) := by
    simpa using unquote?_quote rule.substitution.replacement []
  simp only [shown?, kind_eq, after_eq, unquote?_quote, replacement_eq, String.ofList_toList]

/-- A rule as it is shown tells its kind and its texts: they can be read back, so rules that look the
same are of one kind and have the same texts. -/
theorem display_identifies_rule :
    (∀ rule : Rule, shown? rule.display = some (rule.kind, rule.substitution)) ∧
      ∀ first second : Rule, first.display = second.display ↔
        first.kind = second.kind ∧ first.substitution = second.substitution := by
  refine ⟨shown?_display, fun first second => ⟨fun same => ?_, fun ⟨kinds, texts⟩ => ?_⟩⟩
  · have read := shown?_display first
    rw [same, shown?_display, Option.some.injEq, Prod.mk.injEq] at read
    exact ⟨read.1.symm, read.2.symm⟩
  · simp only [display, kinds, texts]

example : shown? "string \"\\\" -> \\u\x7b301\x7d\" -> \"\\n\"" =
    some ("string", ⟨"\" -> \u0301", "\n"⟩) := by
  decide +kernel

end Rule

end Emend
