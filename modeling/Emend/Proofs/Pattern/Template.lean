/-
# What templates stand for

The grammar of templates, as a relation between the characters of a template and the bytes it stands
for.  Each template stands for exactly one text, given what its references stand for, and that is the
one it expands to.
-/

import Emend.Pattern.Template
import Mathlib.Data.List.TakeWhile

namespace Emend.Pattern

variable {reference : List Char → Bytes} {chars rest name : List Char} {bytes other : Bytes}

/-- A dollar sign before these characters stands for itself. -/
structure NoReference (rest : List Char) : Prop where
  doubled : rest.head? ≠ some '$'
  bare : ∀ c ∈ rest.head?, isReferenceChar c = false
  unclosed : ∀ inner, rest = '\x7b' :: inner → '\x7d' ∉ inner

/-- What the characters of a template stand for, given what its references stand for. -/
inductive Expands (reference : List Char → Bytes) : List Char → Bytes → Prop where
  /-- Nothing is left. -/
  | nil : Expands reference [] []
  /-- A character that is no dollar sign. -/
  | char {c : Char} {rest : List Char} {bytes : Bytes} (plain : c ≠ '$')
      (others : Expands reference rest bytes) :
      Expands reference (c :: rest) (String.utf8EncodeChar c ++ bytes)
  /-- Two dollar signs. -/
  | doubled {rest : List Char} {bytes : Bytes} (others : Expands reference rest bytes) :
      Expands reference ('$' :: '$' :: rest) (String.utf8EncodeChar '$' ++ bytes)
  /-- A name in braces. -/
  | braced {name rest : List Char} {bytes : Bytes} (closes : '\x7d' ∉ name)
      (others : Expands reference rest bytes) :
      Expands reference ('$' :: '\x7b' :: (name ++ '\x7d' :: rest)) (reference name ++ bytes)
  /-- A name without braces, which is as long as it can be. -/
  | bare {name rest : List Char} {bytes : Bytes} (nonempty : name ≠ [])
      (all : ∀ c ∈ name, isReferenceChar c = true)
      (longest : ∀ c ∈ rest.head?, isReferenceChar c = false)
      (others : Expands reference rest bytes) :
      Expands reference ('$' :: (name ++ rest)) (reference name ++ bytes)
  /-- Any other dollar sign. -/
  | lone {rest : List Char} {bytes : Bytes} (alone : NoReference rest)
      (others : Expands reference rest bytes) :
      Expands reference ('$' :: rest) (String.utf8EncodeChar '$' ++ bytes)

/-! ## Reading a template -/

theorem templateFrom_eq (skip : Nat) (done : List TemplatePart) (chars : List Char) :
    templateFrom skip done chars = done.reverse ++ templateFrom 0 [] (chars.drop skip) := by
  induction chars generalizing skip done with
  | nil => simp [templateFrom]
  | cons c rest ih =>
    cases skip with
    | succ more =>
      rw [templateFrom, ih]
      rfl
    | zero =>
      simp only [templateFrom, List.drop_zero]
      split
      · split
        · rename_i part length _
          rw [ih length (part :: done), ih length [part]]
          simp
        · rw [ih 0 (.char c :: done), ih 0 [.char c]]
          simp
      · rw [ih 0 (.char c :: done), ih 0 [.char c]]
        simp

theorem templateFrom_of_ne {c : Char} (plain : c ≠ '$') :
    templateFrom 0 [] (c :: rest) = .char c :: templateFrom 0 [] rest := by
  rw [templateFrom, if_neg plain, templateFrom_eq]
  rfl

theorem templateFrom_of_some {part : TemplatePart} {length : Nat}
    (follows : referenceAfter? rest = some (part, length)) :
    templateFrom 0 [] ('$' :: rest) = part :: templateFrom 0 [] (rest.drop length) := by
  rw [templateFrom, if_pos rfl, follows]
  exact templateFrom_eq length [part] rest

theorem templateFrom_of_none (alone : referenceAfter? rest = none) :
    templateFrom 0 [] ('$' :: rest) = .char '$' :: templateFrom 0 [] rest := by
  rw [templateFrom, if_pos rfl, alone]
  exact templateFrom_eq 0 [.char '$'] rest

/-! ## What follows a dollar sign -/

theorem referenceAfter?_of_braced (closes : '\x7d' ∉ name) :
    referenceAfter? ('\x7b' :: (name ++ '\x7d' :: rest)) =
      some (.ofName name, name.length + 2) := by
  have name_eq : (name ++ '\x7d' :: rest).takeWhile (· ≠ '\x7d') = name := by
    rw [List.takeWhile_append_of_pos]
    · simp
    · intro c member
      simpa using fun same : c = '\x7d' => closes (same ▸ member)
  simp only [referenceAfter?, name_eq]
  rw [if_pos (by simp)]

theorem referenceAfter?_of_bare (nonempty : name ≠ []) (all : ∀ c ∈ name, isReferenceChar c = true)
    (longest : ∀ c ∈ rest.head?, isReferenceChar c = false) :
    referenceAfter? (name ++ rest) = some (.ofName name, name.length) := by
  obtain ⟨c, more, rfl⟩ := List.exists_cons_of_ne_nil nonempty
  have first := all c List.mem_cons_self
  have dollar : c ≠ '$' := fun same => absurd (same ▸ first) (by decide)
  have brace : c ≠ '\x7b' := fun same => absurd (same ▸ first) (by decide)
  have name_eq : (c :: more ++ rest).takeWhile isReferenceChar = c :: more := by
    rw [List.takeWhile_append_of_pos all]
    cases rest with
    | nil => simp
    | cons d rest => simp [longest d rfl]
  unfold referenceAfter?
  split
  · rename_i same
    exact absurd (List.cons.inj same).1 dollar
  · rename_i same
    exact absurd (List.cons.inj same).1 brace
  · simp only [name_eq]
    rfl

theorem referenceAfter?_of_noReference (alone : NoReference rest) :
    referenceAfter? rest = none := by
  unfold referenceAfter?
  split
  · exact absurd rfl alone.doubled
  · rename_i inner
    have name_eq : inner.takeWhile (· ≠ '\x7d') = inner := by
      rw [List.takeWhile_eq_self_iff]
      intro c member
      simpa using fun same : c = '\x7d' => alone.unclosed inner rfl (same ▸ member)
    simp only [name_eq, Nat.lt_irrefl, if_false]
  · have name_eq : rest.takeWhile isReferenceChar = [] := by
      cases rest with
      | nil => rfl
      | cons c rest => simp [alone.bare c rfl]
    simp [name_eq]

/-- What follows a dollar sign is one of the forms of a reference, or none. -/
theorem reference_cases (rest : List Char) :
    (∃ after, rest = '$' :: after) ∨
    (∃ name after, '\x7d' ∉ name ∧ rest = '\x7b' :: (name ++ '\x7d' :: after)) ∨
    (∃ name after, name ≠ [] ∧ (∀ c ∈ name, isReferenceChar c = true) ∧
      (∀ c ∈ after.head?, isReferenceChar c = false) ∧ rest = name ++ after) ∨
    NoReference rest := by
  rcases rest with - | ⟨c, rest⟩
  · exact .inr (.inr (.inr ⟨by simp, by simp, by simp⟩))
  · by_cases doubled : c = '$'
    · exact .inl ⟨rest, by rw [doubled]⟩
    · by_cases braced : c = '\x7b' ∧ '\x7d' ∈ rest
      · obtain ⟨rfl, closes⟩ := braced
        obtain ⟨name, after, rfl, first⟩ := List.eq_append_cons_of_mem closes
        exact .inr (.inl ⟨name, after, first, rfl⟩)
      · by_cases bare : isReferenceChar c = true
        · let name := (c :: rest).takeWhile isReferenceChar
          refine .inr (.inr (.inl ⟨name, (c :: rest).dropWhile isReferenceChar, ?_, ?_, ?_, ?_⟩))
          · simp [name, bare]
          · intro d member
            exact List.mem_takeWhile_imp member
          · intro d head
            have stops := List.head?_dropWhile_not isReferenceChar (c :: rest)
            rw [Option.mem_def.mp head] at stops
            simpa using stops
          · exact List.takeWhile_append_dropWhile.symm
        · refine .inr (.inr (.inr ⟨by simpa using doubled, by simpa using bare, ?_⟩))
          rintro inner same closes
          cases same
          exact braced ⟨rfl, closes⟩

/-! ## The text of a template -/

variable {group : Nat → Bytes} {number? : String → Option Nat}

/-- What a name stands for: the text of the group with that number, or else with that name. -/
def referenceText (group : Nat → Bytes) (number? : String → Option Nat) (name : List Char) :
    Bytes :=
  match referenceNumber? name with
  | some index => group index
  | none => (number? (String.ofList name)).elim [] group

theorem expand_cons (part : TemplatePart) (template : Template) :
    Template.expand (part :: template) group number? =
      Template.expand [part] group number? ++ Template.expand template group number? := by
  simp [Template.expand]

theorem expand_ofName (name : List Char) :
    Template.expand [.ofName name] group number? = referenceText group number? name := by
  unfold TemplatePart.ofName referenceText
  cases referenceNumber? name <;> simp [Template.expand]

/-- A template stands for no other text than it expands to. -/
theorem Expands.eq_expand (expands : Expands (referenceText group number?) chars bytes) :
    bytes = Template.expand (templateFrom 0 [] chars) group number? := by
  induction expands with
  | nil => rfl
  | char plain others ih =>
    rw [templateFrom_of_ne plain, expand_cons, ih]
    simp [Template.expand]
  | doubled others ih =>
    rw [templateFrom_of_some rfl, expand_cons, ih]
    simp [Template.expand]
  | @braced name rest bytes closes others ih =>
    rw [templateFrom_of_some (referenceAfter?_of_braced closes), expand_cons, expand_ofName, ih]
    simp
  | bare nonempty all longest others ih =>
    rw [templateFrom_of_some (referenceAfter?_of_bare nonempty all longest), expand_cons,
      expand_ofName, ih, List.drop_left]
  | lone alone others ih =>
    rw [templateFrom_of_none (referenceAfter?_of_noReference alone), expand_cons, ih]
    simp [Template.expand]

/-- Every template stands for a text. -/
theorem exists_expands (reference : List Char → Bytes) (chars : List Char) :
    ∃ bytes, Expands reference chars bytes := by
  induction size : chars.length using Nat.strongRecOn generalizing chars with
  | ind size ih =>
    rcases chars with - | ⟨c, rest⟩
    · exact ⟨[], .nil⟩
    · by_cases plain : c = '$'
      · subst plain
        have shorter (after : List Char) (less : after.length ≤ rest.length) :
            ∃ bytes, Expands reference after bytes :=
          ih after.length (by rw [← size, List.length_cons]; omega) after rfl
        rcases reference_cases rest with ⟨after, rfl⟩ | ⟨name, after, closes, rfl⟩ |
          ⟨name, after, nonempty, all, longest, rfl⟩ | alone
        · obtain ⟨bytes, others⟩ := shorter after (by simp)
          exact ⟨_, .doubled others⟩
        · obtain ⟨bytes, others⟩ := shorter after (by simp; omega)
          exact ⟨_, .braced closes others⟩
        · obtain ⟨bytes, others⟩ := shorter after (by simp)
          exact ⟨_, .bare nonempty all longest others⟩
        · obtain ⟨bytes, others⟩ := shorter rest (Nat.le_refl _)
          exact ⟨_, .lone alone others⟩
      · obtain ⟨bytes, others⟩ := ih rest.length (by simp [← size]) rest rfl
        exact ⟨_, .char plain others⟩

/-- A template stands for what it expands to, and for nothing else. -/
theorem Template.expands_iff (text : String) :
    Expands (referenceText group number?) text.toList bytes ↔
      bytes = (parse text).expand group number? := by
  refine ⟨fun expands => expands.eq_expand, ?_⟩
  rintro rfl
  obtain ⟨bytes, expands⟩ := exists_expands (referenceText group number?) text.toList
  have same : bytes = (parse text).expand group number? := expands.eq_expand
  rwa [← same]

end Emend.Pattern
