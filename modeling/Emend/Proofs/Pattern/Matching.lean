/-
# Matches of an expression

An expression matches some bytes in a way that notes the groups which take part, each when it stops.
A search notes the same in slots, two for each number, where a group that takes part again takes the
place of the last time.
-/

import Emend.Proofs.Pattern.Assembled
import Mathlib.Data.List.Basic

namespace Emend.Pattern

/-! ## Matches of an expression -/

/-- A group that has taken part in a match: its number, and where its text starts and stops. -/
structure Noted where
  index : Nat
  start : Nat
  stop : Nat
  deriving Repr, DecidableEq

/-- `Repeats once count start stop noted`: so many matches one after the other. -/
inductive Repeats (once : (start stop : Nat) → List Noted → Prop) :
    (count start stop : Nat) → List Noted → Prop where
  | none {position : Nat} : Repeats once 0 position position []
  | more {count start middle stop : Nat} {noted others : List Noted}
      (first : once start middle noted) (rest : Repeats once count middle stop others) :
      Repeats once (count + 1) start stop (noted ++ others)

namespace Expr

/-- `expr.Matches content start stop noted`: an expression matches the bytes from `start` to `stop`.
The groups that take part are noted in the order in which they stop. -/
def Matches (content : Array UInt8) : Expr → (start stop : Nat) → List Noted → Prop
  | .empty, start, stop, noted => stop = start ∧ noted = []
  | .literal bytes, start, stop, noted =>
    bytes <+: content.toList.drop start ∧ stop = start + bytes.length ∧ noted = []
  | .scalar set, start, stop, noted =>
    ∃ c length, Utf8.scalarAt? content start = some (c, length) ∧ set.contains c.toNat = true ∧
      stop = start + length ∧ noted = []
  | .byte set, start, stop, noted =>
    ∃ b, content[start]? = some b ∧ set.contains b.toNat = true ∧ stop = start + 1 ∧ noted = []
  | .look kind, start, stop, noted => kind.holds content start = true ∧ stop = start ∧ noted = []
  | .seq first second, start, stop, noted =>
    ∃ middle before after, first.Matches content start middle before ∧
      second.Matches content middle stop after ∧ noted = before ++ after
  | .alt first second, start, stop, noted =>
    first.Matches content start stop noted ∨ second.Matches content start stop noted
  | .rep least most _ part, start, stop, noted =>
    ∃ count, least ≤ count ∧ (∀ bound ∈ most, count ≤ max least bound) ∧
      Repeats (part.Matches content) count start stop noted
  | .capture index part, start, stop, noted =>
    ∃ inner, part.Matches content start stop inner ∧ noted = inner ++ [⟨index, start, stop⟩]

/-- The numbers of the groups of an expression. -/
def groups : Expr → List Nat
  | .seq first second => first.groups ++ second.groups
  | .alt first second => first.groups ++ second.groups
  | .rep _ _ _ part => part.groups
  | .capture index part => index :: part.groups
  | _ => []

theorem isNumbered_iff {expr : Expr} : expr.IsNumbered ↔ ∀ index ∈ expr.groups, 0 < index := by
  induction expr with
  | empty | literal | scalar | byte | look => simp [IsNumbered, groups]
  | seq first second firstIh secondIh | alt first second firstIh secondIh =>
    simp [IsNumbered, groups, firstIh, secondIh, or_imp, forall_and]
  | rep least most greedy part ih => simpa [IsNumbered, groups] using ih
  | capture index part ih => simp [IsNumbered, groups, ih]

/-- No group has a group with its own number inside. -/
def IsNested : Expr → Prop
  | .seq first second => first.IsNested ∧ second.IsNested
  | .alt first second => first.IsNested ∧ second.IsNested
  | .rep _ _ _ part => part.IsNested
  | .capture index part => index ∉ part.groups ∧ part.IsNested
  | _ => True

end Expr

variable {once : Nat → Nat → List Noted → Prop} {start middle stop count : Nat}
  {noted others : List Noted}

theorem Repeats.single (match_ : once start stop noted) : Repeats once 1 start stop noted := by
  have whole := Repeats.more match_ .none
  rwa [List.append_nil] at whole

theorem Repeats.append {more : Nat} (first : Repeats once count start middle noted)
    (rest : Repeats once more middle stop others) :
    Repeats once (count + more) start stop (noted ++ others) := by
  induction first with
  | none => rwa [Nat.zero_add]
  | more once _ ih =>
    rw [Nat.add_right_comm, List.append_assoc]
    exact .more once (ih rest)

/-- Repeated matches come apart into earlier and later ones. -/
theorem Repeats.split {first second : Nat} {all : List Noted}
    (repeats : Repeats once (first + second) start stop all) :
    ∃ middle noted others, Repeats once first start middle noted ∧
      Repeats once second middle stop others ∧ all = noted ++ others := by
  induction first generalizing start all with
  | zero => exact ⟨start, [], all, .none, by rwa [Nat.zero_add] at repeats, rfl⟩
  | succ first ih =>
    rw [Nat.add_right_comm] at repeats
    cases repeats with
    | more once rest =>
      obtain ⟨middle, noted, others, before, after, rfl⟩ := ih rest
      exact ⟨middle, _, others, .more once before, after, (List.append_assoc ..).symm⟩

theorem Repeats.index_mem {groups : List Nat} (repeats : Repeats once count start stop noted)
    (inside : ∀ {start stop noted}, once start stop noted → ∀ group ∈ noted, group.index ∈ groups) :
    ∀ group ∈ noted, group.index ∈ groups := by
  induction repeats with
  | none => simp
  | more first _ ih =>
    intro group member
    rcases List.mem_append.mp member with before | after
    · exact inside first group before
    · exact ih group after

/-- What is noted are groups of the expression. -/
theorem Expr.Matches.index_mem {expr : Expr} {content : Array UInt8}
    (matches_ : expr.Matches content start stop noted) :
    ∀ group ∈ noted, group.index ∈ expr.groups := by
  induction expr generalizing start stop noted with
  | empty =>
    obtain ⟨-, rfl⟩ := matches_
    simp
  | literal bytes =>
    obtain ⟨-, -, rfl⟩ := matches_
    simp
  | scalar set =>
    obtain ⟨_, _, -, -, -, rfl⟩ := matches_
    simp
  | byte set =>
    obtain ⟨_, -, -, -, rfl⟩ := matches_
    simp
  | look kind =>
    obtain ⟨-, -, rfl⟩ := matches_
    simp
  | seq first second firstIh secondIh =>
    obtain ⟨_, before, after, firstMatches, secondMatches, rfl⟩ := matches_
    intro group member
    rcases List.mem_append.mp member with earlier | later
    · exact List.mem_append_left _ (firstIh firstMatches group earlier)
    · exact List.mem_append_right _ (secondIh secondMatches group later)
  | alt first second firstIh secondIh =>
    intro group member
    rcases matches_ with firstMatches | secondMatches
    · exact List.mem_append_left _ (firstIh firstMatches group member)
    · exact List.mem_append_right _ (secondIh secondMatches group member)
  | rep least most greedy part ih =>
    obtain ⟨_, -, -, repeats⟩ := matches_
    exact repeats.index_mem ih
  | capture index part ih =>
    obtain ⟨inner, partMatches, rfl⟩ := matches_
    intro group member
    rcases List.mem_append.mp member with earlier | last
    · exact List.mem_cons_of_mem _ (ih partMatches group earlier)
    · rw [List.mem_singleton.mp last]
      exact List.mem_cons_self

/-! ## What is noted -/

/-- Where the text of a group starts and stops that has been noted last under a number. -/
def lastNoted (noted : List Noted) (index : Nat) : Option (Nat × Nat) :=
  (noted.reverse.find? (·.index = index)).map fun group => (group.start, group.stop)

theorem lastNoted_append (noted others : List Noted) (index : Nat) :
    lastNoted (noted ++ others) index = (lastNoted others index).or (lastNoted noted index) := by
  simp [lastNoted, List.find?_append, Option.map_or]

theorem lastNoted_eq_none {index : Nat} (absent : ∀ group ∈ noted, group.index ≠ index) :
    lastNoted noted index = none := by
  simpa [lastNoted] using absent

theorem lastNoted_concat (noted : List Noted) (group : Noted) (index : Nat) :
    lastNoted (noted ++ [group]) index =
      if group.index = index then some (group.start, group.stop) else lastNoted noted index := by
  rw [lastNoted_append]
  by_cases same : group.index = index <;> simp [lastNoted, same]

/-- `Records before noted after`: slots hold what has been noted last under each number, and what
they have held before under all others. -/
structure Records (before : Slots) (noted : List Noted) (after : Slots) : Prop where
  size_eq : after.size = before.size
  taken : ∀ index start stop, lastNoted noted index = some (start, stop) →
    2 * index + 1 < before.size →
      after[2 * index]? = some (some start) ∧ after[2 * index + 1]? = some (some stop)
  kept : ∀ index, lastNoted noted index = none →
    after[2 * index]? = before[2 * index]? ∧ after[2 * index + 1]? = before[2 * index + 1]?

namespace Records

variable {slots before after : Slots}

theorem refl (slots : Slots) : Records slots [] slots where
  size_eq := rfl
  taken _ _ _ impossible := by cases impossible
  kept _ _ := ⟨rfl, rfl⟩

theorem trans (first : Records slots noted before) (second : Records before others after) :
    Records slots (noted ++ others) after where
  size_eq := second.size_eq.trans first.size_eq
  taken index start stop last inside := by
    rw [lastNoted_append] at last
    cases later : lastNoted others index with
    | some ends =>
      rw [later, Option.some_or, Option.some.injEq] at last
      subst last
      exact second.taken index start stop later (first.size_eq ▸ inside)
    | none =>
      rw [later, Option.none_or] at last
      rw [(second.kept index later).1, (second.kept index later).2]
      exact first.taken index start stop last inside
  kept index nothing := by
    rw [lastNoted_append, Option.or_eq_none_iff] at nothing
    rw [(second.kept index nothing.1).1, (second.kept index nothing.1).2]
    exact first.kept index nothing.2

/-- A group is noted when it stops, in the two slots with its number. -/
theorem capture {index start stop : Nat}
    (inner : Records (slots.setIfInBounds (2 * index) (some start)) noted after)
    (absent : lastNoted noted index = none) :
    Records slots (noted ++ [⟨index, start, stop⟩])
      (after.setIfInBounds (2 * index + 1) (some stop)) where
  size_eq := by rw [Array.size_setIfInBounds, inner.size_eq, Array.size_setIfInBounds]
  taken other first last found inside := by
    have size_eq : after.size = slots.size := by rw [inner.size_eq, Array.size_setIfInBounds]
    rw [lastNoted_concat] at found
    by_cases same : index = other
    · rw [if_pos same] at found
      subst same
      cases found
      rw [Array.getElem?_setIfInBounds_ne (by omega), (inner.kept index absent).1,
        Array.getElem?_setIfInBounds_self_of_lt (by omega),
        Array.getElem?_setIfInBounds_self_of_lt (by omega)]
      exact ⟨rfl, rfl⟩
    · rw [if_neg same] at found
      rw [Array.getElem?_setIfInBounds_ne (by omega), Array.getElem?_setIfInBounds_ne (by omega)]
      exact inner.taken other first last found (by rwa [Array.size_setIfInBounds])
  kept other nothing := by
    rw [lastNoted_concat] at nothing
    by_cases same : index = other
    · rw [if_pos same] at nothing
      cases nothing
    · rw [if_neg same] at nothing
      obtain ⟨start_eq, stop_eq⟩ := inner.kept other nothing
      rw [Array.getElem?_setIfInBounds_ne (by omega), Array.getElem?_setIfInBounds_ne (by omega),
        start_eq, stop_eq, Array.getElem?_setIfInBounds_ne (by omega),
        Array.getElem?_setIfInBounds_ne (by omega)]
      exact ⟨rfl, rfl⟩

end Records

end Emend.Pattern
