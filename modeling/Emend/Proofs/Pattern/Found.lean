/-
# What a search finds

A search with a compiled pattern finds a match of the expression that the pattern means, and none
starts further left.  The text of a group of what is found is that of the group of the expression
with the same number, as it has been noted last; the number zero has the text of the whole match.
-/

import Emend.Proofs.Pattern.Faithful
import Emend.Proofs.Pattern.Literal
import Emend.Proofs.Pattern.Scan

namespace Emend.Pattern

variable {content : Array UInt8} {position start stop : Nat} {noted : List Noted}

/-- The text that has been noted last under a number; none if the group took no part. -/
def notedText (content : Array UInt8) (noted : List Noted) (index : Nat) : Bytes :=
  match lastNoted noted index with
  | some (start, stop) => (content.extract start stop).toList
  | none => []

theorem Expr.le_lastGroup_of_mem_groups {expr : Expr} {index : Nat} (member : index ∈ expr.groups) :
    index ≤ expr.lastGroup := by
  induction expr with
  | empty | literal | scalar | byte | look => cases member
  | seq first second firstIh secondIh | alt first second firstIh secondIh =>
    rw [lastGroup]
    rcases List.mem_append.mp member with member | member
    · exact Nat.le_trans (firstIh member) (Nat.le_max_left _ _)
    · exact Nat.le_trans (secondIh member) (Nat.le_max_right _ _)
  | rep least most greedy part ih => exact ih member
  | capture other part ih =>
    rw [lastGroup]
    rcases List.mem_cons.mp member with rfl | member
    · exact Nat.le_max_left _ _
    · exact Nat.le_trans (ih member) (Nat.le_max_right _ _)

namespace Regex

variable {regex : Regex} {expr : Expr} {found : Match}

/-- Searches find the leftmost match of an expression, with its groups. -/
structure Finds (regex : Regex) (expr : Expr) : Prop where
  /-- What is found is a match, and its groups are those that have been noted. -/
  isMatch : ∀ {content position found}, regex.find? content position = some found →
    ∃ noted, (Expr.capture 0 expr).Matches content found.start found.stop noted ∧
      ∀ index, groupText content found index = notedText content noted index
  /-- Nothing that matches is missed. -/
  leftmost : ∀ {content position start stop noted}, expr.Matches content start stop noted →
    position ≤ start → stop ≤ content.size →
      ∃ found, regex.find? content position = some found ∧ found.start ≤ start

/-! ## Literals -/

theorem exists_findLiteral?_eq_some {literal : Bytes} {count : Nat}
    (stands : standsAt content start literal = true) (later : position ≤ start)
    (within : start < position + count) :
    ∃ first ≤ start, findLiteral? literal content position count = some first := by
  induction count generalizing position with
  | zero => omega
  | succ count ih =>
    rw [findLiteral?]
    split
    · exact ⟨position, later, rfl⟩
    · rename_i absent
      have other : position ≠ start := fun same => absent (same ▸ stands)
      exact ih (by omega) (by omega)

theorem finds_of_literal {literal : Bytes} (strategy : regex.strategy = .literal literal) :
    regex.Finds (.literal literal) where
  isMatch {content position found} finds := by
    simp only [find?, strategy] at finds
    split at finds
    · rename_i start start_eq
      cases finds
      have stands := standsAt_of_findLiteral? start_eq
      rw [← content.toArray_toList, standsAt_iff] at stands
      refine ⟨[⟨0, start, start + literal.length⟩], ⟨[], ⟨stands, rfl, rfl⟩, rfl⟩, fun index => ?_⟩
      cases index with
      | zero => rfl
      | succ index => rfl
    · cases finds
  leftmost {content position start stop noted} matches_ later inside := by
    obtain ⟨isPrefix, rfl, -⟩ := matches_
    have stands : standsAt content start literal = true := by
      rwa [← content.toArray_toList, standsAt_iff]
    obtain ⟨first, le, finds⟩ := exists_findLiteral?_eq_some stands later
      (show start < position + (content.size + 1 - position - literal.length) by omega)
    exact ⟨⟨first, first + literal.length, [some (first, first + literal.length)]⟩,
      by simp only [find?, strategy, finds], le⟩

/-! ## Programs -/

theorem groupOf_eq_of_records {slotCount index : Nat} {slots : Slots}
    (records : Records (Array.replicate slotCount none) noted slots)
    (inside : 2 * index + 1 < slotCount) : groupOf slots index = lastNoted noted index := by
  cases last : lastNoted noted index with
  | some ends =>
    rw [groupOf_eq_some_iff]
    exact records.taken index ends.1 ends.2 last (by rwa [Array.size_replicate])
  | none =>
    obtain ⟨start_eq, -⟩ := records.kept index last
    rw [Array.getElem?_replicate, if_pos (by omega)] at start_eq
    simp [groupOf, start_eq]

theorem groupText_eq_of_records {slots : Slots}
    (groups_eq : found.groups = (List.range regex.groupCount).map (groupOf slots))
    (records : Records (Array.replicate (2 * regex.groupCount) none) noted slots)
    (counted : ∀ group ∈ noted, group.index < regex.groupCount) (index : Nat) :
    groupText content found index = notedText content noted index := by
  by_cases inside : index < regex.groupCount
  · have group_eq : found.groups[index]? = some (lastNoted noted index) := by
      rw [groups_eq, List.getElem?_map, List.getElem?_range inside, Option.map_some,
        groupOf_eq_of_records records (by omega)]
    rw [groupText, notedText, group_eq]
    cases lastNoted noted index <;> rfl
  · have nothing : found.groups[index]? = none := by simp [groups_eq, Nat.le_of_not_lt inside]
    have absent : lastNoted noted index = none :=
      lastNoted_eq_none fun group member same => inside (same ▸ counted group member)
    rw [groupText, notedText, nothing, absent]

theorem finds_of_program (strategy : regex.strategy = .program expr.program.1 expr.program.2)
    (count_eq : regex.groupCount = expr.lastGroup + 1) (numbered : expr.IsNumbered)
    (nested : expr.IsNested) : regex.Finds expr where
  isMatch {content position found} finds := by
    have searchable := Expr.isSearchable_program numbered
    obtain ⟨slots, searched, whole, groups_eq, -⟩ := exists_slots_of_program strategy finds
    obtain ⟨start, stop, -, -, reaches, -⟩ := searchable.exists_reaches_of_search searched
    obtain ⟨first, second, -⟩ := searchable.ends_of_reaches (by omega) reaches
    cases whole.symm.trans (groupOf_eq_some_iff.mpr ⟨first, second⟩)
    obtain ⟨steps, leads⟩ := reaches.exists_leads (.accept searchable.accepts)
    obtain ⟨noted, matches_, records⟩ := exists_matches_of_leads numbered nested leads
    refine ⟨noted, matches_, groupText_eq_of_records groups_eq records fun group member => ?_⟩
    have le : group.index ≤ (Expr.capture 0 expr).lastGroup :=
      Expr.le_lastGroup_of_mem_groups (matches_.index_mem group member)
    rw [Expr.lastGroup] at le
    omega
  leftmost {content position start stop noted} matches_ later inside := by
    have searchable := Expr.isSearchable_program numbered
    have lives := lives_of_matches numbered nested matches_ inside
    obtain ⟨first, le, place, last, slots, searched, accepts, reaches⟩ :=
      Program.exists_search_eq_some_of_le lives later (2 * regex.groupCount)
    obtain rfl := searchable.eq_zero_of_accept accepts
    obtain ⟨start_eq, stop_eq, -⟩ := searchable.ends_of_reaches (by omega) reaches
    have whole : groupOf slots 0 = some (first, last) := groupOf_eq_some_iff.mpr ⟨start_eq, stop_eq⟩
    exact ⟨⟨first, last, (List.range regex.groupCount).map (groupOf slots)⟩,
      by simp only [find?, strategy, searched, whole], le⟩

theorem finds_ofExpr (numbered : expr.IsNumbered) (nested : expr.IsNested)
    (groupNames : List (String × Nat)) : (ofExpr expr groupNames).Finds expr := by
  cases expr with
  | literal bytes => exact finds_of_literal rfl
  | _ => exact finds_of_program rfl rfl numbered nested

/-! ## Compiled patterns -/

/-- A compiled pattern stands for the pattern as it is read and as it is meant. -/
structure Represents (regex : Regex) (tree : Tree) (expr : Expr) : Prop where
  /-- The groups have the numbers from one on, in the order in which they open. -/
  numbered : tree.groups.map Prod.fst = List.range' 1 tree.groups.length
  /-- A name stands for the number of the group that has it. -/
  named : ∀ name index, regex.groupNumber? name = some index ↔ (index, some name) ∈ tree.groups
  /-- The meaning has the groups that can take part in a match. -/
  offered : ∀ index, index ∈ expr.groups ↔ tree.Offers index
  /-- Searches find what the meaning matches. -/
  finds : regex.Finds expr

theorem groupNames_ofExpr (expr : Expr) (names : List (String × Nat)) :
    (ofExpr expr names).groupNames = names := by
  unfold ofExpr
  extract_lets groupCount
  split <;> rfl

theorem exists_represents_of_compile {pattern : String} (compiles : compile pattern = .ok regex) :
    ∃ tree expr, Tree.parse pattern = .ok tree ∧ tree.meaning = .ok expr ∧
      regex.Represents tree expr := by
  obtain ⟨tree, expr, parsed, means, rfl⟩ := exists_of_compile compiles
  obtain ⟨numbered, distinct⟩ := Tree.groups_of_parse parsed
  refine ⟨tree, expr, parsed, means, numbered, fun name index => ?_, fun index => ?_, ?_⟩
  · rw [groupNumber?, groupNames_ofExpr, Tree.groupNames_eq, lookup_namesOf_eq_some_iff distinct]
  · obtain ⟨⟨inner, _⟩, inner_eq, means⟩ := bind_eq_ok_iff.mp means
    cases means
    exact Tree.mem_groups_meaningIn inner_eq
  · exact finds_ofExpr (isNumbered_of_parse_of_meaning parsed means)
      (isNested_of_parse_of_meaning parsed means) _

end Regex

end Emend.Pattern
