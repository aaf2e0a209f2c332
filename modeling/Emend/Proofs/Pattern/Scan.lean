/-
# The matches of a content

A replacement searches a content again and again, each time from where the last match stops.  An
empty match there is passed over for a search one byte further.  The matches that are found this way
lie one after the other, and there are no more of them than positions in the content.
-/

import Emend.Pattern.Regex
import Emend.Proofs.Pattern.Counted

namespace Emend.Pattern

namespace Regex

variable {regex : Regex} {content : Array UInt8} {position : Nat} {found : Match}

/-! ## Single searches -/

/-- The program of a regular expression, if it has one, can be searched. -/
def IsSound (regex : Regex) : Prop :=
  0 < regex.groupCount ∧
    ∀ entry program, regex.strategy = .program entry program → IsSearchable program entry

theorem isSound_ofExpr {expr : Expr} (numbered : expr.IsNumbered)
    (groupNames : List (String × Nat)) : (ofExpr expr groupNames).IsSound := by
  have searchable := Expr.isSearchable_program numbered
  unfold ofExpr
  extract_lets groupCount
  refine ⟨?_, ?_⟩
  · split <;> exact Nat.zero_lt_succ _
  · intro entry program strategy
    split at strategy
    · cases strategy
    · cases strategy
      exact searchable

/-- A pattern that compiles is read and has a meaning, which is prepared for searching. -/
theorem exists_of_compile {pattern : String} (compiles : compile pattern = .ok regex) :
    ∃ tree expr, Tree.parse pattern = .ok tree ∧ tree.meaning = .ok expr ∧
      regex = ofExpr expr tree.groupNames := by
  unfold compile at compiles
  split at compiles
  · cases compiles
  · rename_i tree parsed
    split at compiles
    · cases compiles
    · rename_i expr means
      split at compiles
      · cases compiles
        exact ⟨tree, expr, parsed, means, rfl⟩
      · cases compiles

theorem isSound_of_compile {pattern : String} (compiles : compile pattern = .ok regex) :
    regex.IsSound := by
  obtain ⟨tree, expr, parsed, means, rfl⟩ := exists_of_compile compiles
  exact isSound_ofExpr (isNumbered_of_parse_of_meaning parsed means) _

/-- What is known of a match that a search from a position finds.  It is the leftmost one: a search
from any position up to its start finds the same. -/
structure IsFound (regex : Regex) (content : Array UInt8) (position : Nat) (found : Match) :
    Prop where
  position_le : position ≤ found.start
  start_le : found.start ≤ found.stop
  stop_le : found.stop ≤ content.size
  whole : found.groups[0]? = some (some (found.start, found.stop))
  inside : ∀ index start stop : Nat, found.groups[index]? = some (some (start, stop)) →
    found.start ≤ start ∧ stop ≤ found.stop
  leftmost : ∀ between, position ≤ between → between ≤ found.start →
    regex.find? content between = some found

theorem standsAt_of_findLiteral? {literal : Bytes} {count start : Nat}
    (finds : findLiteral? literal content position count = some start) :
    standsAt content start literal = true := by
  induction count generalizing position with
  | zero => cases finds
  | succ count ih =>
    rw [findLiteral?] at finds
    split at finds
    · rename_i stands
      cases finds
      exact stands
    · exact ih finds

/-- A search for a literal gives the first position where it stands. -/
theorem findLiteral?_of_between {literal : Bytes} {count start : Nat}
    (finds : findLiteral? literal content position count = some start) :
    position ≤ start ∧ start < position + count ∧
      ∀ between, position ≤ between → between ≤ start →
        findLiteral? literal content between (position + count - between) = some start := by
  induction count generalizing position with
  | zero => cases finds
  | succ count ih =>
    have finds_eq := finds
    rw [findLiteral?] at finds
    split at finds
    · cases finds
      refine ⟨Nat.le_refl _, by omega, fun between least most => ?_⟩
      rw [Nat.le_antisymm most least, Nat.add_sub_cancel_left]
      exact finds_eq
    · obtain ⟨later, within, same⟩ := ih finds
      refine ⟨by omega, by omega, fun between least most => ?_⟩
      rcases Nat.eq_or_lt_of_le least with rfl | less
      · rwa [Nat.add_sub_cancel_left]
      · rw [← same between less most]
        congr 1
        omega

theorem groupOf_eq_some_iff {slots : Slots} {index start stop : Nat} :
    groupOf slots index = some (start, stop) ↔
      slots[2 * index]? = some (some start) ∧ slots[2 * index + 1]? = some (some stop) := by
  unfold groupOf
  split
  · rename_i first second
    simp [first, second]
  · rename_i other
    constructor
    · intro impossible
      cases impossible
    · rintro ⟨first, second⟩
      exact absurd second (other _ _ first)

theorem isFound_of_literal {literal : Bytes} (strategy : regex.strategy = .literal literal)
    (finds : regex.find? content position = some found) : regex.IsFound content position found := by
  simp only [find?, strategy] at finds
  split at finds
  · rename_i start start_eq
    cases finds
    obtain ⟨later, within, same⟩ := findLiteral?_of_between start_eq
    refine ⟨later, Nat.le_add_right _ _, by simp only; omega, rfl, ?_, ?_⟩
    · intro index start stop at_index
      cases index with
      | zero =>
        cases at_index
        exact ⟨Nat.le_refl _, Nat.le_refl _⟩
      | succ index => cases at_index
    · intro between least most
      have counts : position + (content.size + 1 - position - literal.length) - between =
          content.size + 1 - between - literal.length := by
        simp only at most
        omega
      have again := same between least most
      rw [counts] at again
      simp only [find?, strategy, again]
  · cases finds

/-- A match that a program finds is read off the slots of a search. -/
theorem exists_slots_of_program {entry : Nat} {program : Program}
    (strategy : regex.strategy = .program entry program)
    (finds : regex.find? content position = some found) :
    ∃ slots, program.search entry (2 * regex.groupCount) content position = some slots ∧
      groupOf slots 0 = some (found.start, found.stop) ∧
      found.groups = (List.range regex.groupCount).map (groupOf slots) ∧
      ∀ index start stop : Nat, found.groups[index]? = some (some (start, stop)) →
        groupOf slots index = some (start, stop) := by
  simp only [find?, strategy] at finds
  split at finds
  · rename_i slots searched
    split at finds
    · rename_i start stop whole
      cases finds
      refine ⟨slots, searched, whole, rfl, ?_⟩
      intro index start stop at_index
      rw [List.getElem?_map, Option.map_eq_some_iff] at at_index
      obtain ⟨number, listed, group_eq⟩ := at_index
      rwa [(List.getElem?_eq_some_iff.mp listed).2.symm, List.getElem_range] at group_eq
    · cases finds
  · cases finds

theorem isFound_of_program {entry : Nat} {program : Program}
    (strategy : regex.strategy = .program entry program) (searchable : IsSearchable program entry)
    (positive : 0 < regex.groupCount) (finds : regex.find? content position = some found) :
    regex.IsFound content position found := by
  obtain ⟨slots, searched, whole, groups_eq, group_eq⟩ := exists_slots_of_program strategy finds
  obtain ⟨start, stop, later, inside, reaches, same⟩ :=
    searchable.exists_reaches_of_search searched
  obtain ⟨first, second, between⟩ := searchable.ends_of_reaches (by omega) reaches
  have ends_eq : groupOf slots 0 = some (start, stop) := groupOf_eq_some_iff.mpr ⟨first, second⟩
  cases whole.symm.trans ends_eq
  refine ⟨later, (between 1 found.stop second).1, inside, ?_, ?_, ?_⟩
  · rw [groups_eq, List.getElem?_map, List.getElem?_range positive, Option.map_some, whole]
  · intro index first last at_index
    obtain ⟨first_eq, last_eq⟩ := groupOf_eq_some_iff.mp (group_eq index first last at_index)
    exact ⟨(between _ first first_eq).1, (between _ last last_eq).2⟩
  · intro place least most
    have again := same place least most
    simp only [find?, strategy, again, whole]
    rw [← groups_eq]

/-- What a search finds is the leftmost match. -/
theorem isFound_of_find? (sound : regex.IsSound)
    (finds : regex.find? content position = some found) : regex.IsFound content position found := by
  cases strategy : regex.strategy with
  | literal bytes => exact isFound_of_literal strategy finds
  | program entry program =>
    exact isFound_of_program strategy (sound.2 entry program strategy) sound.1 finds

/-! ## Searching again and again -/

/-- The matches that a replacement finds from a position on.  `lastStop` is where the match before
stops. -/
inductive Scans (regex : Regex) (content : Array UInt8) :
    (position : Nat) → (lastStop : Option Nat) → List Match → Prop where
  /-- There is no match any more. -/
  | done {position : Nat} {lastStop : Option Nat} (nothing : regex.find? content position = none) :
      Scans regex content position lastStop []
  /-- An empty match where the match before stops does not count. -/
  | passed {position stop : Nat} {found : Match} {later : List Match}
      (finds : regex.find? content position = some found) (empty : found.start = found.stop)
      (stays : found.stop = stop) (others : Scans regex content (position + 1) (some stop) later) :
      Scans regex content position (some stop) later
  /-- Any other match counts, and the next search starts where it stops. -/
  | counted {position : Nat} {lastStop : Option Nat} {found : Match} {later : List Match}
      (finds : regex.find? content position = some found)
      (counts : ¬ (found.start = found.stop ∧ lastStop = some found.stop))
      (others : Scans regex content found.stop (some found.stop) later) :
      Scans regex content position lastStop (found :: later)

namespace Scans

variable {lastStop : Option Nat} {hits others : List Match}

theorem unique (scans : Scans regex content position lastStop hits)
    (again : Scans regex content position lastStop others) : others = hits := by
  induction scans generalizing others with
  | done nothing =>
    cases again with
    | done => rfl
    | passed finds => cases nothing.symm.trans finds
    | counted finds => cases nothing.symm.trans finds
  | passed finds empty stays _ ih =>
    cases again with
    | done nothing => cases nothing.symm.trans finds
    | passed _ _ _ later => exact ih later
    | counted same counts =>
      cases finds.symm.trans same
      exact absurd ⟨empty, by rw [stays]⟩ counts
  | counted finds counts _ ih =>
    cases again with
    | done nothing => cases nothing.symm.trans finds
    | passed same empty stays =>
      cases finds.symm.trans same
      exact absurd ⟨empty, by rw [stays]⟩ counts
    | counted same _ later =>
      cases finds.symm.trans same
      rw [ih later]

/-- Every match is one that a search finds. -/
theorem isFound (sound : regex.IsSound) (scans : Scans regex content position lastStop hits)
    (member : found ∈ hits) : ∃ position, regex.IsFound content position found := by
  induction scans with
  | done => cases member
  | passed _ _ _ _ ih => exact ih member
  | counted finds _ _ ih =>
    rcases List.mem_cons.mp member with rfl | member
    · exact ⟨_, isFound_of_find? sound finds⟩
    · exact ih member

end Scans

/-- How many matches there can still be: one for each position left, but none where the last match
stops. -/
def positionsLeft (content : Array UInt8) (position : Nat) (lastStop : Option Nat) : Nat :=
  content.size + 1 - position - (if lastStop = some position then 1 else 0)

theorem positionsLeft_succ_le (content : Array UInt8) (position : Nat) (lastStop : Option Nat) :
    positionsLeft content (position + 1) lastStop ≤ positionsLeft content position lastStop := by
  unfold positionsLeft
  split <;> split <;> omega

/-- A match that counts takes up a position. -/
theorem positionsLeft_lt {lastStop : Option Nat} (isFound : regex.IsFound content position found)
    (counts : ¬ (found.start = found.stop ∧ lastStop = some found.stop)) :
    positionsLeft content found.stop (some found.stop) < positionsLeft content position lastStop := by
  have position_le := isFound.position_le
  have start_le := isFound.start_le
  have stop_le := isFound.stop_le
  unfold positionsLeft
  rw [if_pos rfl]
  split
  · rename_i last
    have moves : position < found.stop := by
      by_contra stays
      have same : found.stop = position := by omega
      exact counts ⟨by omega, by rw [last, same]⟩
    omega
  · omega

theorem Scans.length_le (sound : regex.IsSound) {lastStop : Option Nat} {hits : List Match}
    (scans : Scans regex content position lastStop hits) :
    hits.length ≤ positionsLeft content position lastStop := by
  induction scans with
  | done => exact Nat.zero_le _
  | passed _ _ _ _ ih => exact Nat.le_trans ih (positionsLeft_succ_le _ _ _)
  | counted finds counts _ ih =>
    have fewer := positionsLeft_lt (isFound_of_find? sound finds) counts
    rw [List.length_cons]
    omega

/-- A match comes before another if it starts and stops earlier and they share nothing. -/
structure Precedes (first second : Match) : Prop where
  start_lt : first.start < second.start
  disjoint : first.stop ≤ second.start
  stop_lt : first.stop < second.stop

/-- Where a search finds the match before again, the matches after it lie one after the other. -/
theorem Scans.isChain (sound : regex.IsSound) {lastStop : Option Nat} {later : List Match}
    (scans : Scans regex content position lastStop later) (last : lastStop = some found.stop)
    (behind : found.stop ≤ position) (start_le : found.start ≤ found.stop)
    (again : regex.find? content found.start = some found) :
    List.IsChain Precedes (found :: later) := by
  induction scans generalizing found with
  | done => exact List.IsChain.singleton _
  | passed _ _ _ _ ih => exact ih last (by omega) start_le again
  | @counted position lastStop next later finds counts _ ih =>
    have isFound := isFound_of_find? sound finds
    have position_le := isFound.position_le
    have next_le := isFound.start_le
    refine List.isChain_cons_cons.mpr ⟨⟨?_, Nat.le_trans behind position_le, ?_⟩,
      ih rfl (Nat.le_refl _) isFound.start_le ?_⟩
    · -- from where it starts a search would find the same empty match again
      by_contra stays
      have same : position = found.start := by omega
      rw [same, again] at finds
      cases finds
      exact counts ⟨by omega, last⟩
    · by_contra stays
      have same : next.stop = found.stop := by omega
      exact counts ⟨by omega, by rw [last, same]⟩
    · exact isFound.leftmost next.start position_le (Nat.le_refl _)

instance : Trans Precedes Precedes Precedes where
  trans before after :=
    ⟨Nat.lt_trans before.start_lt after.start_lt,
      Nat.le_trans before.disjoint (Nat.le_of_lt after.start_lt),
      Nat.lt_trans before.stop_lt after.stop_lt⟩

/-- The matches lie one after the other. -/
theorem Scans.pairwise (sound : regex.IsSound) {hits : List Match}
    (scans : Scans regex content position none hits) : hits.Pairwise Precedes := by
  cases scans with
  | done => exact List.Pairwise.nil
  | counted finds counts others =>
    have isFound := isFound_of_find? sound finds
    have again := isFound.leftmost _ isFound.position_le (Nat.le_refl _)
    exact (others.isChain sound rfl (Nat.le_refl _) isFound.start_le again).pairwise

/-! ## The matches of a replacement -/

/-- The fuel of a replacement is enough for all matches. -/
theorem scans_matchesFrom (sound : regex.IsSound) (done : List Match) {position fuel : Nat}
    {lastStop : Option Nat} (last : ∀ stop, lastStop = some stop → stop = position)
    (enough : positionsLeft content position lastStop < fuel) :
    ∃ found, regex.matchesFrom content position lastStop done fuel = done.reverse ++ found ∧
      Scans regex content position lastStop found := by
  induction fuel generalizing position lastStop done with
  | zero => exact absurd enough (Nat.not_lt_zero _)
  | succ fuel ih =>
    -- what follows a match that counts
    have goes_on {found : Match} (fewer : positionsLeft content found.stop (some found.stop) <
        positionsLeft content position lastStop) :
        ∃ later, regex.matchesFrom content found.stop (some found.stop) (found :: done) fuel =
            done.reverse ++ found :: later ∧
          Scans regex content found.stop (some found.stop) later := by
      obtain ⟨later, later_eq, scans⟩ :=
        ih (found :: done) (fun stop same => (Option.some_inj.mp same).symm)
          (Nat.lt_of_lt_of_le fewer (Nat.le_of_lt_succ enough))
      exact ⟨later, by rw [later_eq]; simp, scans⟩
    rw [matchesFrom]
    split
    · rename_i nothing
      exact ⟨[], by simp, .done nothing⟩
    · rename_i found finds
      have isFound := isFound_of_find? sound finds
      split
      · rename_i stays
        obtain ⟨empty, rfl⟩ := stays
        split
        · rename_i nothing
          exact ⟨[], by simp, .passed finds empty rfl (.done nothing)⟩
        · rename_i next nextFinds
          have nextFound := isFound_of_find? sound nextFinds
          have counts : ¬ (next.start = next.stop ∧ some found.stop = some next.stop) := by
            rintro ⟨-, same⟩
            have position_eq := last _ rfl
            have next_stop := Option.some_inj.mp same
            have := nextFound.position_le
            have := nextFound.start_le
            omega
          obtain ⟨later, later_eq, scans⟩ := goes_on
            (Nat.lt_of_lt_of_le (positionsLeft_lt nextFound counts) (positionsLeft_succ_le _ _ _))
          exact ⟨next :: later, later_eq, .passed finds empty rfl (.counted nextFinds counts scans)⟩
      · rename_i counts
        obtain ⟨later, later_eq, scans⟩ := goes_on (positionsLeft_lt isFound counts)
        exact ⟨found :: later, later_eq, .counted finds counts scans⟩

theorem scans_allMatches (sound : regex.IsSound) (content : Array UInt8) :
    Scans regex content 0 none (regex.allMatches content) := by
  have enough : positionsLeft content 0 none < content.size + 2 := by simp [positionsLeft]
  obtain ⟨found, found_eq, scans⟩ := scans_matchesFrom sound [] (by simp) enough
  rw [allMatches, found_eq]
  exact scans

end Regex

end Emend.Pattern
