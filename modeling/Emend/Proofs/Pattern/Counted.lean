/-
# Groups are counted as they open

Reading a pattern counts the groups whose text is kept.  What a reader knows of them is their number
and their names, and only an opening parenthesis adds to that.  So the groups of a pattern have the
numbers from one on, in the order in which they open, and no two of them have the same name.
-/

import Emend.Pattern.Reader
import Emend.Proofs.Pattern.Groups
import Mathlib.Data.List.Nodup

namespace Emend.Pattern

variable {opened : List (Nat × Option String)}

/-! ## What a reader knows -/

/-- A reader has come past the groups that have been opened so far. -/
structure Reader.HasSeen (opened : List (Nat × Option String)) (reader : Reader) : Prop where
  /-- They have been counted from one on. -/
  numbered : opened.map Prod.fst = List.range' 1 opened.length
  /-- No name has come twice. -/
  distinct : (opened.filterMap Prod.snd).Nodup
  captures_eq : reader.captures = opened.length
  names_iff : ∀ name, name ∈ reader.names.map Prod.fst ↔ name ∈ opened.filterMap Prod.snd

theorem Reader.HasSeen.same {reader other : Reader} (seen : reader.HasSeen opened)
    (captures : other.captures = reader.captures) (names : other.names = reader.names) :
    other.HasSeen opened where
  numbered := seen.numbered
  distinct := seen.distinct
  captures_eq := captures.trans seen.captures_eq
  names_iff := names ▸ seen.names_iff

namespace Read

variable {α β : Type} {before : Reader → Prop} {after : α → Reader → Prop}
  {last : β → Reader → Prop}

/-- Unless it breaks off, a step of reading leads from what holds before to what holds after. -/
def Ensures (before : Reader → Prop) (step : Read α) (after : α → Reader → Prop) : Prop :=
  ∀ reader result next, before reader → step.run reader = .ok (result, next) → after result next

/-- A step that comes past no group. -/
abbrev Keeps (opened : List (Nat × Option String)) (step : Read α) : Prop :=
  Ensures (Reader.HasSeen opened) step fun _ => Reader.HasSeen opened

namespace Ensures

theorem pure {result : α} (holds : ∀ reader, before reader → after result reader) :
    Ensures before (Pure.pure result : Read α) after := by
  intro reader other next held run_eq
  cases run_eq
  exact holds reader held

theorem done {result : α} : Ensures before (Pure.pure result : Read α) fun _ => before :=
  .pure fun _ => id

theorem fail (kind : FaultKind) (span : Span) (first : Option Span) :
    Ensures before (Read.fail kind span first) after := by
  intro reader other next held run_eq
  cases run_eq

theorem bind {step : Read α} {onward : α → Read β} (first : Ensures before step after)
    (second : ∀ result, Ensures (after result) (onward result) last) :
    Ensures before (step >>= onward) last := by
  intro reader result next held run_eq
  rw [StateT.run_bind] at run_eq
  cases middle_eq : step.run reader with
  | error fault =>
    rw [middle_eq] at run_eq
    cases run_eq
  | ok middle =>
    rw [middle_eq] at run_eq
    exact second middle.1 _ _ _ (first _ _ _ held middle_eq) run_eq

theorem get {onward : Reader → Read β}
    (second : ∀ reader, before reader → Ensures before (onward reader) last) :
    Ensures before (MonadState.get >>= onward) last := by
  intro reader result next held run_eq
  exact second reader held reader result next held run_eq

theorem modify {change : Reader → Reader} {after : Reader → Prop}
    (holds : ∀ reader, before reader → after (change reader)) :
    Ensures before (modify change : Read Unit) fun _ => after := by
  intro reader result next held run_eq
  cases run_eq
  exact holds reader held

/-- What is known of a result may be used for the step after it. -/
theorem given {fact : Prop} {step : Read α} (holds : fact → Ensures before step after) :
    Ensures (fun reader => fact ∧ before reader) step after :=
  fun reader result next held run_eq => holds held.1 reader result next held.2 run_eq

end Ensures

end Read

open Read

/-! ## Steps that come past no group -/

theorem keeps_peek : Keeps opened peek := .get fun _ _ => .done

theorem keeps_position : Keeps opened position := .get fun _ _ => .done

theorem keeps_charSpan : Keeps opened charSpan := by
  refine .get fun reader _ => ?_
  split <;> exact .done

theorem keeps_bump : Keeps opened bump := by
  refine .modify fun reader seen => ?_
  split
  · exact seen.same rfl rfl
  · exact seen

theorem keeps_bumpAll {α : Type} (chars : List α) : Keeps opened (chars.forM fun _ => bump) := by
  induction chars with
  | nil => exact .done
  | cons c chars ih => exact keeps_bump.bind fun _ => ih

theorem keeps_bumpIf (chars : List Char) : Keeps opened (bumpIf chars) := by
  refine .get fun reader _ => ?_
  split
  · exact (keeps_bumpAll chars).bind fun _ => .done
  · exact .done

theorem keeps_bumpBlanks : Keeps opened bumpBlanks := by
  refine .modify fun reader seen => ?_
  split
  · exact seen.same rfl rfl
  · exact seen

theorem keeps_next : Keeps opened next :=
  keeps_bump.bind fun _ => keeps_bumpBlanks.bind fun _ => keeps_peek

theorem keeps_skipSpaces (fuel : Nat) : Keeps opened (skipSpaces fuel) := by
  induction fuel with
  | zero => exact .done
  | succ fuel ih =>
    refine keeps_peek.bind fun next => ?_
    split
    · split
      · exact keeps_bump.bind fun _ => ih
      · exact .done
    · exact .done

theorem keeps_peekSolid : Keeps opened peekSolid := by
  refine .get fun reader _ => ?_
  extract_lets after
  split
  · split <;> exact .done
  · exact .done

theorem keeps_readHexDigits (value count : Nat) : Keeps opened (readHexDigits value count) := by
  induction count generalizing value with
  | zero => exact .done
  | succ count ih =>
    refine keeps_peek.bind fun next => ?_
    split
    · exact keeps_position.bind fun _ => .fail _ _ _
    · split
      · exact keeps_charSpan.bind fun _ => .fail _ _ _
      · exact keeps_next.bind fun _ => ih _

theorem keeps_readHexUntilBrace (brace : Position) (value : Option Nat) (fuel : Nat) :
    Keeps opened (readHexUntilBrace brace value fuel) := by
  induction fuel generalizing value with
  | zero => exact .done
  | succ fuel ih =>
    refine keeps_next.bind fun next => ?_
    split
    · exact keeps_position.bind fun _ => .fail _ _ _
    · split
      · exact .done
      · split
        · exact keeps_charSpan.bind fun _ => .fail _ _ _
        · exact ih _

theorem keeps_readHex (start : Position) (digits : Nat) : Keeps opened (readHex start digits) := by
  refine keeps_next.bind fun next => ?_
  split
  · exact keeps_position.bind fun _ => .fail _ _ _
  · refine keeps_position.bind fun brace => keeps_charSpan.bind fun _ => .get fun reader _ => ?_
    refine (keeps_readHexUntilBrace _ _ _).bind fun value => ?_
    refine keeps_position.bind fun stop => keeps_next.bind fun _ => ?_
    split
    · exact keeps_position.bind fun _ => .fail _ _ _
    · split
      · exact keeps_position.bind fun _ => .done
      · exact .fail _ _ _
  · refine keeps_position.bind fun first => (keeps_readHexDigits _ _).bind fun n => ?_
    refine keeps_position.bind fun stop => ?_
    split
    · exact .done
    · exact .fail _ _ _

theorem keeps_readUntilBrace (name : List Char) (fuel : Nat) :
    Keeps opened (readUntilBrace name fuel) := by
  induction fuel generalizing name with
  | zero => exact .done
  | succ fuel ih =>
    refine keeps_next.bind fun next => ?_
    split
    · exact keeps_position.bind fun _ => .fail _ _ _
    · split
      · exact .done
      · exact ih _

theorem keeps_readProperty (start : Position) (negated : Bool) :
    Keeps opened (readProperty start negated) := by
  refine keeps_next.bind fun next => ?_
  split
  · exact keeps_position.bind fun _ => .fail _ _ _
  · refine .get fun reader _ => (keeps_readUntilBrace _ _).bind fun name => ?_
    refine keeps_bump.bind fun _ => ?_
    exact keeps_position.bind fun _ => .done
  · exact keeps_charSpan.bind fun _ => .fail _ _ _
  · exact keeps_next.bind fun _ => keeps_position.bind fun _ => .done

theorem keeps_readEdgeName (name : List Char) (fuel : Nat) :
    Keeps opened (readEdgeName name fuel) := by
  induction fuel generalizing name with
  | zero => exact .done
  | succ fuel ih =>
    refine keeps_peek.bind fun next => ?_
    split
    · split
      · exact keeps_next.bind fun _ => ih _
      · exact .done
    · exact .done

theorem keeps_readEdge? (start : Position) : Keeps opened (readEdge? start) := by
  refine .get fun reader seen => ?_
  split
  · exact .done
  · refine keeps_next.bind fun next => ?_
    split
    · exact keeps_position.bind fun _ => .fail _ _ _
    · split
      · -- reading goes back to where it was
        exact .bind (fun _ _ _ _ set_eq => by cases set_eq; exact seen) fun _ => .done
      · refine keeps_position.bind fun first => .get fun _ _ => ?_
        refine (keeps_readEdgeName _ _).bind fun name => keeps_peek.bind fun next => ?_
        split
        · exact keeps_position.bind fun _ => .fail _ _ _
        · refine keeps_position.bind fun stop => keeps_bump.bind fun _ => ?_
          split
          · exact .done
          · exact .done
          · exact .done
          · exact .done
          · exact .fail _ _ _

theorem keeps_readEscape : Keeps opened readEscape := by
  refine keeps_position.bind fun start => keeps_bump.bind fun _ => keeps_peek.bind fun next => ?_
  split
  · exact keeps_position.bind fun _ => .fail _ _ _
  · split
    · exact keeps_charSpan.bind fun _ => .fail _ _ _
    · split
      · exact (keeps_readHex _ _).bind fun _ => .done
      · exact (keeps_readHex _ _).bind fun _ => .done
      · exact (keeps_readHex _ _).bind fun _ => .done
      · exact keeps_readProperty _ _
      · exact keeps_readProperty _ _
      · refine keeps_bump.bind fun _ => keeps_position.bind fun stop => ?_
        extract_lets span
        split
        · exact .done
        · split
          · exact .done
          · split
            case h_9 =>
              refine (keeps_readEdge? _).bind fun edge => ?_
              split
              · exact keeps_position.bind fun _ => .done
              · exact .done
            all_goals first | exact .done | exact .fail _ _ _

theorem keeps_readAtom : Keeps opened readAtom := by
  refine keeps_peek.bind fun next => ?_
  split
  · exact keeps_readEscape
  · refine keeps_charSpan.bind fun span => keeps_bump.bind fun _ => ?_
    split <;> exact .done
  · exact keeps_charSpan.bind fun _ => .done

/-! ## Classes have no opened -/

theorem keeps_failUnclosed {α : Type} (frames : List ClassFrame) :
    Keeps opened (failUnclosed frames : Read α) :=
  keeps_position.bind fun _ => .fail _ _ _

theorem keeps_readClassAtom : Keeps opened readClassAtom := by
  refine keeps_peek.bind fun next => ?_
  split
  · exact keeps_readEscape
  · exact keeps_charSpan.bind fun span => keeps_bump.bind fun _ => .done
  · exact keeps_charSpan.bind fun _ => .done

theorem keeps_toClass (atom : Atom) : Keeps opened atom.toClass := by
  unfold Atom.toClass
  split
  · exact .done
  · exact .done
  · exact .fail _ _ _

theorem keeps_toRangeEnd (atom : Atom) : Keeps opened atom.toRangeEnd := by
  unfold Atom.toRangeEnd
  split
  · exact .done
  · exact .fail _ _ _

theorem keeps_readClassRange (frames : List ClassFrame) : Keeps opened (readClassRange frames) := by
  refine keeps_readClassAtom.bind fun first => keeps_bumpBlanks.bind fun _ =>
    keeps_peek.bind fun next => ?_
  split
  · exact keeps_failUnclosed frames
  · refine keeps_peekSolid.bind fun after => ?_
    split
    · exact keeps_toClass first
    · refine keeps_next.bind fun next => ?_
      split
      · exact keeps_failUnclosed frames
      · refine keeps_readClassAtom.bind fun last => ?_
        refine (keeps_toRangeEnd first).bind fun first =>
          (keeps_toRangeEnd last).bind fun last => ?_
        split
        · exact .done
        · exact .fail _ _ _

theorem keeps_readHyphens (start : Position) (items : List ClassSet) (fuel : Nat) :
    Keeps opened (readHyphens start items fuel) := by
  induction fuel generalizing items with
  | zero => exact .done
  | succ fuel ih =>
    refine keeps_peek.bind fun next => ?_
    split
    · refine keeps_charSpan.bind fun span => keeps_next.bind fun next => ?_
      split
      · exact .fail _ _ _
      · exact ih _
    · exact .done

theorem keeps_readClassOpen (items : ClassItems) : Keeps opened (readClassOpen items) := by
  refine keeps_position.bind fun start => keeps_next.bind fun next => ?_
  split
  · exact keeps_position.bind fun _ => .fail _ _ _
  · extract_lets negated finish
    have finishes : Keeps opened (finish ()) := by
      refine keeps_position.bind fun itemsStart => .get fun _ _ =>
        (keeps_readHyphens _ _ _).bind fun items => keeps_peek.bind fun next => ?_
      split
      · refine keeps_charSpan.bind fun span => keeps_next.bind fun next => ?_
        split
        · exact keeps_position.bind fun _ => .fail _ _ _
        · exact keeps_position.bind fun _ => .done
      · exact keeps_position.bind fun _ => .done
    split
    · refine keeps_next.bind fun next => ?_
      split
      · exact keeps_position.bind fun _ => .fail _ _ _
      · exact finishes
    · exact finishes

theorem keeps_readAsciiClass? : Keeps opened readAsciiClass? := by
  refine .get fun reader _ => ?_
  split
  · split
    split
    · extract_lets name
      split
      · exact (keeps_bumpAll _).bind fun _ => keeps_position.bind fun _ => .done
      · exact .done
    · exact .done
  · exact .done

theorem ensures_readClassFrom (frames : List ClassFrame) (items : ClassItems) (fuel : Nat) :
    Ensures (Reader.HasSeen opened) (readClassFrom frames items fuel) fun tree reader =>
      tree.groups = [] ∧ reader.HasSeen opened := by
  induction fuel generalizing frames items with
  | zero => exact keeps_position.bind fun _ => .fail _ _ _
  | succ fuel ih =>
    unfold readClassFrom
    refine keeps_bumpBlanks.bind fun _ => keeps_peek.bind fun next => ?_
    split
    · exact keeps_position.bind fun _ => .fail _ _ _
    · extract_lets finish
      have finishes (ascii : Option ClassSet) : Ensures (Reader.HasSeen opened) (finish ascii)
          fun tree reader => tree.groups = [] ∧ reader.HasSeen opened := by
        simp only [finish]
        split
        · exact ih _ _
        · exact (keeps_readClassOpen _).bind fun _ => ih _ _
      split
      · exact Ensures.done.bind finishes
      · exact keeps_readAsciiClass?.bind finishes
    · split
      refine keeps_bump.bind fun _ => ?_
      split
      · refine keeps_position.bind fun stop => ?_
        extract_lets span
        split
        · exact .pure fun _ seen => ⟨rfl, seen⟩
        · exact ih _ _
      · exact keeps_position.bind fun _ => .fail _ _ _
    · refine .get fun _ _ => ?_
      split
      · split
        exact keeps_bump.bind fun _ => keeps_bump.bind fun _ => keeps_position.bind fun _ => ih _ _
      · exact (keeps_readClassRange _).bind fun _ => ih _ _

theorem ensures_readClass : Ensures (Reader.HasSeen opened) readClass fun tree reader =>
    tree.groups = [] ∧ reader.HasSeen opened :=
  keeps_position.bind fun _ => .get fun _ _ => ensures_readClassFrom _ _ _

/-! ## Repetitions -/

theorem keeps_readDigits (value : Option Nat) (fuel : Nat) :
    Keeps opened (readDigits value fuel) := by
  induction fuel generalizing value with
  | zero => exact .done
  | succ fuel ih =>
    refine keeps_peek.bind fun next => ?_
    split
    · split
      · exact keeps_next.bind fun _ => ih _
      · exact .done
    · exact .done

theorem keeps_readCount : Keeps opened readCount := by
  refine .get fun reader _ => ?_
  extract_lets fuel
  refine (keeps_skipSpaces _).bind fun _ => keeps_position.bind fun start =>
    (keeps_readDigits _ _).bind fun value => keeps_position.bind fun stop => ?_
  extract_lets span
  refine (keeps_skipSpaces _).bind fun _ => ?_
  split
  · exact .done
  · split <;> exact .done

theorem keeps_liftExcept {α : Type} (result : Except Fault α) :
    Keeps opened (readCounted.liftExcept result) := by
  cases result with
  | ok result => exact .done
  | error fault =>
    intro reader result next seen run_eq
    cases run_eq

theorem ensures_repeated (parts : List Tree) :
    Ensures (Reader.HasSeen opened) (repeated parts) fun found reader =>
      parts = found.1 :: found.2 ∧ reader.HasSeen opened := by
  unfold repeated
  split
  · exact keeps_position.bind fun _ => .fail _ _ _
  · exact keeps_position.bind fun _ => .fail _ _ _
  · exact keeps_position.bind fun _ => .fail _ _ _
  · exact .pure fun _ seen => ⟨rfl, seen⟩

/-- The groups of parts that are given in reverse. -/
def groupsOfReverse (parts : List Tree) : List (Nat × Option String) :=
  parts.reverse.flatMap Tree.groups

theorem groupsOfReverse_cons (part : Tree) (parts : List Tree) :
    groupsOfReverse (part :: parts) = groupsOfReverse parts ++ part.groups := by
  simp [groupsOfReverse]

theorem ensures_readSign (parts : List Tree) (least : Nat) (most : Option Nat) :
    Ensures (Reader.HasSeen opened) (readSign parts least most) fun others reader =>
      groupsOfReverse others = groupsOfReverse parts ∧ reader.HasSeen opened := by
  refine (ensures_repeated parts).bind fun (part, before) => .given fun parts_eq => ?_
  subst parts_eq
  refine keeps_bump.bind fun _ => keeps_peek.bind fun next => ?_
  extract_lets greedy finish
  have finishes : Ensures (Reader.HasSeen opened) (finish ()) fun others reader =>
      groupsOfReverse others = groupsOfReverse (part :: before) ∧ reader.HasSeen opened := by
    refine keeps_position.bind fun stop => .pure fun _ seen => ⟨?_, seen⟩
    rw [groupsOfReverse_cons, groupsOfReverse_cons, Tree.groups]
  split
  · exact keeps_bump.bind fun _ => finishes
  · exact finishes

theorem ensures_readCounted (parts : List Tree) :
    Ensures (Reader.HasSeen opened) (readCounted parts) fun others reader =>
      groupsOfReverse others = groupsOfReverse parts ∧ reader.HasSeen opened := by
  refine keeps_position.bind fun start => (ensures_repeated parts).bind fun (part, before) =>
    .given fun parts_eq => ?_
  subst parts_eq
  refine keeps_next.bind fun next => ?_
  split
  · exact keeps_position.bind fun _ => .fail _ _ _
  · refine keeps_readCount.bind fun least => keeps_peek.bind fun next => ?_
    split
    · exact keeps_position.bind fun _ => .fail _ _ _
    · extract_lets finish
      have finishes (counts : Nat × Option Nat) :
          Ensures (Reader.HasSeen opened) (finish counts) fun others reader =>
            groupsOfReverse others = groupsOfReverse (part :: before) ∧ reader.HasSeen opened := by
        refine keeps_peek.bind fun next => ?_
        split
        · exact keeps_position.bind fun _ => .fail _ _ _
        · refine keeps_next.bind fun next => ?_
          extract_lets greedy last
          have lasts : Ensures (Reader.HasSeen opened) (last ()) fun others reader =>
              groupsOfReverse others = groupsOfReverse (part :: before) ∧
                reader.HasSeen opened := by
            simp only [last]
            split
            · refine keeps_position.bind fun stop => .pure fun _ seen => ⟨?_, seen⟩
              rw [groupsOfReverse_cons, groupsOfReverse_cons, Tree.groups]
            · exact keeps_position.bind fun _ => .fail _ _ _
          split
          · exact keeps_bump.bind fun _ => lasts
          · exact lasts
      split
      · refine keeps_next.bind fun next => ?_
        split
        · exact keeps_position.bind fun _ => Ensures.bind (.fail _ _ _) finishes
        · refine (keeps_liftExcept _).bind fun least => ?_
          split
          · exact Ensures.done.bind finishes
          · exact keeps_readCount.bind fun _ => (keeps_liftExcept _).bind fun _ =>
              Ensures.done.bind finishes
      · exact (keeps_liftExcept _).bind fun _ => Ensures.done.bind finishes

/-! ## Openings -/

theorem keeps_readNameFrom (name : List Char) (fuel : Nat) :
    Keeps opened (readNameFrom name fuel) := by
  induction fuel generalizing name with
  | zero => exact .done
  | succ fuel ih =>
    refine keeps_peek.bind fun next => ?_
    split
    · exact .done
    · split
      · exact .done
      · split
        · exact keeps_bump.bind fun _ => ih _
        · exact keeps_charSpan.bind fun _ => .fail _ _ _

theorem keeps_readFlagsFrom (items : FlagItems) (dangling : Option Span) (fuel : Nat) :
    Keeps opened (readFlagsFrom items dangling fuel) := by
  induction fuel generalizing items dangling with
  | zero => exact .done
  | succ fuel ih =>
    refine keeps_peek.bind fun next => ?_
    split
    · exact keeps_position.bind fun _ => .fail _ _ _
    · split
      · split
        · exact .fail _ _ _
        · exact .done
      · refine keeps_charSpan.bind fun span => ?_
        extract_lets finish
        have finishes (found : FlagItems × Option Span) : Keeps opened (finish found) := by
          refine keeps_bump.bind fun _ => keeps_peek.bind fun next => ?_
          split
          · exact keeps_position.bind fun _ => .fail _ _ _
          · exact ih _ _
        split
        · split
          · exact Ensures.bind (.fail _ _ _) finishes
          · exact Ensures.done.bind finishes
        · split
          · exact Ensures.bind (.fail _ _ _) finishes
          · split
            · exact Ensures.bind (.fail _ _ _) finishes
            · exact Ensures.done.bind finishes

/-- The group that a kind of parentheses stands for. -/
def GroupKind.groups : GroupKind → List (Nat × Option String)
  | .capture index name => [(index, name)]
  | .plain _ => []

/-- The group that an opening parenthesis starts. -/
def Opening.groups : Opening → List (Nat × Option String)
  | .group kind => kind.groups
  | .flags .. => []

theorem Tree.groups_group (span : Span) (kind : GroupKind) (part : Tree) :
    (Tree.group span kind part).groups = kind.groups ++ part.groups := by
  cases kind <;> simp [Tree.groups, GroupKind.groups]

/-- One group more has been counted. -/
theorem Reader.HasSeen.count {reader : Reader} (seen : reader.HasSeen opened) :
    { reader with captures := opened.length + 1 }.HasSeen
      (opened ++ [(opened.length + 1, none)]) where
  numbered := by simp [seen.numbered, List.range'_1_concat, Nat.add_comm 1]
  distinct := by simpa using seen.distinct
  captures_eq := by simp
  names_iff := by simpa using seen.names_iff

/-- The last group gets a name that no other has. -/
theorem Reader.HasSeen.name {reader : Reader} {index : Nat} {name : String} {span : Span}
    (seen : reader.HasSeen (opened ++ [(index, none)])) (fresh : name ∉ opened.filterMap Prod.snd) :
    { reader with names := (name, span) :: reader.names }.HasSeen
      (opened ++ [(index, some name)]) where
  numbered := by simpa using seen.numbered
  distinct := by
    have others : (opened.filterMap Prod.snd).Nodup := by simpa using seen.distinct
    rw [List.filterMap_append, List.nodup_append]
    refine ⟨others, List.pairwise_singleton _ name, fun other member last listed same => fresh ?_⟩
    rwa [← List.mem_singleton.mp listed, ← same]
  captures_eq := by simpa using seen.captures_eq
  names_iff other := by
    have others : other ∈ reader.names.map Prod.fst ↔ other ∈ opened.filterMap Prod.snd := by
      simpa using seen.names_iff other
    simp [others, or_comm]

theorem ensures_nextCapture : Ensures (Reader.HasSeen opened) nextCapture fun index reader =>
    reader.HasSeen (opened ++ [(index, none)]) := by
  refine .get fun reader seen => ?_
  rw [seen.captures_eq]
  extract_lets index
  exact .bind (.modify fun reader seen => seen.count) fun _ => .pure fun _ => id

theorem ensures_readName {index : Nat} :
    Ensures (Reader.HasSeen (opened ++ [(index, none)])) readName fun name reader =>
      reader.HasSeen (opened ++ [(index, some name)]) := by
  refine keeps_position.bind fun start => .get fun _ _ => (keeps_readNameFrom _ _).bind fun name =>
    keeps_position.bind fun stop => keeps_peek.bind fun next => ?_
  split
  · exact .fail _ _ _
  · refine keeps_bump.bind fun _ => ?_
    split
    · exact .fail _ _ _
    · extract_lets name span
      refine .get fun reader seen => ?_
      split
      · exact .fail _ _ _
      · rename_i unknown
        have fresh : name ∉ opened.filterMap Prod.snd := by
          have same : name ∈ reader.names.map Prod.fst ↔ name ∈ opened.filterMap Prod.snd := by
            simpa using seen.names_iff name
          rw [← same]
          intro member
          obtain ⟨⟨_, first⟩, listed, rfl⟩ := List.mem_map.mp member
          simpa using List.lookup_eq_none_iff.mp unknown _ listed
        exact .bind (.modify fun reader seen => seen.name fresh) fun _ => .pure fun _ => id

theorem ensures_readOpening (paren : Span) :
    Ensures (Reader.HasSeen opened) (readOpening paren) fun opening reader =>
      reader.HasSeen (opened ++ opening.groups) := by
  have nothing : opened ++ [] = opened := List.append_nil opened
  refine keeps_bump.bind fun _ => keeps_bumpBlanks.bind fun _ => (keeps_bumpIf _).bind fun _ =>
    (keeps_bumpIf _).bind fun _ => (keeps_bumpIf _).bind fun _ => (keeps_bumpIf _).bind fun _ => ?_
  split
  · exact keeps_position.bind fun _ => .fail _ _ _
  · refine keeps_position.bind fun inner => (keeps_bumpIf _).bind fun _ =>
      (keeps_bumpIf _).bind fun _ => ?_
    split
    · refine ensures_nextCapture.bind fun index => keeps_peek.bind fun next => ?_
      split
      · exact keeps_position.bind fun _ => .fail _ _ _
      · exact ensures_readName.bind fun name => .pure fun _ => id
    · refine (keeps_bumpIf _).bind fun _ => ?_
      split
      · refine keeps_peek.bind fun next => ?_
        split
        · exact .fail _ _ _
        · refine .get fun _ _ => (keeps_readFlagsFrom _ _ _).bind fun flags =>
            keeps_peek.bind fun last => keeps_bump.bind fun _ => ?_
          split
          · split
            · exact .fail _ _ _
            · exact keeps_position.bind fun _ => .pure fun _ seen => nothing.symm ▸ seen
          · exact .pure fun _ seen => nothing.symm ▸ seen
      · exact ensures_nextCapture.bind fun index => .pure fun _ => id

/-! ## Whole patterns -/

/-- The groups of branches. -/
def Branches.groups (branches : Branches) : List (Nat × Option String) :=
  groupsOfReverse branches.done ++ groupsOfReverse branches.current.parts

/-- The groups that have been opened before what stands inside the innermost of some frames. -/
def openedBefore : List GroupFrame → List (Nat × Option String)
  | [] => []
  | frame :: frames => openedBefore frames ++ frame.before.groups ++ frame.kind.groups

theorem Tree.groups_ofSequence (span : Span) (parts : List Tree) :
    (Tree.ofSequence span parts).groups = parts.flatMap Tree.groups := by
  match parts with
  | [] => rfl
  | [part] => simp [Tree.ofSequence]
  | first :: second :: parts => exact Tree.allGroups_eq_flatMap _

theorem Branch.groups_close (branch : Branch) (stop : Position) :
    (branch.close stop).groups = groupsOfReverse branch.parts :=
  Tree.groups_ofSequence _ _

theorem Branches.groups_close (branches : Branches) (stop : Position) :
    (branches.close stop).groups = branches.groups := by
  unfold Branches.close Branches.groups
  extract_lets last
  have last_eq : last.groups = groupsOfReverse branches.current.parts := Branch.groups_close _ _
  split
  · rename_i none_done
    rw [last_eq, none_done]
    rfl
  · rw [Tree.groups, Tree.allGroups_eq_flatMap, ← last_eq, ← groupsOfReverse_cons]
    rfl

/-- A reader that goes on with a pattern has come past the groups opened so far. -/
abbrev Continues (frames : List GroupFrame) (branches : Branches) : Reader → Prop :=
  Reader.HasSeen (openedBefore frames ++ branches.groups)

/-- Another part of the branch under way adds its groups. -/
theorem Branches.groups_withParts_cons (branches : Branches) (part : Tree) :
    (branches.withParts (part :: branches.current.parts)).groups =
      branches.groups ++ part.groups := by
  simp [Branches.groups, Branches.withParts, groupsOfReverse_cons]

theorem Branches.groups_withParts {branches : Branches} {parts : List Tree}
    (same : groupsOfReverse parts = groupsOfReverse branches.current.parts) :
    (branches.withParts parts).groups = branches.groups := by
  simp [Branches.groups, Branches.withParts, same]

theorem Branches.groups_starting (start : Position) : (Branches.starting start).groups = [] := rfl

theorem Branches.groups_endBranch (branches : Branches) (outer stop start : Position) :
    Branches.groups ⟨outer, branches.current.close stop :: branches.done, ⟨start, []⟩⟩ =
      branches.groups := by
  simp [Branches.groups, Branch.groups_close, groupsOfReverse]

/-- Reading on comes past the groups of the whole pattern, in their order. -/
theorem ensures_readFrom (frames : List GroupFrame) (branches : Branches) (fuel : Nat) :
    Ensures (Continues frames branches) (readFrom frames branches fuel) fun tree reader =>
      reader.HasSeen tree.groups := by
  induction fuel generalizing frames branches with
  | zero => exact keeps_position.bind fun _ => .fail _ _ _
  | succ fuel ih =>
    have withPart {part : Tree} (none_inside : part.groups = []) :
        Ensures (Continues frames branches)
          (readFrom frames (branches.withParts (part :: branches.current.parts)) fuel)
          fun tree reader => reader.HasSeen tree.groups := by
      have others := ih frames (branches.withParts (part :: branches.current.parts))
      rwa [Continues, Branches.groups_withParts_cons, none_inside, List.append_nil] at others
    have withParts {parts : List Tree}
        (same : groupsOfReverse parts = groupsOfReverse branches.current.parts) :
        Ensures (Continues frames branches) (readFrom frames (branches.withParts parts) fuel)
          fun tree reader => reader.HasSeen tree.groups := by
      have others := ih frames (branches.withParts parts)
      rwa [Continues, Branches.groups_withParts same] at others
    unfold readFrom
    refine keeps_bumpBlanks.bind fun _ => ?_
    extract_lets parts
    refine keeps_peek.bind fun next => ?_
    split
    · -- the pattern ends
      split
      · exact .fail _ _ _
      · refine keeps_position.bind fun stop => .pure fun reader seen => ?_
        rwa [Branches.groups_close]
    · -- a group is opened
      refine keeps_charSpan.bind fun paren => (ensures_readOpening paren).bind fun opening => ?_
      split
      · rename_i span flags
        have onward := withPart (show (Tree.flags span flags).groups = [] from rfl)
        rw [Opening.groups, List.append_nil]
        split
        · exact .bind (.modify fun _ seen => seen.same rfl rfl) fun _ => onward
        · exact onward
      · rename_i kind
        refine .get fun reader _ => ?_
        extract_lets ignoreBlanks finish
        have finishes :
            Ensures (Reader.HasSeen (openedBefore frames ++ branches.groups ++ kind.groups))
              (finish ()) fun tree reader => reader.HasSeen tree.groups := by
          refine keeps_position.bind fun start => ?_
          have onward := ih (⟨branches, kind, paren, ignoreBlanks⟩ :: frames) (.starting start)
          rwa [Continues, Branches.groups_starting, List.append_nil] at onward
        split
        · split
          · exact .bind (.modify fun _ seen => seen.same rfl rfl) fun _ => finishes
          · exact finishes
        · exact finishes
    · -- a group is closed
      split
      · exact keeps_charSpan.bind fun _ => .fail _ _ _
      · rename_i frame frames
        refine keeps_position.bind fun stop => ?_
        refine .bind (.modify fun _ seen => seen.same rfl rfl) fun _ => keeps_bump.bind fun _ => ?_
        refine keeps_position.bind fun last => ?_
        extract_lets group before
        have onward := ih frames (before.withParts (group :: before.current.parts))
        rwa [Continues, Branches.groups_withParts_cons, Tree.groups_group, Branches.groups_close,
          ← List.append_assoc, ← List.append_assoc] at onward
    · -- a branch ends
      refine keeps_position.bind fun stop => keeps_bump.bind fun _ =>
        keeps_position.bind fun start => ?_
      have onward := ih frames
        ⟨branches.start, branches.current.close stop :: branches.done, ⟨start, []⟩⟩
      rwa [Continues, Branches.groups_endBranch] at onward
    · -- a class
      exact ensures_readClass.bind fun _ => .given withPart
    · exact (ensures_readSign _ _ _).bind fun _ => .given withParts
    · exact (ensures_readSign _ _ _).bind fun _ => .given withParts
    · exact (ensures_readSign _ _ _).bind fun _ => .given withParts
    · exact (ensures_readCounted _).bind fun _ => .given withParts
    · refine keeps_readAtom.bind fun atom => withPart ?_
      cases atom <;> rfl

/-- The groups of a pattern have the numbers from one on in the order in which they open, and no two
of them have the same name. -/
theorem Tree.groups_of_parse {pattern : String} {tree : Tree}
    (parsed : Tree.parse pattern = .ok tree) :
    tree.groups.map Prod.fst = List.range' 1 tree.groups.length ∧
      (tree.groups.filterMap Prod.snd).Nodup := by
  unfold Tree.parse at parsed
  extract_lets chars at parsed
  rw [StateT.run'_eq] at parsed
  cases read_eq : (readFrom [] (.starting {}) (chars.length + 1)).run { rest := chars } with
  | error fault =>
    rw [read_eq] at parsed
    cases parsed
  | ok result =>
    have nothing : Continues [] (.starting {}) { rest := chars } :=
      ⟨rfl, .nil, rfl, by simp [openedBefore, Branches.groups_starting]⟩
    have seen := ensures_readFrom _ _ _ _ _ _ nothing read_eq
    rw [read_eq] at parsed
    simp only [Functor.map, Except.map, ok_bind] at parsed
    split at parsed
    · cases parsed
    · cases parsed
      exact ⟨seen.numbered, seen.distinct⟩

section

variable {pattern : String} {tree : Tree} {expr : Expr}

theorem nodup_groups_of_parse (parsed : Tree.parse pattern = .ok tree) :
    (tree.groups.map Prod.fst).Nodup := by
  rw [(Tree.groups_of_parse parsed).1]
  exact List.nodup_range'

/-- The groups of a pattern that is read have positive numbers in its meaning; zero is that of the
whole match. -/
theorem isNumbered_of_parse_of_meaning (parsed : Tree.parse pattern = .ok tree)
    (means : tree.meaning = .ok expr) : expr.IsNumbered := by
  obtain ⟨⟨inner, _⟩, inner_eq, means⟩ := bind_eq_ok_iff.mp means
  cases means
  rw [Expr.isNumbered_iff]
  intro index member
  have listed := Tree.mem_groups_of_offers ((Tree.mem_groups_meaningIn inner_eq).mp member)
  rw [(Tree.groups_of_parse parsed).1] at listed
  exact (List.mem_range'_1.mp listed).1

theorem isNested_of_parse_of_meaning (parsed : Tree.parse pattern = .ok tree)
    (means : tree.meaning = .ok expr) : expr.IsNested := by
  obtain ⟨⟨inner, _⟩, inner_eq, means⟩ := bind_eq_ok_iff.mp means
  cases means
  exact Tree.isNested_meaningIn (nodup_groups_of_parse parsed) inner_eq

end

end Emend.Pattern
