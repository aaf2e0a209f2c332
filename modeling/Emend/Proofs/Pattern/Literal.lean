/-
# Literals as patterns

A pattern that means a text is searched for as a text, and each search of a replacement starts where
the last match stops.  The matches are therefore the occurrences at which a literal rule cuts a
content, and with a template in which every dollar sign is doubled the two rules agree.
-/

import Emend.Proofs.Pattern.Escaped
import Emend.Proofs.Text.Occurrence
import Emend.Rule

namespace Emend

namespace Pattern

open Substitute (Cuts NotFoundBefore starts)

namespace Regex

variable {literal content rest : Bytes} {pieces : List Bytes}

/-! ## Single searches -/

theorem standsAt_iff (content : Bytes) (position : Nat) :
    standsAt content.toArray position literal = true ↔ literal <+: content.drop position := by
  induction literal generalizing position with
  | nil => simp [standsAt]
  | cons b literal ih =>
    rw [standsAt, Bool.and_eq_true, ih, decide_eq_true_eq, List.getElem?_toArray]
    by_cases inside : position < content.length
    · rw [List.drop_eq_getElem_cons inside, List.cons_prefix_cons,
        List.getElem?_eq_getElem inside, Option.some_inj, eq_comm]
    · have beyond : content.length ≤ position := Nat.le_of_not_lt inside
      simp [List.drop_eq_nil_of_le beyond, beyond]

/-- A search finds the first occurrence, if that is among the positions it tries. -/
theorem findLiteral?_eq_some {position distance count : Nat}
    (first : NotFoundBefore literal (content.drop position) distance)
    (found : literal <+: content.drop (position + distance)) (within : distance < count) :
    findLiteral? literal content.toArray position count = some (position + distance) := by
  induction count generalizing position distance with
  | zero => exact absurd within (Nat.not_lt_zero distance)
  | succ count ih =>
    rw [findLiteral?]
    cases distance with
    | zero => rw [if_pos ((standsAt_iff content position).mpr found), Nat.add_zero]
    | succ distance =>
      have notHere : ¬ standsAt content.toArray position literal = true := by
        rw [standsAt_iff]
        simpa using first 0 (Nat.zero_lt_succ distance)
      have later : NotFoundBefore literal (content.drop (position + 1)) distance := by
        intro earlier less
        have := first (earlier + 1) (Nat.succ_lt_succ less)
        rwa [List.drop_drop, Nat.add_comm earlier 1, ← Nat.add_assoc, ← List.drop_drop] at this
      have shifted : position + (distance + 1) = position + 1 + distance := by omega
      rw [shifted] at found ⊢
      rw [if_neg notHere]
      exact ih later found (Nat.lt_of_succ_lt_succ within)

theorem findLiteral?_eq_none {position : Nat} (count : Nat)
    (absent : ¬ literal <:+: content.drop position) :
    findLiteral? literal content.toArray position count = none := by
  induction count generalizing position with
  | zero => rfl
  | succ count ih =>
    have notHere : ¬ standsAt content.toArray position literal = true := by
      rw [standsAt_iff]
      exact fun found => absent found.isInfix
    rw [findLiteral?, if_neg notHere]
    apply ih
    rw [← List.drop_drop]
    exact fun found => absent (found.trans (List.drop_suffix 1 _).isInfix)

/-! ## The matches of a literal -/

/-- The match of a literal of a given width that starts at a position. -/
def literalMatch (width start : Nat) : Match :=
  { start, stop := start + width, groups := [some (start, start + width)] }

variable {regex : Regex}

/-- The searches of a replacement find the occurrences at which the content is cut. -/
theorem matchesFrom_cuts (nonempty : literal ≠ []) (strategy : regex.strategy = .literal literal)
    (cuts : Cuts literal rest pieces) :
    ∀ (before : Bytes) (lastStop : Option Nat) (done : List Match) (fuel : Nat),
      rest.length < fuel →
        regex.matchesFrom (before ++ rest).toArray before.length lastStop done fuel =
          done.reverse ++ (starts literal.length before.length pieces).map
            (literalMatch literal.length) := by
  have positive : 0 < literal.length := List.length_pos_iff.mpr nonempty
  induction cuts with
  | @whole rest absent =>
    intro before lastStop done fuel enough
    obtain ⟨fuel, rfl⟩ := Nat.exists_eq_add_one.mpr (Nat.zero_lt_of_lt enough)
    have notFound (count : Nat) :
        findLiteral? literal (before ++ rest).toArray before.length count = none :=
      findLiteral?_eq_none count (by simpa using absent)
    simp [matchesFrom, find?, strategy, notFound, starts]
  | @occurrence piece rest pieces first later ih =>
    intro before lastStop done fuel enough
    obtain ⟨fuel, rfl⟩ := Nat.exists_eq_add_one.mpr (Nat.zero_lt_of_lt enough)
    let start := before.length + piece.length
    let found := literalMatch literal.length start
    simp only [List.length_append] at enough
    have search (count : Nat) (within : piece.length < count) :
        findLiteral? literal (before ++ (piece ++ (literal ++ rest))).toArray before.length count =
          some start := by
      refine findLiteral?_eq_some (by simpa using first) ?_ within
      rw [← List.drop_drop, List.drop_left, List.drop_left]
      exact List.prefix_append literal rest
    have find_eq : regex.find? (before ++ (piece ++ (literal ++ rest))).toArray before.length =
        some found := by
      have within : piece.length < (before ++ (piece ++ (literal ++ rest))).toArray.size + 1 -
          before.length - literal.length := by
        simp only [List.size_toArray, List.length_append]
        omega
      simp only [find?, strategy, search _ within]
      rfl
    have moved : ¬ (found.start = found.stop ∧ lastStop = some found.stop) := by
      rintro ⟨stays, -⟩
      change start = start + literal.length at stays
      omega
    have content_eq : before ++ (piece ++ (literal ++ rest)) =
        (before ++ (piece ++ literal)) ++ rest := by simp
    have stop_eq : found.stop = (before ++ (piece ++ literal)).length := by
      simp only [List.length_append, ← Nat.add_assoc]
      rfl
    rw [matchesFrom, find_eq]
    simp only [if_neg moved]
    rw [content_eq, stop_eq, ih _ _ _ fuel (by omega), later.starts_cons, ← stop_eq]
    simp [found, start, literalMatch]

theorem allMatches_cuts (nonempty : literal ≠ []) (strategy : regex.strategy = .literal literal)
    (cuts : Cuts literal content pieces) :
    regex.allMatches content.toArray =
      (starts literal.length 0 pieces).map (literalMatch literal.length) := by
  have enough : content.length < content.toArray.size + 2 := by
    rw [List.size_toArray]
    omega
  exact matchesFrom_cuts nonempty strategy cuts [] none [] _ enough

/-! ## Replacing the matches -/

/-- With the same text for each match, the result is the pieces with this text between them. -/
theorem spliceFrom_cuts (replacement : Match → Bytes) {inserted : Bytes}
    (constant : ∀ found, replacement found = inserted) (cuts : Cuts literal content pieces) :
    ∀ (position : Nat) (done : Bytes),
      spliceFrom replacement position done
          ((starts literal.length position pieces).map (literalMatch literal.length)) content =
        done.reverse ++ inserted.intercalate pieces := by
  induction cuts with
  | whole absent =>
    intro position done
    simp [starts, spliceFrom]
  | @occurrence piece rest pieces first later ih =>
    intro position done
    have behind : (piece ++ (literal ++ rest)).drop (piece.length + literal.length) = rest := by
      rw [← List.append_assoc, ← List.length_append, List.drop_left]
    rw [later.starts_cons, List.map_cons, spliceFrom]
    simp only [literalMatch, constant, Nat.add_sub_cancel_left, Nat.add_assoc, List.take_left,
      behind]
    rw [← Nat.add_assoc, ih]
    cases later <;> simp

/-- A pattern that is searched for as a text is replaced where a literal is. -/
theorem replace?_eq_of_literal (nonempty : literal ≠ [])
    (strategy : regex.strategy = .literal literal) {template : Template} {inserted : Bytes}
    (constant : ∀ group number?, template.expand group number? = inserted) (content : Bytes) :
    regex.replace? template content = Substitute.replace? literal inserted content := by
  have cuts := Substitute.pieces_cuts nonempty content
  have found_eq := allMatches_cuts nonempty strategy cuts
  let replacement (found : Match) : Bytes :=
    template.expand (groupText content.toArray found) regex.groupNumber?
  have spliced := spliceFrom_cuts replacement (fun found => constant _ _) cuts 0 []
  by_cases occurs : literal <:+: content
  · rw [Substitute.replace?_eq_some_of_infix nonempty occurs]
    generalize Substitute.pieces literal content = pieces at cuts found_eq spliced
    cases cuts with
    | whole absent => exact absurd occurs absent
    | occurrence first later =>
      rw [later.starts_cons, List.map_cons] at found_eq spliced
      rw [replace?]
      simp only [found_eq]
      exact congrArg some spliced
  · rw [Substitute.replace?_eq_none_of_absent nonempty occurs]
    rw [cuts.eq_whole_of_absent occurs] at found_eq
    simp [replace?, found_eq, starts]

end Regex

/-! ## Texts as templates -/

/-- A character as it is written in a template where it stands for itself. -/
def templateChar (c : Char) : List Char := if c = '$' then ['$', '$'] else [c]

/-- The template for a text. -/
def Template.escape (text : String) : String := String.ofList (text.toList.flatMap templateChar)

theorem templateFrom_escape (chars : List Char) (done : List TemplatePart) :
    templateFrom 0 done (chars.flatMap templateChar) = done.reverse ++ chars.map .char := by
  induction chars generalizing done with
  | nil => simp [templateFrom]
  | cons c chars ih =>
    by_cases dollar : c = '$'
    · subst dollar
      have head_eq : ('$' :: chars).flatMap templateChar =
        '$' :: '$' :: chars.flatMap templateChar := rfl
      have reference : referenceAfter? ('$' :: chars.flatMap templateChar) =
        some (.char '$', 1) := rfl
      simp [head_eq, templateFrom, reference, ih]
    · have head_eq : (c :: chars).flatMap templateChar = c :: chars.flatMap templateChar := by
        simp [templateChar, dollar]
      simp [head_eq, templateFrom, dollar, ih]

/-- The template for a text stands for the bytes of the text, whatever the groups. -/
theorem Template.expand_escape (text : String) (group : Nat → Bytes)
    (number? : String → Option Nat) :
    (parse (escape text)).expand group number? = Bytes.ofText text := by
  simp [parse, escape, templateFrom_escape, expand, List.flatMap_map, Bytes.ofText, Bytes.ofChars]

end Pattern

/-! ## Rules -/

/-- A literal rule written as a pattern rule. -/
def Substitution.escaped (rule : Substitution) : Substitution :=
  { find := Pattern.escape rule.find, replacement := Pattern.Template.escape rule.replacement }

namespace Rule

open Pattern in
/-- A literal that is not empty, written as a pattern, is refused only for its size.  If it is not
refused it does to any content what the literal does, and it reports a change whenever the literal
does. -/
theorem escaped_agrees_with_literal (rule : Substitution) (nonempty : rule.find ≠ "") :
    (∀ compiled, ofPattern rule.escaped = .ok compiled → ∀ content,
      compiled.substitute? content = (Rule.literal rule).substitute? content ∧
        compiled.apply content = (Rule.literal rule).apply content) ∧
    (∀ reason, ofPattern rule.escaped = .error reason →
      reason = .tooLarge ∧ (Expr.literal (Bytes.ofText rule.find)).fits = false) := by
  have compiles := compile_escape nonempty
  constructor
  · intro compiled accepted content
    have substituted : compiled.substitute? content = (Rule.literal rule).substitute? content := by
      rw [ofPattern, Substitution.escaped, compiles] at accepted
      split at accepted
      · injection accepted with compiled_eq
        have find_eq : rule.find.isEmpty = false := by simpa using nonempty
        rw [← compiled_eq]
        simp only [substitute?, Substitution.applyLiteral, find_eq]
        exact Regex.replace?_eq_of_literal (Bytes.ofText_ne_nil nonempty) rfl
          (Template.expand_escape rule.replacement) content
      · cases accepted
    exact ⟨substituted, by rw [apply, apply, substituted]⟩
  · intro reason refused
    rw [ofPattern, Substitution.escaped, compiles] at refused
    split at refused
    · cases refused
    · rename_i large
      injection refused with reason_eq
      exact ⟨reason_eq.symm, by simpa using large⟩

/-- A literal of characters with a meaning of their own, and a replacement that would be
expanded. -/
theorem escaped_agrees_with_literal_of_metacharacters :
    let rule : Substitution := ⟨"a.b\n$", "$1-$$"⟩
    let content := Bytes.ofText "a.b\n$ axb\n$"
    rule.find ≠ "" ∧ ∃ compiled, ofPattern ⟨"a\\.b\n\\$", "$$1-$$$$"⟩ = .ok compiled ∧
      compiled.apply content = Bytes.ofText "$1-$$ axb\n$" := by
  intro rule content
  have nonempty : rule.find ≠ "" := by decide
  have agrees := (escaped_agrees_with_literal rule nonempty).1
  have escaped_eq : rule.escaped = ⟨"a\\.b\n\\$", "$$1-$$$$"⟩ := by decide
  rw [escaped_eq] at agrees
  have accepted := Pattern.compile_escape nonempty
  have escape_eq : Pattern.escape rule.find = "a\\.b\n\\$" := by decide
  rw [escape_eq, if_pos (by decide)] at accepted
  refine ⟨nonempty, _, by rw [ofPattern, accepted]; rfl, ?_⟩
  rw [(agrees _ (by rw [ofPattern, accepted]; rfl) content).2]
  decide

end Rule

end Emend
