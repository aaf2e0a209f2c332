/-
# Texts as patterns

With a backslash before every character that has a meaning of its own, a text is a pattern for
itself.  Such a pattern breaks no rule: it is read as its characters in sequence, and these together
mean the bytes of the text.
-/

import Emend.Pattern.Regex
import Emend.Proofs.Traversal

namespace Emend.Pattern

/-! ## Steps of reading -/

namespace Read

variable {reader : Reader} {c : Char} {rest : List Char}

theorem run_peek (reader : Reader) : peek.run reader = .ok (reader.rest.head?, reader) := rfl

theorem run_position (reader : Reader) : position.run reader = .ok (reader.position, reader) := rfl

theorem run_charSpan (rest_eq : reader.rest = c :: rest) :
    charSpan.run reader = .ok (Span.ofChar reader.position c, reader) := by
  obtain ⟨_, start, blanks, captures, names⟩ := reader
  cases rest_eq
  rfl

theorem run_bump (rest_eq : reader.rest = c :: rest) :
    bump.run reader = .ok ((), { reader with rest, position := reader.position.after c }) := by
  obtain ⟨_, start, blanks, captures, names⟩ := reader
  cases rest_eq
  rfl

theorem run_bumpBlanks (blanks : reader.ignoreBlanks = false) :
    bumpBlanks.run reader = .ok ((), reader) := by
  obtain ⟨rest, start, _, captures, names⟩ := reader
  cases blanks
  rfl

end Read

/-- A character as it is written where it stands for itself. -/
def escapeChar (c : Char) : List Char := if isMeta c then ['\\', c] else [c]

/-- The pattern for a text. -/
def escape (text : String) : String := String.ofList (text.toList.flatMap escapeChar)

theorem ne_of_isMeta {c d : Char} (special : isMeta c = true) (plain : isMeta d = false) :
    c ≠ d := by
  rintro rfl
  rw [special] at plain
  cases plain

theorem ne_of_not_isMeta {c d : Char} (plain : isMeta c = false) (special : isMeta d = true) :
    c ≠ d := (ne_of_isMeta special plain).symm

theorem not_isDigit_of_isMeta {c : Char} (special : isMeta c = true) : c.isDigit = false := by
  simp only [isMeta, List.mem_cons, List.not_mem_nil, or_false, decide_eq_true_eq] at special
  rcases special with rfl | rfl | rfl | rfl | rfl | rfl | rfl | rfl | rfl | rfl | rfl | rfl | rfl
    | rfl | rfl | rfl | rfl | rfl <;> rfl

variable {reader : Reader} {c : Char} {rest : List Char}

theorem run_readAtom_of_plain (rest_eq : reader.rest = c :: rest) (plain : isMeta c = false) :
    readAtom.run reader =
      .ok (.literal { span := Span.ofChar reader.position c, char := c },
        { reader with rest, position := reader.position.after c }) := by
  have different {d : Char} (special : isMeta d = true) := ne_of_not_isMeta plain special
  have backslash : c ≠ '\\' := different (by decide)
  have dot : c ≠ '.' := different (by decide)
  have caret : c ≠ '^' := different (by decide)
  have dollar : c ≠ '$' := different (by decide)
  simp only [readAtom, bind_pure_comp, StateT.run_bind, Read.run_peek, rest_eq, List.head?_cons,
    ok_bind, Read.run_charSpan rest_eq, StateT.run_map, Read.run_bump rest_eq]
  rfl

theorem run_readAtom_of_escaped (rest_eq : reader.rest = '\\' :: c :: rest)
    (special : isMeta c = true) :
    ∃ span stop, readAtom.run reader =
      .ok (.literal { span, char := c }, { reader with rest, position := stop }) := by
  have different {d : Char} (plain : isMeta d = false) := ne_of_isMeta special plain
  have x : c ≠ 'x' := different (by decide)
  have u : c ≠ 'u' := different (by decide)
  have U : c ≠ 'U' := different (by decide)
  have p : c ≠ 'p' := different (by decide)
  have P : c ≠ 'P' := different (by decide)
  have digit := not_isDigit_of_isMeta special
  have escapable : isEscapable c = true := by simp [isEscapable, special]
  let stop := (reader.position.after '\\').after c
  refine ⟨⟨reader.position, stop⟩, stop, ?_⟩
  simp [readAtom, readEscape, StateT.run_bind, Read.run_peek, Read.run_position, rest_eq, ok_bind,
    Read.run_bump rest_eq, digit, escapable]
  rfl

/-- A character that stands for itself is read as one. -/
theorem run_readAtom_escapeChar (rest_eq : reader.rest = escapeChar c ++ rest) :
    ∃ span stop, readAtom.run reader =
      .ok (.literal { span, char := c }, { reader with rest, position := stop }) := by
  cases special : isMeta c with
  | true =>
    simp only [escapeChar, special, if_true, List.cons_append, List.nil_append] at rest_eq
    exact run_readAtom_of_escaped rest_eq special
  | false =>
    simp only [escapeChar, special, Bool.false_eq_true, if_false, List.cons_append,
      List.nil_append] at rest_eq
    exact ⟨_, _, run_readAtom_of_plain rest_eq special⟩

/-- The signs that the whole pattern is read by; any other character starts an atom. -/
def isSign (c : Char) : Bool := c ∈ ['(', ')', '|', '[', '?', '*', '+', '\x7b']

theorem exists_head_escapeChar (c : Char) :
    ∃ d more, escapeChar c = d :: more ∧ isSign d = false := by
  cases special : isMeta c with
  | true => exact ⟨'\\', [c], by simp [escapeChar, special], by decide⟩
  | false =>
    refine ⟨c, [], by simp [escapeChar, special], ?_⟩
    have different {d : Char} (sign : isMeta d = true) := ne_of_not_isMeta special sign
    simp [isSign, different (d := '(') (by decide), different (d := ')') (by decide),
      different (d := '|') (by decide), different (d := '[') (by decide),
      different (d := '?') (by decide), different (d := '*') (by decide),
      different (d := '+') (by decide), different (d := '\x7b') (by decide)]

variable {frames : List GroupFrame} {branches : Branches} {fuel : Nat}

theorem length_le_flatMap_escapeChar (chars : List Char) :
    chars.length ≤ (chars.flatMap escapeChar).length := by
  induction chars with
  | nil => exact Nat.le_refl 0
  | cons c chars ih =>
    obtain ⟨d, more, head_eq, -⟩ := exists_head_escapeChar c
    simp only [List.flatMap_cons, head_eq, List.length_append, List.length_cons]
    omega

/-- One step of reading, where an atom comes next. -/
theorem run_readFrom_of_atom {atom : Atom} {next : Reader} (rest_eq : reader.rest = c :: rest)
    (blanks : reader.ignoreBlanks = false) (sign : isSign c = false)
    (atom_eq : readAtom.run reader = .ok (atom, next)) :
    (readFrom frames branches (fuel + 1)).run reader =
      (readFrom frames (branches.withParts (atom.toTree :: branches.current.parts)) fuel).run
        next := by
  simp only [isSign, List.mem_cons, List.not_mem_nil, or_false, decide_eq_false_iff_not,
    not_or] at sign
  obtain ⟨opening, closing, bar, bracket, question, star, plus, brace⟩ := sign
  conv => lhs; unfold readFrom
  simp [StateT.run_bind, Read.run_bumpBlanks blanks, ok_bind, Read.run_peek, rest_eq, atom_eq]

/-- One step of reading, where nothing is left and no group is open. -/
theorem run_readFrom_of_end (rest_eq : reader.rest = []) (blanks : reader.ignoreBlanks = false) :
    (readFrom [] branches (fuel + 1)).run reader =
      .ok (branches.close reader.position, reader) := by
  unfold readFrom
  simp only [bind_pure_comp, StateT.run_bind, Read.run_bumpBlanks blanks, Read.run_peek, ok_bind,
    rest_eq, List.head?_nil, StateT.run_map, Read.run_position]
  rfl

/-- Characters that stand for themselves are read in sequence. -/
theorem run_readFrom_escaped (chars : List Char) :
    ∀ (reader : Reader) (branches : Branches) {fuel : Nat},
      reader.rest = chars.flatMap escapeChar → reader.ignoreBlanks = false →
        chars.length < fuel →
          ∃ (lits : List Literal) (stop : Position) (last : Reader), lits.map (·.char) = chars ∧
            (readFrom [] branches fuel).run reader =
              .ok ((branches.withParts
                ((lits.map Tree.literal).reverse ++ branches.current.parts)).close stop, last) := by
  induction chars with
  | nil =>
    intro reader branches fuel rest_eq blanks enough
    obtain ⟨fuel, rfl⟩ := Nat.exists_eq_add_one.mpr enough
    exact ⟨[], reader.position, reader, rfl, run_readFrom_of_end rest_eq blanks⟩
  | cons c chars ih =>
    intro reader branches fuel rest_eq blanks enough
    obtain ⟨fuel, rfl⟩ := Nat.exists_eq_add_one.mpr (Nat.zero_lt_of_lt enough)
    obtain ⟨d, more, head_eq, sign⟩ := exists_head_escapeChar c
    rw [List.flatMap_cons] at rest_eq
    obtain ⟨span, after, atom_eq⟩ := run_readAtom_escapeChar rest_eq
    rw [head_eq, List.cons_append] at rest_eq
    let next : Reader := { reader with rest := chars.flatMap escapeChar, position := after }
    let lit : Literal := { span, char := c }
    obtain ⟨lits, stop, last, chars_eq, run_eq⟩ :=
      ih next (branches.withParts (.literal lit :: branches.current.parts)) rfl blanks
        (Nat.lt_of_succ_lt_succ enough)
    refine ⟨lit :: lits, stop, last, by rw [List.map_cons, chars_eq], ?_⟩
    rw [run_readFrom_of_atom rest_eq blanks sign atom_eq]
    simpa [Branches.withParts, Atom.toTree, lit, next] using run_eq

/-! ## The pattern as a whole -/

theorem anyTooDeep?_literals (depth : Nat) (lits : List Literal) :
    Tree.anyTooDeep? depth (lits.map .literal) = none := by
  induction lits with
  | nil => rfl
  | cons lit lits ih => simpa [Tree.anyTooDeep?, Tree.tooDeep?] using ih

theorem allGroupNames_literals (done : List (String × Nat)) (lits : List Literal) :
    Tree.allGroupNames done (lits.map .literal) = done := by
  induction lits generalizing done with
  | nil => rfl
  | cons lit lits ih => simpa [Tree.allGroupNames, Tree.groupNames] using ih done

/-- Characters in sequence do not nest. -/
theorem tooDeep?_ofSequence (span : Span) (lits : List Literal) :
    (Tree.ofSequence span (lits.map .literal)).tooDeep? 0 = none := by
  match lits with
  | [] => rfl
  | [lit] => rfl
  | first :: second :: lits =>
    exact anyTooDeep?_literals 1 (first :: second :: lits)

/-- Characters in sequence name no groups. -/
theorem groupNames_ofSequence (span : Span) (lits : List Literal) :
    (Tree.ofSequence span (lits.map .literal)).groupNames = [] := by
  match lits with
  | [] => rfl
  | [lit] => rfl
  | first :: second :: lits =>
    exact allGroupNames_literals [] (first :: second :: lits)

/-- The pattern for a text is read as the characters of the text. -/
theorem parse_escape (text : String) :
    ∃ (span : Span) (lits : List Literal), lits.map (·.char) = text.toList ∧
      Tree.parse (escape text) = .ok (.ofSequence span (lits.map .literal)) := by
  let chars := text.toList.flatMap escapeChar
  have enough : text.toList.length < chars.length + 1 :=
    Nat.lt_succ_of_le (length_le_flatMap_escapeChar text.toList)
  obtain ⟨lits, stop, last, chars_eq, run_eq⟩ :=
    run_readFrom_escaped text.toList { rest := chars } (.starting {}) rfl rfl enough
  have tree_eq : (readFrom [] (.starting {}) (chars.length + 1)).run' { rest := chars } =
      .ok (.ofSequence ⟨{}, stop⟩ (lits.map .literal)) := by
    rw [StateT.run'_eq, run_eq]
    simp [Except.map, Functor.map, Branches.starting, Branches.withParts, Branches.close,
      Branch.close]
  refine ⟨⟨{}, stop⟩, lits, chars_eq, ?_⟩
  simp only [Tree.parse, escape, String.toList_ofList]
  rw [tree_eq, ok_bind, tooDeep?_ofSequence]
  rfl

/-! ## The meaning of the characters -/

theorem meaningIn_literal (lit : Literal) :
    (Tree.literal lit).meaningIn {} = .ok (.literal (String.utf8EncodeChar lit.char), {}) := rfl

theorem meaningsIn_literals (lits : List Literal) (done : List Expr) :
    Tree.meaningsIn {} done (lits.map .literal) =
      .ok ((lits.map fun lit => Expr.literal (String.utf8EncodeChar lit.char)).reverse ++ done,
        {}) := by
  induction lits generalizing done with
  | nil => rfl
  | cons lit lits ih =>
    rw [List.map_cons, Tree.meaningsIn, meaningIn_literal]
    simp only [ok_bind, ih, List.map_cons, List.reverse_cons, List.append_assoc,
      List.singleton_append]

/-- Literals one after the other make up one literal. -/
theorem ofReverse_literals (first : Bytes) (others : List Bytes) :
    Expr.ofReverse ((first :: others).map Expr.literal).reverse =
      .literal (first :: others).flatten := by
  rw [Expr.ofReverse, List.foldl_reverse]
  induction others generalizing first with
  | nil => simp [Expr.andThen]
  | cons second others ih =>
    rw [List.map_cons, List.foldr_cons, ih second]
    simp [Expr.andThen]

theorem meaning_sequence_eq_ofReverse (span : Span) (lits : List Literal) :
    (Tree.sequence span (lits.map .literal)).meaning =
      .ok (.ofReverse
        (lits.map fun lit => Expr.literal (String.utf8EncodeChar lit.char)).reverse) := by
  rw [Tree.meaning, Tree.meaningIn, meaningsIn_literals]
  simp only [ok_bind, List.append_nil]
  rfl

/-- Characters in sequence mean the bytes of the text they make up. -/
theorem meaning_ofSequence (span : Span) {lits : List Literal} (nonempty : lits ≠ []) :
    (Tree.ofSequence span (lits.map .literal)).meaning =
      .ok (.literal (Bytes.ofChars (lits.map (·.char)))) := by
  match lits, nonempty with
  | [lit], _ =>
    have bytes_eq : Bytes.ofChars [lit.char] = String.utf8EncodeChar lit.char := by simp
    rw [List.map_singleton, List.map_singleton, bytes_eq]
    rfl
  | first :: second :: lits, _ =>
    let encoded (lit : Literal) : Bytes := String.utf8EncodeChar lit.char
    have joined := ofReverse_literals (encoded first) ((second :: lits).map encoded)
    rw [← List.map_cons, List.map_map] at joined
    calc (Tree.ofSequence span ((first :: second :: lits).map .literal)).meaning
        = .ok (.ofReverse ((first :: second :: lits).map (Expr.literal ∘ encoded)).reverse) :=
          meaning_sequence_eq_ofReverse span (first :: second :: lits)
      _ = .ok (.literal (Bytes.ofChars ((first :: second :: lits).map (·.char)))) := by
          rw [joined, Bytes.ofChars, List.flatMap_map]
          rfl

/-! ## Compiling -/

/-- The pattern for a text that is not empty is refused only for its size.  Otherwise it is searched
for as the bytes of the text, and it has no groups besides the whole match. -/
theorem compile_escape {text : String} (nonempty : text ≠ "") :
    Regex.compile (escape text) =
      if (Expr.literal (Bytes.ofText text)).fits then
        .ok { strategy := .literal (Bytes.ofText text), groupNames := [], groupCount := 1 }
      else .error .tooLarge := by
  obtain ⟨span, lits, chars_eq, parsed⟩ := parse_escape text
  have some_lits : lits ≠ [] := by
    rintro rfl
    exact nonempty (String.toList_eq_nil_iff.mp chars_eq.symm)
  have means := meaning_ofSequence span some_lits
  rw [chars_eq, ← Bytes.ofText] at means
  simp only [Regex.compile, parsed, means, groupNames_ofSequence]
  rfl

end Emend.Pattern
