/-
# The tokens of documents in one line

Between the tokens of a document in one line the scanner keeps to few states: all candidates for
keys can be given up, and none of them stands among the tokens that have been handed over.  From one
such state to the next it finds the tokens that the document should have.
-/

import Emend.Proofs.Traversal
import Emend.Proofs.Yaml.Flow.Characters

namespace Emend.Yaml

/-! ## Getting to a token -/

/-- The signs with which the tokens of a document in one line begin. -/
def isFlowSign (c : Char) : Bool := c ∈ ['[', ']', '\x7b', '\x7d', ',', ':', '"']

/-- At most one space stands before what is left, and that begins with a sign of a token, if it is
not empty. -/
structure LeadsTo (chars rest : List Char) : Prop where
  blanks : chars = rest ∨ chars = ' ' :: rest
  sign : ∀ c others, rest = c :: others → isFlowSign c = true

theorem ne_of_isFlowSign {c d : Char} (sign : isFlowSign c = true) (other : isFlowSign d = false) :
    c ≠ d := by
  rintro rfl
  rw [sign] at other
  cases other

theorem isBreak_of_isFlowSign {c : Char} (sign : isFlowSign c = true) : isBreak c = false := by
  simp [isBreak, ne_of_isFlowSign sign (d := '\n') rfl, ne_of_isFlowSign sign (d := '\r') rfl,
    ne_of_isFlowSign sign (d := '\u0085') rfl, ne_of_isFlowSign sign (d := '\u2028') rfl,
    ne_of_isFlowSign sign (d := '\u2029') rfl]

namespace LeadsTo

variable {chars rest : List Char}

/-- What is left does not begin with a character that may stand between tokens. -/
theorem headD_spec (leads : LeadsTo chars rest) :
    rest.headD endChar ≠ ' ' ∧ rest.headD endChar ≠ '\t' ∧ rest.headD endChar ≠ '#' ∧
      rest.headD endChar ≠ '\ufeff' ∧ isBreak (rest.headD endChar) = false := by
  cases rest with
  | nil => decide
  | cons c others =>
    have sign := leads.sign c others rfl
    exact ⟨ne_of_isFlowSign sign rfl, ne_of_isFlowSign sign rfl, ne_of_isFlowSign sign rfl,
      ne_of_isFlowSign sign rfl, isBreak_of_isFlowSign sign⟩

theorem dropWhile_eq (leads : LeadsTo chars rest) (tabs : Bool) :
    chars.dropWhile (fun c => c = ' ' || (c = '\t' && tabs)) = rest := by
  obtain ⟨noSpace, noTab, -⟩ := leads.headD_spec
  have stops : rest.dropWhile (fun c => c = ' ' || (c = '\t' && tabs)) = rest := by
    cases rest with
    | nil => rfl
    | cons c others =>
      simp only [List.headD_cons] at noSpace noTab
      simp [noSpace, noTab]
  rcases leads.blanks with rfl | rfl
  · exact stops
  · simpa using stops

end LeadsTo

namespace Cursor

variable {cursor : Cursor} {rest : List Char}

theorem need_of_uncut (uncut : cursor.cut? = none) (count : Nat) : cursor.need count = .ok () := by
  rw [need, uncut]
  rfl

theorem skipWhile_of_uncut (uncut : cursor.cut? = none) (isKind : Char → Bool) :
    cursor.skipWhile isKind = .ok { cursor with
      rest := cursor.rest.dropWhile isKind
      mark := cursor.mark.nextAll (cursor.rest.takeWhile isKind) } := by
  obtain ⟨rest, mark, cut?⟩ := cursor
  obtain rfl : cut? = none := uncut
  rfl

/-- The space before a token is passed over. -/
theorem exists_toToken {bound : List Char} (uncut : cursor.cut? = none)
    (leads : LeadsTo cursor.rest rest) (keyAllowed inFlow : Bool) (some_bound : bound ≠ []) :
    ∃ mark, cursor.toToken keyAllowed inFlow false bound =
      .ok (false, { rest, mark, cut? := none }) ∧ (cursor.rest = rest → mark = cursor.mark) := by
  obtain ⟨chars, mark, cut?⟩ := cursor
  obtain rfl : cut? = none := uncut
  obtain ⟨-, -, noComment, noMark, noBreak⟩ := leads.headD_spec
  have unmarked : chars.headD endChar ≠ '\ufeff' := by
    rcases leads.blanks with same | same
    · rw [show chars = rest from same]
      exact noMark
    · rw [show chars = ' ' :: rest from same]
      exact (by decide : ' ' ≠ '\ufeff')
  cases bound with
  | nil => exact absurd rfl some_bound
  | cons _ bound =>
    let isWhite (c : Char) : Bool := c = ' ' || (c = '\t' && (inFlow || !keyAllowed))
    refine ⟨mark.nextAll (chars.takeWhile isWhite), ?_, ?_⟩
    · rw [toToken]
      simp only [need_of_uncut, char, unmarked, decide_false, Bool.and_false, Bool.false_eq_true,
        ↓reduceIte, skipWhile_of_uncut, leads.dropWhile_eq, skipComment, noComment, noBreak,
        ok_bind]
      rfl
    · rintro rfl
      have nothing : chars.takeWhile isWhite = [] := by
        have whole := List.takeWhile_append_dropWhile (p := isWhite) (l := chars)
        rwa [leads.dropWhile_eq, List.append_left_eq_self] at whole
      rw [nothing]
      rfl

end Cursor

/-! ## States between tokens -/

namespace Scanner

/-- What is known of a scanner between two tokens of a document in one line: it has `chars` before
it and has found tokens of the kinds `found`, of which those of `done`, which are in reverse, have
been handed over. -/
structure Stands (s : Scanner) (done : List Token) (chars : List Char) (found : List TokenKind)
    (depth : Nat) : Prop where
  started : s.started = true
  uncut : s.cursor.cut? = none
  rest_eq : s.cursor.rest = chars
  handed_eq : s.handed = done.length
  found_eq : (done.reverse ++ s.held).map Token.kind = found
  unended : TokenKind.streamEnd ∉ found
  depth_eq : s.outerCandidates.length = depth
  outside : s.indent = -1 ∧ s.outerIndents = []
  /-- Any candidate can be given up, and its token is still held back. -/
  loose : ∀ candidate, some candidate ∈ s.candidate :: s.outerCandidates →
    candidate.required = false ∧ s.handed ≤ candidate.number

/-- What may come next. -/
inductive Phase where
  /-- An item or a key. -/
  | entry
  /-- The colon after a key, whose token has a number. -/
  | colon (number : Nat)
  /-- A value, or what stands between items or after the last. -/
  | elsewhere

/-- The candidate and where keys are allowed, as far as they matter to what may come next. -/
def Phase.Holds : Phase → Scanner → Prop
  | .entry, s => s.keyAllowed = true
  | .colon number, s => ∃ candidate, s.candidate = some candidate ∧ candidate.number = number ∧
    s.isStale candidate = false
  | .elsewhere, _ => True

variable {s : Scanner} {done : List Token} {chars rest : List Char} {found : List TokenKind}
  {depth : Nat} {phase : Phase}

theorem inFlow_eq (stands : s.Stands done chars found (depth + 1)) : s.inFlow = true := by
  have := stands.depth_eq
  cases outer_eq : s.outerCandidates with
  | nil => simp [outer_eq] at this
  | cons outer others => simp [inFlow, outer_eq]

/-- There are no block collections to be closed. -/
theorem Stands.closeBlocks_eq (stands : s.Stands done chars found depth) (column : Int) :
    s.closeBlocks column = s := by
  rw [closeBlocks, stands.outside.2]
  split <;> rfl

/-! ### Candidates that are too far back -/

/-- What is left of a candidate. -/
def kept (s : Scanner) : Option Candidate → Option Candidate
  | some candidate => if s.isStale candidate then none else some candidate
  | none => none

theorem eq_some_of_kept {candidate? : Option Candidate} {candidate : Candidate}
    (kept_eq : s.kept candidate? = some candidate) : candidate? = some candidate := by
  cases candidate? with
  | none => cases kept_eq
  | some other =>
    cases stale : s.isStale other with
    | true => simp [Scanner.kept, stale] at kept_eq
    | false => simpa [Scanner.kept, stale] using kept_eq

theorem dropStale_eq (stands : s.Stands done chars found depth) :
    s.dropStale = .ok { s with
      candidate := s.kept s.candidate, outerCandidates := s.outerCandidates.map s.kept } := by
  have refresh_eq : ∀ candidate? ∈ s.candidate :: s.outerCandidates,
      s.refresh candidate? = .ok (s.kept candidate?) := by
    intro candidate? member
    cases candidate? with
    | none => rfl
    | some candidate =>
      have optional := (stands.loose candidate member).1
      simp only [refresh, Scanner.kept, optional, Bool.false_eq_true, ↓reduceIte]
      split <;> rfl
  obtain ⟨innermost, outer⟩ := List.forall_mem_cons.mp refresh_eq
  have outer_eq : s.outerCandidates.reverse.mapM s.refresh =
      .ok (s.outerCandidates.reverse.map s.kept) := by
    rw [Traversal.mapM_congr fun candidate? member => outer candidate? (List.mem_reverse.mp member)]
    exact List.mapM_pure
  rw [dropStale, outer_eq, ok_bind, innermost, ok_bind, ← List.map_reverse, List.reverse_reverse]
  rfl

theorem Stands.exists_dropStale (stands : s.Stands done chars found depth)
    (holds : phase.Holds s) :
    ∃ s', s.dropStale = .ok s' ∧ s'.Stands done chars found depth ∧ phase.Holds s' := by
  refine ⟨_, dropStale_eq stands, ?_, ?_⟩
  · refine { stands with depth_eq := by simpa using stands.depth_eq, loose := ?_ }
    intro candidate member
    change some candidate ∈ s.kept s.candidate :: s.outerCandidates.map s.kept at member
    apply stands.loose candidate
    rw [← List.map_cons, List.mem_map] at member
    obtain ⟨candidate?, member, kept_eq⟩ := member
    rwa [eq_some_of_kept kept_eq] at member
  · cases phase with
    | entry => exact holds
    | colon number =>
      obtain ⟨candidate, candidate_eq, number_eq, fresh⟩ := holds
      exact ⟨candidate, by simp [Scanner.kept, candidate_eq, fresh], number_eq, fresh⟩
    | elsewhere => trivial

/-! ### Handing tokens over -/

theorem exists_release (held : List Token) :
    ∀ (s : Scanner) (done : List Token), s.handed = done.length →
      (∀ candidate, some candidate ∈ s.candidate :: s.outerCandidates →
        s.handed ≤ candidate.number) →
      ∃ more rest, s.release done held =
          ({ s with handed := s.handed + more.length, held := rest }, more.reverse ++ done) ∧
        held = more ++ rest ∧
        ∀ candidate, some candidate ∈ s.candidate :: s.outerCandidates →
          s.handed + more.length ≤ candidate.number := by
  induction held with
  | nil =>
    intro s done handed_eq later
    exact ⟨[], [], rfl, rfl, later⟩
  | cons token held ih =>
    intro s done handed_eq later
    cases blocked : s.isBlocked with
    | true => exact ⟨[], token :: held, by simp [release, blocked], rfl, later⟩
    | false =>
      have beyond : ∀ candidate, some candidate ∈ s.candidate :: s.outerCandidates →
          s.handed + 1 ≤ candidate.number := by
        intro candidate member
        have different : candidate.number ≠ s.handed := by
          have := List.any_eq_false.mp blocked (some candidate) member
          simpa using this
        have := later candidate member
        omega
      obtain ⟨more, rest, released, rfl, after⟩ :=
        ih { s with handed := s.handed + 1 } (token :: done) (by simp [handed_eq]) beyond
      refine ⟨token :: more, rest, ?_, rfl, ?_⟩
      · rw [release, blocked, released]
        simp [Nat.add_comm, Nat.add_left_comm]
      · intro candidate member
        have := after candidate member
        simp only [List.length_cons] at this ⊢
        omega

/-- A round that finds a token ends with the tokens handed over that nothing holds back. -/
theorem Stands.exists_scanFrom {before : Scanner} (fetched : before.fetch = .ok s)
    (stands : s.Stands done chars found depth) (holds : phase.Holds s) (fuel : Nat) :
    ∃ s' done', before.scanFrom done (fuel + 1) = s'.scanFrom done' fuel ∧
      s'.Stands done' chars found depth ∧ phase.Holds s' := by
  obtain ⟨s, dropped, stands, holds⟩ := stands.exists_dropStale holds
  obtain ⟨started, uncut, rest_eq, handed_eq, found_eq, unended, depth_eq, outside, loose⟩ := stands
  obtain ⟨more, rest, released, held_eq, later⟩ := exists_release s.held s done handed_eq
    fun candidate member => (loose candidate member).2
  have handedOver : (more.reverse ++ done).reverse ++ rest = done.reverse ++ s.held := by
    simp [held_eq]
  have goesOn :
      ((more.reverse ++ done).head?.any fun token => token.kind = .streamEnd) = false := by
    cases head_eq : (more.reverse ++ done).head? with
    | none => rfl
    | some token =>
      have member : token ∈ (more.reverse ++ done).reverse ++ rest :=
        List.mem_append_left _ (List.mem_reverse.mpr (List.mem_of_head? head_eq))
      have different : token.kind ≠ .streamEnd := by
        intro same
        apply unended
        rw [← found_eq, ← handedOver, ← same]
        exact List.mem_map_of_mem member
      simpa using different
  refine ⟨{ s with handed := s.handed + more.length, held := rest }, more.reverse ++ done,
    ?_, ?_, ?_⟩
  · rw [scanFrom]
    simp only [fetched, dropped, released, goesOn, Bool.false_eq_true, ↓reduceIte]
  · refine ⟨started, uncut, rest_eq, ?_, ?_, unended, depth_eq, outside, ?_⟩
    · simp [handed_eq, Nat.add_comm]
    · rw [handedOver, found_eq]
    · exact fun candidate member => ⟨(loose candidate member).1, later candidate member⟩
  · cases phase <;> exact holds

/-! ### Finding a token -/

/-- Before a token is found the space before it is passed over. -/
theorem Stands.exists_fetch (stands : s.Stands done chars found depth) (holds : phase.Holds s)
    (leads : LeadsTo chars rest) (still : ∀ number, phase = .colon number → chars = rest) :
    ∃ s', s.fetch = s'.fetchHere ∧ s'.Stands done rest found depth ∧ phase.Holds s' := by
  have uncut := stands.uncut
  rw [← stands.rest_eq] at leads still
  obtain ⟨mark, toToken_eq, mark_eq⟩ :=
    Cursor.exists_toToken uncut leads s.keyAllowed s.inFlow (List.cons_ne_nil endChar s.cursor.rest)
  let arrived : Scanner := { s with started := true, cursor := { rest, mark, cut? := none } }
  have arrived_stands : arrived.Stands done rest found depth :=
    { stands with started := rfl, uncut := rfl, rest_eq := rfl }
  have arrived_holds : phase.Holds arrived := by
    cases phase with
    | colon number =>
      obtain ⟨candidate, candidate_eq, number_eq, fresh⟩ := holds
      have same : arrived.mark = s.mark := mark_eq (still number rfl)
      exact ⟨candidate, candidate_eq, number_eq, by rw [isStale, same, ← isStale, fresh]⟩
    | _ => exact holds
  obtain ⟨s', dropped, stands', holds'⟩ := arrived_stands.exists_dropStale arrived_holds
  have keyAllowed_eq : (s.keyAllowed || (false && !s.inFlow)) = s.keyAllowed := by simp
  refine ⟨s', ?_, stands', holds'⟩
  rw [fetch, Cursor.need_of_uncut uncut, ok_bind, stands.started]
  simp only [Bool.not_true, Bool.false_eq_true, ↓reduceIte, toToken_eq, ok_bind, keyAllowed_eq]
  rw [show Scanner.dropStale _ = _ from dropped, ok_bind, stands'.closeBlocks_eq,
    Cursor.need_of_uncut stands'.uncut, ok_bind]

/-! ### One token after the other -/

theorem Stands.char_eq {c : Char} (stands : s.Stands done (c :: rest) found depth) :
    s.cursor.char = c := by
  rw [Cursor.char, stands.rest_eq]
  rfl

/-- What a sign lets a scanner find inside a document in one line. -/
def fetchSign (s : Scanner) (c : Char) : Except Fault Scanner :=
  match c with
  | '[' => s.fetchOpening .flowSequenceStart
  | '\x7b' => s.fetchOpening .flowMappingStart
  | ']' => s.fetchClosing .flowSequenceEnd
  | '\x7d' => s.fetchClosing .flowMappingEnd
  | ',' => s.fetchFlowEntry
  | ':' => s.fetchValue
  | _ => s.fetchQuoted .doubleQuoted

/-- A sign decides alone which token is found, save that a colon needs brackets around it. -/
theorem Stands.fetchHere_eq {c : Char} (stands : s.Stands done (c :: rest) found depth)
    (sign : isFlowSign c = true) (inside : c ≠ ':' ∨ s.inFlow = true) :
    s.fetchHere = s.fetchSign c := by
  simp only [isFlowSign, List.mem_cons, List.not_mem_nil, or_false, decide_eq_true_eq] at sign
  have char_eq := stands.char_eq
  have rest_eq := stands.rest_eq
  by_cases colon : c = ':'
  · subst colon
    have inFlow : s.inFlow = true := inside.resolve_left fun different => different rfl
    simp [fetchHere, fetchSign, char_eq, rest_eq, startsDocumentIndicator_eq_false, inFlow]
  · rcases sign with rfl | rfl | rfl | rfl | rfl | rfl | rfl <;>
      simp [fetchHere, fetchSign, char_eq, rest_eq, startsDocumentIndicator_eq_false] at colon ⊢

/-- Candidates may change, as long as they can be given up. -/
theorem Stands.update (stands : s.Stands done chars found depth) (candidate? : Option Candidate)
    (outer : List (Option Candidate)) (keyAllowed : Bool)
    (loose : ∀ candidate, some candidate ∈ candidate? :: outer →
      candidate.required = false ∧ s.handed ≤ candidate.number) :
    { s with candidate := candidate?, outerCandidates := outer, keyAllowed }.Stands done chars found
      outer.length where
  started := stands.started
  uncut := stands.uncut
  rest_eq := stands.rest_eq
  handed_eq := stands.handed_eq
  found_eq := stands.found_eq
  unended := stands.unended
  depth_eq := rfl
  outside := stands.outside
  loose := loose

theorem Stands.setCandidate (stands : s.Stands done chars found depth)
    {candidate? : Option Candidate}
    (loose : ∀ candidate, candidate? = some candidate →
      candidate.required = false ∧ s.handed ≤ candidate.number) (keyAllowed : Bool) :
    { s with candidate := candidate?, keyAllowed }.Stands done chars found depth := by
  have updated := stands.update candidate? s.outerCandidates keyAllowed fun candidate member => by
    rcases List.mem_cons.mp member with candidate_eq | member
    · exact loose candidate candidate_eq.symm
    · exact stands.loose candidate (List.mem_cons_of_mem _ member)
  rwa [stands.depth_eq] at updated

theorem Stands.forgetCandidate (stands : s.Stands done chars found depth) (keyAllowed : Bool) :
    { s with candidate := none, keyAllowed }.Stands done chars found depth :=
  stands.setCandidate (fun _ isNone => by cases isNone) keyAllowed

/-- A token is found and the cursor moves on. -/
theorem Stands.push (stands : s.Stands done chars found depth) (token : Token)
    (notLast : token.kind ≠ .streamEnd) (cursor : Cursor) (uncut : cursor.cut? = none)
    (keyAllowed : Bool) :
    { s.push token with cursor, keyAllowed }.Stands done cursor.rest (found ++ [token.kind])
      depth where
  started := stands.started
  uncut := uncut
  rest_eq := rfl
  handed_eq := stands.handed_eq
  found_eq := by
    rw [← stands.found_eq]
    simp [Scanner.push]
  unended := by
    rw [List.mem_append, not_or]
    exact ⟨stands.unended, by simpa using notLast.symm⟩
  depth_eq := stands.depth_eq
  outside := stands.outside
  loose := stands.loose

/-- A token of one character is found. -/
theorem Stands.pushSkipping {c : Char} (stands : s.Stands done (c :: rest) found depth)
    {kind : TokenKind} (notLast : kind ≠ .streamEnd) :
    (s.pushSkipping kind 1).Stands done rest (found ++ [kind]) depth := by
  have pushed := stands.push { kind, start := s.mark, stop := s.cursor.skip.mark } notLast
    s.cursor.skip stands.uncut s.keyAllowed
  have rest_eq : s.cursor.skip.rest = rest := by
    rw [Cursor.skip, stands.rest_eq]
    rfl
  rw [rest_eq] at pushed
  exact pushed

theorem Stands.dropCandidate_eq (stands : s.Stands done chars found depth) :
    s.dropCandidate = .ok { s with candidate := none } := by
  unfold dropCandidate
  split
  · rename_i candidate candidate_eq
    have optional := (stands.loose candidate (by simp [candidate_eq])).1
    simp [optional]
  · rename_i none_eq
    rw [← none_eq]

/-- The candidate that the next token is. -/
def candidateHere (s : Scanner) : Candidate where
  required := false
  number := s.handed + s.held.length
  mark := s.mark

theorem candidateHere_loose (s : Scanner) (candidate : Candidate)
    (here : some s.candidateHere = some candidate) :
    candidate.required = false ∧ s.handed ≤ candidate.number := by
  cases here
  exact ⟨rfl, Nat.le_add_right _ _⟩

theorem Stands.addCandidate_of_allowed (stands : s.Stands done chars found depth)
    (allowed : s.keyAllowed = true) :
    s.addCandidate = .ok { s with candidate := some s.candidateHere } := by
  have optional : (!s.inFlow && s.indent = s.mark.column) = false := by
    rw [stands.outside.1]
    simp
  rw [addCandidate, if_pos allowed, optional, stands.dropCandidate_eq, ok_bind]
  rfl

theorem Stands.exists_addCandidate (stands : s.Stands done chars found depth) :
    ∃ candidate?, s.addCandidate = .ok { s with candidate := candidate? } ∧
      ∀ candidate, candidate? = some candidate →
        candidate.required = false ∧ s.handed ≤ candidate.number := by
  by_cases allowed : s.keyAllowed = true
  · exact ⟨_, stands.addCandidate_of_allowed allowed, s.candidateHere_loose⟩
  · refine ⟨s.candidate, by rw [addCandidate, if_neg allowed], ?_⟩
    intro candidate candidate_eq
    exact stands.loose candidate (by simp [candidate_eq])

/-- A bracket or brace opens a level at which items or keys may start. -/
theorem Stands.exists_fetchOpening {c : Char} (stands : s.Stands done (c :: rest) found depth)
    {kind : TokenKind} (notLast : kind ≠ .streamEnd) :
    ∃ s', s.fetchOpening kind = .ok s' ∧ s'.Stands done rest (found ++ [kind]) (depth + 1) ∧
      Phase.entry.Holds s' := by
  obtain ⟨candidate?, added, loose⟩ := stands.exists_addCandidate
  have opened := stands.update none (candidate? :: s.outerCandidates) true (by
    intro candidate member
    rcases List.mem_cons.mp member with isNone | member
    · cases isNone
    · rcases List.mem_cons.mp member with candidate_eq | member
      · exact loose candidate candidate_eq.symm
      · exact stands.loose candidate (List.mem_cons_of_mem _ member))
  rw [List.length_cons, stands.depth_eq] at opened
  refine ⟨_, ?_, opened.pushSkipping notLast, rfl⟩
  rw [fetchOpening, added, ok_bind]
  rfl

/-- A closing bracket or brace leads back to the level around. -/
theorem Stands.exists_fetchClosing {c : Char}
    (stands : s.Stands done (c :: rest) found (depth + 1)) {kind : TokenKind}
    (notLast : kind ≠ .streamEnd) :
    ∃ s', s.fetchClosing kind = .ok s' ∧ s'.Stands done rest (found ++ [kind]) depth := by
  obtain ⟨outer, others, outer_eq⟩ := List.exists_cons_of_length_eq_add_one stands.depth_eq
  have closed := stands.update outer others false fun candidate member =>
    stands.loose candidate (List.mem_cons_of_mem _ (outer_eq ▸ member))
  have depth_eq := stands.depth_eq
  rw [outer_eq, List.length_cons, Nat.add_right_cancel_iff] at depth_eq
  rw [depth_eq] at closed
  refine ⟨_, ?_, closed.pushSkipping notLast⟩
  rw [fetchClosing, stands.dropCandidate_eq, ok_bind]
  simp only [outer_eq]
  rfl

/-- After a comma an item or a key may start. -/
theorem Stands.exists_fetchFlowEntry {c : Char} (stands : s.Stands done (c :: rest) found depth) :
    ∃ s', s.fetchFlowEntry = .ok s' ∧ s'.Stands done rest (found ++ [.flowEntry]) depth ∧
      Phase.entry.Holds s' := by
  refine ⟨_, ?_, (stands.forgetCandidate true).pushSkipping TokenKind.noConfusion, rfl⟩
  rw [fetchFlowEntry, stands.dropCandidate_eq, ok_bind]
  rfl

/-! ### Texts and keys -/

/-- A text between quotes is found. -/
theorem Stands.exists_fetchQuoted {capital : Bool} {said : List Char}
    (stands : s.Stands done ('"' :: (said.flatMap (escaped capital) ++ '"' :: rest)) found depth) :
    ∃ s', s.fetchQuoted .doubleQuoted = .ok s' ∧
      s'.Stands done rest (found ++ [.scalar said .doubleQuoted]) depth := by
  obtain ⟨candidate?, added, loose⟩ := stands.exists_addCandidate
  obtain ⟨stop, text_eq⟩ :=
    exists_quotedFrom_text capital said s.mark (s.cursor.mark.next '"') [] rest
  have added_stands := stands.setCandidate loose s.keyAllowed
  have quoted_eq : s.cursor.quoted =
      .ok { text := said, stop, cursor := { rest, mark := stop } } := by
    rw [Cursor.quoted, Cursor.skip, stands.char_eq, stands.uncut, stands.rest_eq]
    exact text_eq
  refine ⟨_, ?_, added_stands.push { kind := .scalar said .doubleQuoted, start := s.mark, stop }
    TokenKind.noConfusion { rest, mark := stop } rfl false⟩
  rw [fetchQuoted, added, ok_bind]
  simp only [quoted_eq, ok_bind]
  rfl

theorem nextAll_of_isPrintable (run : List Char) (printable : ∀ c ∈ run, IsPrintable c)
    (mark : Mark) :
    (mark.nextAll run).line = mark.line ∧ (mark.nextAll run).index = mark.index + run.length := by
  induction run generalizing mark with
  | nil => exact ⟨rfl, rfl⟩
  | cons c run ih =>
    obtain ⟨first, others⟩ := List.forall_mem_cons.mp printable
    obtain ⟨line_eq, index_eq⟩ := ih others (mark.next c)
    have size : c.utf8Size = 1 := by
      have low : c.val ≤ 127 := Nat.le_trans first.2 (by decide : 0x7E ≤ 127)
      simp [Char.utf8Size, low]
    refine ⟨line_eq, ?_⟩
    rw [Mark.nextAll, List.foldl_cons, ← Mark.nextAll, index_eq, Mark.next, size, List.length_cons]
    simp only
    omega

/-- A key between quotes is found, and its token may be a key until the colon comes. -/
theorem Stands.exists_fetchQuoted_key {key : Flow.Key}
    (stands : s.Stands done ('"' :: (key.word ++ '"' :: rest)) found depth)
    (holds : Phase.entry.Holds s) :
    ∃ s', s.fetchQuoted .doubleQuoted = .ok s' ∧
      s'.Stands done rest (found ++ [.scalar key.word .doubleQuoted]) depth ∧
      (Phase.colon found.length).Holds s' := by
  let stop := (s.cursor.mark.next '"').nextAll (key.word ++ ['"'])
  have letters : ∀ c ∈ key.word, c.isAlpha = true := List.all_eq_true.mp key.isWord
  have quoted_eq : s.cursor.quoted =
      .ok { text := key.word, stop, cursor := { rest, mark := stop } } := by
    rw [Cursor.quoted, Cursor.skip, stands.char_eq, stands.uncut, stands.rest_eq]
    exact quotedFrom_word letters s.mark (s.cursor.mark.next '"') [] rest
  have added_stands := stands.setCandidate s.candidateHere_loose s.keyAllowed
  refine ⟨_, ?_, added_stands.push { kind := .scalar key.word .doubleQuoted, start := s.mark, stop }
    TokenKind.noConfusion { rest, mark := stop } rfl false, s.candidateHere, rfl, ?_, ?_⟩
  · rw [fetchQuoted, stands.addCandidate_of_allowed holds, ok_bind]
    simp only [quoted_eq, ok_bind]
    rfl
  · simp [candidateHere, ← stands.found_eq, stands.handed_eq]
  · obtain ⟨line_eq, index_eq⟩ := nextAll_of_isPrintable ('"' :: (key.word ++ ['"'])) (by
      simp only [List.forall_mem_cons, List.forall_mem_append]
      exact ⟨by decide, key.isPrintable, by decide, List.forall_mem_nil _⟩) s.cursor.mark
    have short := key.isShort
    have reached : (s.cursor.mark.nextAll ('"' :: (key.word ++ ['"']))) = stop := rfl
    rw [reached] at line_eq index_eq
    simp [isStale, candidateHere, Scanner.mark, line_eq, index_eq, keyLimit]
    omega

/-- A token is inserted before one that is held back. -/
theorem Stands.insert (stands : s.Stands done chars found depth) {number : Nat}
    (back : s.handed ≤ number) (token : Token) (notLast : token.kind ≠ .streamEnd) :
    (s.insert number token).Stands done chars (found.take number ++ token.kind :: found.drop number)
      depth where
  started := stands.started
  uncut := stands.uncut
  rest_eq := stands.rest_eq
  handed_eq := stands.handed_eq
  found_eq := by
    have back : done.reverse.length ≤ number := by
      rw [List.length_reverse, ← stands.handed_eq]
      exact back
    rw [← stands.found_eq, ← List.map_take, ← List.map_drop, List.take_append, List.drop_append,
      List.take_of_length_le back, List.drop_of_length_le back]
    simp [Scanner.insert, stands.handed_eq]
  unended := by
    have unended : .streamEnd ∉ found.take number ++ found.drop number := by
      rw [List.take_append_drop]
      exact stands.unended
    simp only [List.mem_append, List.mem_cons, not_or] at unended ⊢
    exact ⟨unended.1, notLast.symm, unended.2⟩
  depth_eq := stands.depth_eq
  outside := stands.outside
  loose := stands.loose

/-- The colon shows that the token before it is a key. -/
theorem Stands.exists_fetchValue {scalar : TokenKind}
    (stands : s.Stands done (':' :: rest) (found ++ [scalar]) (depth + 1))
    (holds : (Phase.colon found.length).Holds s) :
    ∃ s', s.fetchValue = .ok s' ∧
      s'.Stands done rest (found ++ [.key, scalar, .value]) (depth + 1) := by
  obtain ⟨candidate, candidate_eq, number_eq, -⟩ := holds
  have back := (stands.loose candidate (by simp [candidate_eq])).2
  rw [number_eq] at back
  let token : Token := { kind := .key, start := candidate.mark, stop := candidate.mark }
  have inserted := stands.insert back token TokenKind.noConfusion
  rw [List.take_left, List.drop_left] at inserted
  have noBlock : (s.insert found.length token).openBlock candidate.mark.column
      (some found.length) .blockMappingStart candidate.mark = s.insert found.length token := by
    rw [openBlock, inFlow_eq inserted]
    rfl
  have found_eq : found ++ [.key, scalar, .value] = (found ++ .key :: [scalar]) ++ [.value] := by
    simp
  rw [found_eq]
  refine ⟨_, ?_, (inserted.forgetCandidate false).pushSkipping TokenKind.noConfusion⟩
  rw [fetchValue, candidate_eq]
  simp only [number_eq]
  rw [noBlock]
  rfl

/-! ### The end -/

/-- Nothing is held back where there are no candidates. -/
theorem release_of_free (held : List Token) :
    ∀ (s : Scanner) (done : List Token), s.candidate = none → s.outerCandidates = [] →
      (s.release done held).2 = held.reverse ++ done := by
  induction held with
  | nil =>
    intro s done _ _
    rfl
  | cons token held ih =>
    intro s done none_eq outer_eq
    have free : s.isBlocked = false := by simp [isBlocked, none_eq, outer_eq]
    rw [release, free]
    simpa using ih { s with handed := s.handed + 1 } (token :: done) none_eq outer_eq

/-- At the end there is the last token. -/
theorem Stands.scanFrom_of_end (stands : s.Stands done [] found 0) (fuel : Nat) :
    ∃ tokens, s.scanFrom done (fuel + 1) = (tokens, none) ∧
      tokens.map Token.kind = found ++ [.streamEnd] := by
  have nothing : LeadsTo [] [] := ⟨.inl rfl, fun _ _ isCons => by cases isCons⟩
  have elsewhere : Phase.elsewhere.Holds s := trivial
  obtain ⟨s, fetched, stands, -⟩ :=
    stands.exists_fetch elsewhere nothing fun _ isColon => by cases isColon
  have outer_eq : s.outerCandidates = [] := List.length_eq_zero_iff.mp stands.depth_eq
  let mark : Mark :=
    if s.mark.column ≠ 0 then { s.mark with line := s.mark.line + 1, column := 0 } else s.mark
  let token : Token := { kind := .streamEnd, start := mark, stop := mark }
  have moved : { s with cursor := { s.cursor with mark } }.Stands done [] found 0 :=
    { stands with }
  let ended : Scanner := { s with
    cursor := { s.cursor with mark }, candidate := none, keyAllowed := false
    held := s.held ++ [token] }
  have fetchEnd_eq : s.fetchEnd = .ok ended := by
    rw [fetchEnd]
    simp only
    rw [moved.closeBlocks_eq, moved.dropCandidate_eq]
    rfl
  have dropStale_eq : ended.dropStale = .ok ended := by
    have unchanged : { ended with outerCandidates := [] } = ended := by rw [← outer_eq]
    rw [← unchanged]
    rfl
  have released : (ended.release done ended.held).2 = token :: (s.held.reverse ++ done) := by
    rw [release_of_free ended.held ended done rfl outer_eq]
    simp [ended]
  refine ⟨(token :: (s.held.reverse ++ done)).reverse, ?_, ?_⟩
  · have here : s.fetchHere = s.fetchEnd := by simp [fetchHere, stands.rest_eq]
    rw [scanFrom, fetched, here, fetchEnd_eq]
    simp only [dropStale_eq, released]
    rfl
  · rw [← stands.found_eq]
    simp [token]

end Scanner

end Emend.Yaml
