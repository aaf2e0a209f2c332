/-
# The events of a document in one line

From the tokens of a document in one line the reader makes the events that the document should have.
What is expected around a node stays as it is until the node has been read, so that the induction
can go on with it afterwards.
-/

import Emend.Proofs.Traversal
import Emend.Proofs.Yaml.Flow.Written

namespace Emend.Yaml

/-- Whether a node of a document in one line may begin with a token. -/
def TokenKind.beginsFlow : TokenKind → Bool
  | .scalar _ .doubleQuoted | .flowSequenceStart | .flowMappingStart => true
  | _ => false

theorem Flow.exists_tokens_eq_cons (flow : Flow) :
    ∃ kind others, flow.tokens = kind :: others ∧ kind.beginsFlow = true := by
  cases flow with
  | text said => exact ⟨_, _, rfl, rfl⟩
  | sequence items => exact ⟨_, _, rfl, rfl⟩
  | mapping entries => exact ⟨_, _, rfl, rfl⟩

/-- Whether an event belongs to the content of a document. -/
def EventKind.isContent : EventKind → Bool
  | .documentStart | .documentEnd | .streamEnd => false
  | _ => true

theorem EventList.readFrom_of_isContent {r after : Reader} {event : Event}
    (next_eq : r.next = .ok (event, after)) (content : event.kind.isContent = true)
    (done : List Event) (fuel : Nat) :
    readFrom r done (fuel + 1) = readFrom after (event :: done) fuel := by
  rw [readFrom, next_eq]
  cases kind_eq : event.kind <;> simp_all [EventKind.isContent]

namespace Reader

variable {r : Reader} {kind : TokenKind} {kinds rest : List TokenKind} {result : EventList}
  {expectation : Expectation} {expected expected' : List Expectation} {found : List EventKind}
  {start : Mark}

/-! ## Tokens -/

theorem exists_token (tokens_eq : r.tokens.map Token.kind = kind :: kinds) :
    ∃ token, r.peek = .ok token ∧ token.kind = kind ∧ r.skip.tokens.map Token.kind = kinds := by
  obtain ⟨token, tokens, r_eq, kind_eq, kinds_eq⟩ := List.map_eq_cons_iff.mp tokens_eq
  refine ⟨token, ?_, kind_eq, ?_⟩
  · rw [peek, r_eq]
  · rw [skip, r_eq]
    exact kinds_eq

/-- Nothing stands before the first token of a node. -/
theorem properties_eq (tokens_eq : r.tokens.map Token.kind = kind :: kinds)
    (begins : kind.beginsFlow = true) : r.properties = .ok ({}, r) := by
  obtain ⟨token, peek_eq, rfl, -⟩ := exists_token tokens_eq
  have anchor_eq : r.anchor = .ok (none, r) := by
    rw [anchor, peek_eq, ok_bind]
    cases kind_eq : token.kind <;> simp_all [TokenKind.beginsFlow] <;> rfl
  have tag_eq : r.tag = .ok (none, r) := by
    rw [tag, peek_eq, ok_bind]
    cases kind_eq : token.kind <;> simp_all [TokenKind.beginsFlow] <;> rfl
  rw [properties, peek_eq, ok_bind, anchor_eq, ok_bind]
  simp only
  rw [tag_eq, ok_bind]
  rfl

/-! ## Places in a reading -/

/-- The reading with a result comes to a place before the given tokens. -/
def Arrives (result : EventList) (kinds : List TokenKind) (expected : List Expectation)
    (found : List EventKind) : Prop :=
  ∃ (r : Reader) (done : List Event) (fuel : Nat), EventList.readFrom r done fuel = result ∧
    r.tokens.map Token.kind = kinds ∧ r.expected = expected ∧
    done.reverse.map Event.kind = found ∧ kinds.length < fuel

/-- The reading with a result comes to a place where a node is read. -/
def ArrivesAtNode (result : EventList) (kinds : List TokenKind) (expected : List Expectation)
    (found : List EventKind) : Prop :=
  ∃ (before r : Reader) (inBlock : Bool) (done : List Event) (fuel : Nat),
    EventList.readFrom before done (fuel + 1) = result ∧ before.next = r.node inBlock false ∧
    r.tokens.map Token.kind = kinds ∧ r.expected = expected ∧
    done.reverse.map Event.kind = found ∧ kinds.length ≤ fuel

/-- What is expected first is taken up: an event that takes a token is found. -/
theorem Arrives.step {eventKind : EventKind}
    (arrives : Arrives result kinds (expectation :: expected) found)
    (content : eventKind.isContent = true) (shorter : rest.length < kinds.length)
    (finds : ∀ r : Reader, r.tokens.map Token.kind = kinds → r.expected = expected →
      ∃ event after, (r.expect expectation).next = .ok (event, after) ∧ event.kind = eventKind ∧
        after.tokens.map Token.kind = rest ∧ after.expected = expected') :
    Arrives result rest expected' (found ++ [eventKind]) := by
  obtain ⟨r, done, fuel, read_eq, tokens_eq, expected_eq, found_eq, enough⟩ := arrives
  have restored : { r with expected }.expect expectation = r := by rw [expect, ← expected_eq]
  obtain ⟨event, after, next_eq, rfl, rest_eq, after_eq⟩ := finds { r with expected } tokens_eq rfl
  rw [restored] at next_eq
  cases fuel with
  | zero => exact absurd enough (Nat.not_lt_zero _)
  | succ fuel =>
    rw [EventList.readFrom_of_isContent next_eq content] at read_eq
    refine ⟨after, event :: done, fuel, read_eq, rest_eq, after_eq, ?_, by omega⟩
    simp [← found_eq]

/-- What is expected first is taken up: a node is read. -/
theorem Arrives.atNode (arrives : Arrives result kinds (expectation :: expected) found)
    (shorter : rest.length ≤ kinds.length)
    (reads : ∀ r : Reader, r.tokens.map Token.kind = kinds → r.expected = expected →
      ∃ (after : Reader) (inBlock : Bool), (r.expect expectation).next = after.node inBlock false ∧
        after.tokens.map Token.kind = rest ∧ after.expected = expected') :
    ArrivesAtNode result rest expected' found := by
  obtain ⟨r, done, fuel, read_eq, tokens_eq, expected_eq, found_eq, enough⟩ := arrives
  have restored : { r with expected }.expect expectation = r := by rw [expect, ← expected_eq]
  obtain ⟨after, inBlock, next_eq, rest_eq, after_eq⟩ := reads { r with expected } tokens_eq rfl
  rw [restored] at next_eq
  cases fuel with
  | zero => exact absurd enough (Nat.not_lt_zero _)
  | succ fuel =>
    exact ⟨r, after, inBlock, done, fuel, read_eq, next_eq, rest_eq, after_eq, found_eq, by omega⟩

/-- The first token of a node makes an event, after which more may be expected. -/
theorem ArrivesAtNode.step {eventKind : EventKind} (more : Mark → List Expectation)
    (arrives : ArrivesAtNode result (kind :: rest) expected found)
    (begins : kind.beginsFlow = true) (content : eventKind.isContent = true)
    (reads : ∀ (r : Reader) (inBlock : Bool) (token : Token), r.peek = .ok token →
      token.kind = kind → r.properties = .ok ({}, r) →
      r.node inBlock false = .ok ({ kind := eventKind, mark := token.start },
        { r.skip with expected := more token.start ++ r.expected })) :
    ∃ start, Arrives result rest (more start ++ expected) (found ++ [eventKind]) := by
  obtain ⟨before, r, inBlock, done, fuel, read_eq, next_eq, tokens_eq, rfl, rfl, enough⟩ := arrives
  obtain ⟨token, peek_eq, kind_eq, rest_eq⟩ := exists_token tokens_eq
  have node_eq := reads r inBlock token peek_eq kind_eq (properties_eq tokens_eq begins)
  rw [EventList.readFrom_of_isContent (next_eq.trans node_eq) content] at read_eq
  exact ⟨token.start, _, _, fuel, read_eq, rest_eq, rfl, by simp, enough⟩

theorem ArrivesAtNode.text {said : List Char}
    (arrives : ArrivesAtNode result (.scalar said .doubleQuoted :: rest) expected found) :
    Arrives result rest expected (found ++ [.scalar {} said false]) := by
  have reads (r : Reader) (inBlock : Bool) (token : Token) (peek_eq : r.peek = .ok token)
      (kind_eq : token.kind = .scalar said .doubleQuoted)
      (properties_eq : r.properties = .ok ({}, r)) : r.node inBlock false =
        .ok ({ kind := .scalar {} said false, mark := token.start }, r.skip) := by
    simp [node, peek_eq, ok_bind, kind_eq, properties_eq]
    rfl
  obtain ⟨_, arrived⟩ := arrives.step (fun _ => []) rfl rfl reads
  exact arrived

theorem ArrivesAtNode.sequenceStart
    (arrives : ArrivesAtNode result (.flowSequenceStart :: rest) expected found) :
    ∃ start, Arrives result rest (.flowEntry start true :: expected)
      (found ++ [.sequenceStart {}]) := by
  refine arrives.step (fun start => [.flowEntry start true]) rfl rfl ?_
  intro r inBlock token peek_eq kind_eq properties_eq
  simp [node, peek_eq, ok_bind, kind_eq, properties_eq]
  rfl

theorem ArrivesAtNode.mappingStart
    (arrives : ArrivesAtNode result (.flowMappingStart :: rest) expected found) :
    ∃ start, Arrives result rest (.flowKey start true :: expected)
      (found ++ [.mappingStart {}]) := by
  refine arrives.step (fun start => [.flowKey start true]) rfl rfl ?_
  intro r inBlock token peek_eq kind_eq properties_eq
  simp [node, peek_eq, ok_bind, kind_eq, properties_eq]
  rfl

/-! ## Inside collections -/

/-- There is no comma before the end of a collection. -/
theorem comma_of_close (tokens_eq : r.tokens.map Token.kind = kind :: kinds) (isFirst : Bool)
    (problem : Problem) (activity : Activity) (start : Mark) :
    r.comma isFirst kind problem activity start = .ok r := by
  obtain ⟨token, peek_eq, rfl, -⟩ := exists_token tokens_eq
  rw [comma, peek_eq, ok_bind]
  simp only [decide_true, Bool.or_true, ↓reduceIte]
  rfl

/-- The comma before an item or an entry is passed over. -/
theorem exists_comma {isFirst : Bool} {close : TokenKind}
    (tokens_eq : r.tokens.map Token.kind = Flow.comma isFirst ++ kind :: kinds)
    (closes : close = .flowSequenceEnd ∨ close = .flowMappingEnd) (problem : Problem)
    (activity : Activity) (start : Mark) :
    ∃ after, r.comma isFirst close problem activity start = .ok after ∧
      after.tokens.map Token.kind = kind :: kinds ∧ after.expected = r.expected := by
  cases isFirst with
  | true =>
    obtain ⟨token, peek_eq, -, -⟩ := exists_token tokens_eq
    refine ⟨r, ?_, tokens_eq, rfl⟩
    rw [comma, peek_eq]
    rfl
  | false =>
    obtain ⟨token, peek_eq, kind_eq, rest_eq⟩ := exists_token tokens_eq
    refine ⟨r.skip, ?_, rest_eq, rfl⟩
    have notClose : .flowEntry ≠ close := by
      rcases closes with rfl | rfl <;> exact TokenKind.noConfusion
    simp [comma, peek_eq, ok_bind, kind_eq, notClose]
    rfl

theorem Arrives.item {isFirst : Bool} {item : Flow}
    (arrives : Arrives result (Flow.comma isFirst ++ (item.tokens ++ rest))
      (.flowEntry start isFirst :: expected) found) :
    ArrivesAtNode result (item.tokens ++ rest) (.flowEntry start false :: expected) found := by
  refine arrives.atNode (by simp) ?_
  rintro r tokens_eq rfl
  obtain ⟨kind, others, item_eq, begins⟩ := item.exists_tokens_eq_cons
  rw [item_eq] at tokens_eq ⊢
  obtain ⟨after, comma_eq, after_eq, after_expected⟩ :=
    exists_comma tokens_eq (.inl rfl) .expectedCommaOrBracket .parsingFlowSequence start
  obtain ⟨token, peek_eq, rfl, -⟩ := exists_token after_eq
  refine ⟨after.expect (.flowEntry start false), false, ?_, after_eq, ?_⟩
  · change r.flowEntry start isFirst = _
    rw [flowEntry, comma_eq, ok_bind, peek_eq, ok_bind]
    cases kind_eq : token.kind <;> simp_all [TokenKind.beginsFlow]
  · rw [expect, after_expected]

theorem Arrives.sequenceEnd {isFirst : Bool}
    (arrives : Arrives result (.flowSequenceEnd :: rest) (.flowEntry start isFirst :: expected)
      found) :
    Arrives result rest expected (found ++ [.sequenceEnd]) := by
  refine arrives.step rfl (Nat.lt_succ_self _) ?_
  rintro r tokens_eq rfl
  obtain ⟨token, peek_eq, kind_eq, rest_eq⟩ := exists_token tokens_eq
  refine ⟨{ kind := .sequenceEnd, mark := token.start }, r.skip, ?_, rfl, rest_eq, rfl⟩
  change r.flowEntry start isFirst = _
  rw [flowEntry, comma_of_close tokens_eq, ok_bind, peek_eq, ok_bind, kind_eq]
  rfl

theorem Arrives.mappingEnd {isFirst : Bool}
    (arrives : Arrives result (.flowMappingEnd :: rest) (.flowKey start isFirst :: expected)
      found) :
    Arrives result rest expected (found ++ [.mappingEnd]) := by
  refine arrives.step rfl (Nat.lt_succ_self _) ?_
  rintro r tokens_eq rfl
  obtain ⟨token, peek_eq, kind_eq, rest_eq⟩ := exists_token tokens_eq
  refine ⟨{ kind := .mappingEnd, mark := token.start }, r.skip, ?_, rfl, rest_eq, rfl⟩
  change r.flowKey start isFirst = _
  rw [flowKey, comma_of_close tokens_eq, ok_bind, peek_eq, ok_bind, kind_eq]
  rfl

theorem Arrives.key {isFirst : Bool} {word : List Char}
    (arrives : Arrives result
      (Flow.comma isFirst ++ .key :: .scalar word .doubleQuoted :: rest)
      (.flowKey start isFirst :: expected) found) :
    Arrives result rest (.flowValue start :: expected) (found ++ [.scalar {} word false]) := by
  apply ArrivesAtNode.text
  refine arrives.atNode (by simp; omega) ?_
  rintro r tokens_eq rfl
  obtain ⟨after, comma_eq, after_eq, after_expected⟩ :=
    exists_comma tokens_eq (.inr rfl) .expectedCommaOrBrace .parsingFlowMapping start
  obtain ⟨token, peek_eq, kind_eq, rest_eq⟩ := exists_token after_eq
  obtain ⟨first, first_peek_eq, first_eq, -⟩ := exists_token rest_eq
  refine ⟨after.skip.expect (.flowValue start), false, ?_, rest_eq, ?_⟩
  · change r.flowKey start isFirst = _
    rw [flowKey, comma_eq, ok_bind, peek_eq, ok_bind, kind_eq]
    simp only
    rw [show (after.skip.expect (.flowValue start)).peek = .ok first from first_peek_eq, ok_bind,
      first_eq]
    rfl
  · rw [expect, skip, after_expected]

theorem Arrives.value {value : Flow}
    (arrives : Arrives result (.value :: (value.tokens ++ rest)) (.flowValue start :: expected)
      found) :
    ArrivesAtNode result (value.tokens ++ rest) (.flowKey start false :: expected) found := by
  refine arrives.atNode (by simp) ?_
  rintro r tokens_eq rfl
  obtain ⟨kind, others, value_eq, begins⟩ := value.exists_tokens_eq_cons
  rw [value_eq] at tokens_eq ⊢
  obtain ⟨token, peek_eq, kind_eq, rest_eq⟩ := exists_token tokens_eq
  obtain ⟨first, first_peek_eq, rfl, -⟩ := exists_token rest_eq
  refine ⟨(r.expect (.flowKey start false)).skip, false, ?_, rest_eq, rfl⟩
  have noEnd : [TokenKind.flowEntry, .flowMappingEnd].contains first.kind = false := by
    cases kind_eq : first.kind <;> simp_all [TokenKind.beginsFlow]
  change r.flowValue start = _
  rw [flowValue, peek_eq, ok_bind]
  simp only [kind_eq, ↓reduceIte]
  rw [show (r.expect (.flowKey start false)).skip.peek = .ok first from first_peek_eq, ok_bind]
  simp only [noEnd, Bool.false_eq_true, ↓reduceIte]

/-! ## Trees -/

mutual

/-- The reading of a node goes through its tokens and finds its events. -/
theorem ArrivesAtNode.through (flow : Flow) {rest : List TokenKind} {expected : List Expectation}
    {found : List EventKind}
    (arrives : ArrivesAtNode result (flow.tokens ++ rest) expected found) :
    Arrives result rest expected (found ++ flow.events) := by
  cases flow with
  | text said => exact arrives.text
  | sequence items =>
    obtain ⟨start, started⟩ := ArrivesAtNode.sequenceStart arrives
    simpa [Flow.events] using Arrives.through_items true items started
  | mapping entries =>
    obtain ⟨start, started⟩ := ArrivesAtNode.mappingStart arrives
    simpa [Flow.events] using Arrives.through_entries true entries started

theorem Arrives.through_items (isFirst : Bool) (items : List Flow) {rest : List TokenKind}
    {start : Mark} {expected : List Expectation} {found : List EventKind}
    (arrives : Arrives result (Flow.itemsTokens isFirst items ++ rest)
      (.flowEntry start isFirst :: expected) found) :
    Arrives result rest expected (found ++ Flow.itemsEvents items) := by
  match items with
  | [] => exact arrives.sequenceEnd
  | item :: items =>
    simp only [Flow.itemsTokens, List.append_assoc] at arrives
    have through_item := ArrivesAtNode.through item arrives.item
    simpa [Flow.itemsEvents] using Arrives.through_items false items through_item

theorem Arrives.through_entries (isFirst : Bool) (entries : List (Flow.Key × Flow))
    {rest : List TokenKind} {start : Mark} {expected : List Expectation} {found : List EventKind}
    (arrives : Arrives result (Flow.entriesTokens isFirst entries ++ rest)
      (.flowKey start isFirst :: expected) found) :
    Arrives result rest expected (found ++ Flow.entriesEvents entries) := by
  match entries with
  | [] => exact arrives.mappingEnd
  | (key, value) :: entries =>
    simp only [Flow.entriesTokens, List.append_assoc, List.cons_append] at arrives
    have through_value := ArrivesAtNode.through value arrives.key.value
    simpa [Flow.entriesEvents] using Arrives.through_entries false entries through_value

end

/-! ## From beginning to end -/

theorem exists_next_document (beginning : r.expected = [.document true])
    (tokens_eq : r.tokens.map Token.kind = kind :: kinds) (begins : kind.beginsFlow = true) :
    ∃ event after, r.next = .ok (event, after) ∧ event.kind = .documentStart ∧
      after.tokens = r.tokens ∧ after.expected = [.blockNode, .documentEnd] := by
  obtain ⟨tokens, cut?, expected, handles⟩ := r
  obtain rfl : expected = [.document true] := beginning
  let here : Reader := { tokens, cut?, expected := [] }
  have here_eq : here.tokens.map Token.kind = kind :: kinds := tokens_eq
  obtain ⟨token, peek_eq, rfl, -⟩ := exists_token here_eq
  refine ⟨{ kind := .documentStart, mark := token.start },
    { tokens, cut?, expected := [.blockNode, .documentEnd] }, ?_, rfl, rfl, rfl⟩
  change here.document true = _
  rw [document]
  simp only [↓reduceIte]
  rw [show Reader.peek _ = .ok token from peek_eq, ok_bind]
  cases kind_eq : token.kind <;> simp_all [TokenKind.beginsFlow] <;> rfl

/-- After the content of the document there is the end of the text. -/
theorem Arrives.documentEnd (arrives : Arrives result [.streamEnd] [.documentEnd] found) :
    result.events.map Event.kind = found ∧ result.ending = .only := by
  obtain ⟨⟨tokens, cut?, _, handles⟩, done, fuel, rfl, tokens_eq, rfl, rfl, enough⟩ := arrives
  obtain ⟨⟨_, start, stop⟩, rfl, rfl⟩ := List.map_eq_singleton_iff.mp tokens_eq
  cases fuel with
  | zero => exact absurd enough (Nat.not_lt_zero _)
  | succ fuel => exact ⟨rfl, rfl⟩

end Reader

/-- A document in one line has the events that it should have, and nothing follows it. -/
theorem EventList.firstDocument_flow {tokens : List Token} {flow : Flow}
    (tokens_eq : tokens.map Token.kind = .streamStart :: (flow.tokens ++ [.streamEnd]))
    (cut? : Option Fault) :
    (firstDocument tokens cut?).events.map Event.kind = flow.events ∧
      (firstDocument tokens cut?).ending = .only := by
  obtain ⟨kind, others, flow_eq, begins⟩ := flow.exists_tokens_eq_cons
  obtain ⟨first, tokens, rfl, -, rest_eq⟩ := List.map_eq_cons_iff.mp tokens_eq
  have begins_eq : tokens.map Token.kind = kind :: (others ++ [.streamEnd]) := by
    rw [rest_eq, flow_eq, List.cons_append]
  obtain ⟨event, after, next_eq, event_eq, after_eq, expected_eq⟩ :=
    Reader.exists_next_document (r := { tokens, cut? }) rfl begins_eq begins
  have started : Reader.Arrives (firstDocument (first :: tokens) cut?)
      (flow.tokens ++ [.streamEnd]) [.blockNode, .documentEnd] [] := by
    refine ⟨after, [], 5 * (first :: tokens).length + 4, ?_, by rw [after_eq, rest_eq],
      expected_eq, rfl, ?_⟩
    · symm
      rw [firstDocument, List.tail_cons, readFrom, next_eq]
      simp only [event_eq]
    · rw [← rest_eq, List.length_map, List.length_cons]
      omega
  have content := started.atNode (Nat.le_refl _) fun r tokens_eq expected_eq =>
    ⟨r, true, rfl, tokens_eq, expected_eq⟩
  exact (Reader.ArrivesAtNode.through flow content).documentEnd

end Emend.Yaml
