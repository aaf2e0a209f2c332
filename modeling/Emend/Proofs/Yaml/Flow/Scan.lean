/-
# The scan of a document in one line

The scan of a document in one line goes from token to token.  By induction on what is written it
finds exactly the tokens that the document should have, and nothing is wrong after them.
-/

import Emend.Proofs.Yaml.Flow.Tokens

namespace Emend.Yaml

namespace Scanner

variable {result : List Token × Option Fault} {phase next : Phase} {chars rest after : List Char}
  {found more : List TokenKind} {depth depth' : Nat} {c : Char}

/-! ## One round -/

/-- The scan with a result comes to a place between two tokens. -/
def Arrives (result : List Token × Option Fault) (phase : Phase) (chars : List Char)
    (found : List TokenKind) (depth : Nat) : Prop :=
  ∃ (s : Scanner) (done : List Token) (fuel : Nat), s.scanFrom done fuel = result ∧
    chars.length < fuel ∧ s.Stands done chars found depth ∧ phase.Holds s

theorem Arrives.elsewhere (arrives : Arrives result phase chars found depth) :
    Arrives result .elsewhere chars found depth := by
  obtain ⟨s, done, fuel, scan_eq, enough, stands, -⟩ := arrives
  exact ⟨s, done, fuel, scan_eq, enough, stands, trivial⟩

/-- A round passes over the space before a token and finds the token, which takes a character at
least. -/
theorem Arrives.step (arrives : Arrives result phase chars found depth)
    (leads : LeadsTo chars (c :: rest))
    (still : ∀ number, phase = .colon number → chars = c :: rest)
    (shorter : after.length ≤ rest.length)
    (finds : ∀ (s : Scanner) (done : List Token), s.Stands done (c :: rest) found depth →
      phase.Holds s → ∃ s', s.fetchHere = .ok s' ∧ s'.Stands done after more depth' ∧
        next.Holds s') :
    Arrives result next after more depth' := by
  obtain ⟨s, done, fuel, scan_eq, enough, stands, holds⟩ := arrives
  have long : rest.length < chars.length := by
    rcases leads.blanks with rfl | rfl
    · exact Nat.lt_succ_self _
    · exact Nat.lt_succ_of_lt (Nat.lt_succ_self _)
  cases fuel with
  | zero => exact absurd enough (Nat.not_lt_zero _)
  | succ fuel =>
    obtain ⟨here, fetch_eq, here_stands, here_holds⟩ := stands.exists_fetch holds leads still
    obtain ⟨found, found_eq, found_stands, found_holds⟩ := finds here done here_stands here_holds
    obtain ⟨s', done', round_eq, stands', holds'⟩ :=
      found_stands.exists_scanFrom (fetch_eq.trans found_eq) found_holds fuel
    exact ⟨s', done', fuel, round_eq ▸ scan_eq, by omega, stands', holds'⟩

/-- The space before a token, if there is one. -/
def space (isSpaced : Bool) : List Char := if isSpaced then [' '] else []

theorem leadsTo_space (isSpaced : Bool) (sign : isFlowSign c = true) :
    LeadsTo (space isSpaced ++ c :: rest) (c :: rest) where
  blanks := by cases isSpaced <;> simp [space]
  sign d others same := by
    obtain ⟨rfl, -⟩ := List.cons.inj same
    exact sign

theorem leadsTo_self (sign : isFlowSign c = true) : LeadsTo (c :: rest) (c :: rest) :=
  leadsTo_space false sign

/-! ## Signs -/

/-- What comes next inside a collection. -/
def phaseIn (isFirst : Bool) : Phase := if isFirst then .entry else .elsewhere

theorem Arrives.opening {isSpaced : Bool} {kind : TokenKind}
    (arrives : Arrives result .elsewhere (space isSpaced ++ c :: rest) found depth)
    (opens : (c = '[' ∧ kind = .flowSequenceStart) ∨ (c = '\x7b' ∧ kind = .flowMappingStart)) :
    Arrives result (phaseIn true) rest (found ++ [kind]) (depth + 1) := by
  have sign : isFlowSign c = true := by rcases opens with ⟨rfl, -⟩ | ⟨rfl, -⟩ <;> rfl
  refine arrives.step (leadsTo_space isSpaced sign) (fun _ isColon => by cases isColon)
    (Nat.le_refl _) ?_
  intro s done stands _
  have here : s.fetchHere = s.fetchOpening kind := by
    rcases opens with ⟨rfl, rfl⟩ | ⟨rfl, rfl⟩ <;>
      exact stands.fetchHere_eq rfl (.inl (by decide))
  have notLast : kind ≠ .streamEnd := by
    rcases opens with ⟨-, rfl⟩ | ⟨-, rfl⟩ <;> exact TokenKind.noConfusion
  rw [here]
  exact stands.exists_fetchOpening notLast

theorem Arrives.closing {kind : TokenKind}
    (arrives : Arrives result phase (c :: rest) found (depth + 1))
    (closes : (c = ']' ∧ kind = .flowSequenceEnd) ∨ (c = '\x7d' ∧ kind = .flowMappingEnd)) :
    Arrives result .elsewhere rest (found ++ [kind]) depth := by
  have sign : isFlowSign c = true := by rcases closes with ⟨rfl, -⟩ | ⟨rfl, -⟩ <;> rfl
  refine arrives.step (leadsTo_self sign) (fun _ _ => rfl) (Nat.le_refl _) ?_
  intro s done stands _
  have here : s.fetchHere = s.fetchClosing kind := by
    rcases closes with ⟨rfl, rfl⟩ | ⟨rfl, rfl⟩ <;>
      exact stands.fetchHere_eq rfl (.inl (by decide))
  have notLast : kind ≠ .streamEnd := by
    rcases closes with ⟨-, rfl⟩ | ⟨-, rfl⟩ <;> exact TokenKind.noConfusion
  obtain ⟨s', closed, stands'⟩ := stands.exists_fetchClosing notLast
  exact ⟨s', here.trans closed, stands', trivial⟩

/-- What separates an item or a key from the one before it is passed over. -/
theorem Arrives.separator {isFirst : Bool}
    (arrives : Arrives result (phaseIn isFirst) (Flow.separator isFirst ++ rest) found depth) :
    Arrives result .entry (space (!isFirst) ++ rest) (found ++ Flow.comma isFirst) depth := by
  cases isFirst with
  | true => simpa [Flow.separator, Flow.comma, space, phaseIn] using arrives
  | false =>
    refine arrives.step (leadsTo_self rfl) (fun _ _ => rfl) (Nat.le_refl _) ?_
    intro s done stands _
    have here : s.fetchHere = s.fetchFlowEntry := stands.fetchHere_eq rfl (.inl (by decide))
    rw [here]
    exact stands.exists_fetchFlowEntry

theorem Arrives.text {capital isSpaced : Bool} {said : List Char}
    (arrives : Arrives result .elsewhere
      (space isSpaced ++ '"' :: (said.flatMap (escaped capital) ++ '"' :: rest)) found depth) :
    Arrives result .elsewhere rest (found ++ [.scalar said .doubleQuoted]) depth := by
  refine arrives.step (leadsTo_space isSpaced rfl) (fun _ isColon => by cases isColon) ?_ ?_
  · simp
    omega
  · intro s done stands _
    have here : s.fetchHere = s.fetchQuoted .doubleQuoted :=
      stands.fetchHere_eq rfl (.inl (by decide))
    obtain ⟨s', quoted, stands'⟩ := stands.exists_fetchQuoted
    exact ⟨s', here.trans quoted, stands', trivial⟩

/-- A key is found with the colon after it. -/
theorem Arrives.key {isSpaced : Bool} {key : Flow.Key}
    (arrives : Arrives result .entry
      (space isSpaced ++ '"' :: (key.word ++ '"' :: ':' :: rest)) found (depth + 1)) :
    Arrives result .elsewhere rest
      (found ++ [.key, .scalar key.word .doubleQuoted, .value]) (depth + 1) := by
  have quoted : Arrives result (.colon found.length) (':' :: rest)
      (found ++ [.scalar key.word .doubleQuoted]) (depth + 1) := by
    refine arrives.step (leadsTo_space isSpaced rfl) (fun _ isColon => by cases isColon) ?_ ?_
    · simp
      omega
    · intro s done stands holds
      have here : s.fetchHere = s.fetchQuoted .doubleQuoted :=
        stands.fetchHere_eq rfl (.inl (by decide))
      rw [here]
      exact stands.exists_fetchQuoted_key holds
  refine quoted.step (leadsTo_self rfl) (fun _ _ => rfl) (Nat.le_refl _) ?_
  intro s done stands holds
  have here : s.fetchHere = s.fetchValue := stands.fetchHere_eq rfl (.inr (inFlow_eq stands))
  obtain ⟨s', fetched, stands'⟩ := stands.exists_fetchValue holds
  exact ⟨s', here.trans fetched, stands', trivial⟩

/-! ## Trees -/

mutual

/-- The scan goes through what is written of a document and finds its tokens. -/
theorem Arrives.through (capital isSpaced : Bool) (flow : Flow) {after : List Char}
    {found : List TokenKind} {depth : Nat}
    (arrives : Arrives result .elsewhere (space isSpaced ++ (flow.chars capital ++ after)) found
      depth) :
    Arrives result .elsewhere after (found ++ flow.tokens) depth := by
  cases flow with
  | text said =>
    simp only [Flow.chars, List.cons_append, List.append_assoc, List.nil_append] at arrives
    exact arrives.text
  | sequence items =>
    have opened := arrives.opening (.inl ⟨rfl, rfl⟩)
    simpa [Flow.tokens] using Arrives.through_items capital true items opened
  | mapping entries =>
    have opened := arrives.opening (.inr ⟨rfl, rfl⟩)
    simpa [Flow.tokens] using Arrives.through_entries capital true entries opened

theorem Arrives.through_items (capital isFirst : Bool) (items : List Flow)
    {after : List Char} {found : List TokenKind} {depth : Nat}
    (arrives : Arrives result (phaseIn isFirst) (Flow.itemsChars capital isFirst items ++ after)
      found (depth + 1)) :
    Arrives result .elsewhere after (found ++ Flow.itemsTokens isFirst items) depth := by
  match items with
  | [] => exact arrives.closing (.inl ⟨rfl, rfl⟩)
  | item :: items =>
    simp only [Flow.itemsChars, List.append_assoc] at arrives
    have through_item := Arrives.through capital (!isFirst) item arrives.separator.elsewhere
    simpa [Flow.itemsTokens] using Arrives.through_items capital false items through_item

theorem Arrives.through_entries (capital isFirst : Bool) (entries : List (Flow.Key × Flow))
    {after : List Char} {found : List TokenKind} {depth : Nat}
    (arrives : Arrives result (phaseIn isFirst) (Flow.entriesChars capital isFirst entries ++ after)
      found (depth + 1)) :
    Arrives result .elsewhere after (found ++ Flow.entriesTokens isFirst entries) depth := by
  match entries with
  | [] => exact arrives.closing (.inr ⟨rfl, rfl⟩)
  | (key, value) :: entries =>
    simp only [Flow.entriesChars, List.append_assoc, List.cons_append] at arrives
    have through_value := Arrives.through capital true value arrives.separator.key
    simpa [Flow.entriesTokens] using Arrives.through_entries capital false entries through_value

end

/-! ## From beginning to end -/

theorem arrives_of_scan (chars : List Char) :
    Arrives (Token.scan { chars }) .elsewhere chars [.streamStart] 0 := by
  let started : Scanner :=
    { cursor := .start { chars }, started := true
      held := [{ kind := .streamStart, start := {}, stop := {} }] }
  have fetched : fetch { cursor := .start { chars } } = .ok started := by
    rw [fetch, Cursor.need_of_uncut rfl]
    rfl
  have stands : started.Stands [] chars [.streamStart] 0 := by
    refine ⟨rfl, rfl, rfl, rfl, rfl, by decide, rfl, ⟨rfl, rfl⟩, ?_⟩
    intro candidate member
    cases member with
    | tail _ member => cases member
  have elsewhere : Phase.elsewhere.Holds started := trivial
  obtain ⟨s, done, round_eq, stands, -⟩ :=
    stands.exists_scanFrom fetched elsewhere (chars.length + 2)
  exact ⟨s, done, chars.length + 2, round_eq.symm, by omega, stands, trivial⟩

end Scanner

/-- A document in one line has the tokens that it should have. -/
theorem Token.exists_scan_flow (capital : Bool) (flow : Flow) :
    ∃ tokens, Token.scan { chars := flow.chars capital } = (tokens, none) ∧
      tokens.map Token.kind = .streamStart :: (flow.tokens ++ [.streamEnd]) := by
  have start := Scanner.arrives_of_scan (flow.chars capital)
  rw [← List.append_nil (flow.chars capital)] at start
  obtain ⟨s, done, fuel, scan_eq, enough, stands, -⟩ :=
    Scanner.Arrives.through capital false flow start
  cases fuel with
  | zero => exact absurd enough (Nat.lt_irrefl _)
  | succ fuel =>
    obtain ⟨tokens, ended, kinds_eq⟩ := stands.scanFrom_of_end fuel
    rw [List.append_nil] at scan_eq
    exact ⟨tokens, scan_eq.symm.trans ended, by simpa using kinds_eq⟩

end Emend.Yaml
