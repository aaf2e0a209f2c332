/-
# Texts without a document

Where there are only blank lines and comments the scanner finds no token but the one for the end of
the text, if it does not meet a fault before.  So such a text holds no document.
-/

import Emend.Proofs.Yaml.Lines
import Emend.Yaml.Document

namespace Emend.Yaml

/-! ## Going through blank lines -/

/-- Characters that change nothing about the line under way can be passed over. -/
theorem linesAfter_dropWhile {inComment : Bool} {isKind : Char → Bool}
    (stays : ∀ c, isKind c = true → lineAfter inComment c = some inComment) (chars : List Char) :
    linesAfter inComment (chars.dropWhile isKind) = linesAfter inComment chars := by
  induction chars with
  | nil => rfl
  | cons c chars ih =>
    cases kind : isKind c with
    | true =>
      rw [List.dropWhile_cons_of_pos kind, ih, linesAfter_cons, stays c kind, Option.bind_some]
    | false => rw [List.dropWhile_cons_of_neg (by simp [kind])]

theorem lineAfter_of_isBreak {inComment : Bool} {c : Char} (breaks : isBreak c = true) :
    lineAfter inComment c = some false := by
  simp [lineAfter, breaks]

theorem lineAfter_comment {c : Char} (inside : isBreak c = false) :
    lineAfter true c = some true := by
  simp [lineAfter, inside]

/-- No token can begin at the characters, and after a line break there are blank lines and comments
again. -/
def IsLineEnd (chars : List Char) : Prop :=
  ∀ c others, chars = c :: others →
    isBlankOrEnd c = true ∧ (isBreak c = true → (linesAfter false others).isSome)

/-- A blank line without a comment goes on with white space or it ends. -/
theorem isLineEnd_of_blank {chars : List Char} (blank : (linesAfter false chars).isSome)
    (noComment : chars.head? ≠ some '#') : IsLineEnd chars := by
  rintro c others rfl
  rw [linesAfter_cons] at blank
  constructor
  · have kept := Option.isSome_of_isSome_bind blank
    have other : c ≠ '#' := by simpa using noComment
    simp only [lineAfter, other, ↓reduceIte] at kept
    simp only [isBlankOrEnd, isBreakOrEnd]
    grind
  · intro breaks
    rwa [lineAfter_of_isBreak breaks, Option.bind_some] at blank

/-- A comment goes on to the end of its line. -/
theorem isLineEnd_of_comment {chars : List Char} (blank : (linesAfter true chars).isSome) :
    IsLineEnd (chars.dropWhile fun c => !isBreakOrEnd c) := by
  intro c others rest_eq
  have stays (c : Char) (inside : (!isBreakOrEnd c) = true) : lineAfter true c = some true :=
    lineAfter_comment (by simp_all [isBreakOrEnd])
  rw [← linesAfter_dropWhile stays, rest_eq, linesAfter_cons] at blank
  constructor
  · have stops : isBreakOrEnd c = true := by
      have := List.head?_dropWhile_not (fun c => !isBreakOrEnd c) chars
      simpa [rest_eq] using this
    simp [isBlankOrEnd, stops]
  · intro breaks
    rwa [lineAfter_of_isBreak breaks, Option.bind_some] at blank

namespace Cursor

variable {cursor after : Cursor}

theorem rest_of_skipWhile {isKind : Char → Bool} (skipped : cursor.skipWhile isKind = .ok after) :
    after.rest = cursor.rest.dropWhile isKind := by
  obtain ⟨⟨run, last⟩, spanned, skipped⟩ := bind_eq_ok_iff.mp skipped
  obtain ⟨-, -, spanned⟩ := bind_eq_ok_iff.mp spanned
  cases spanned
  cases skipped
  rfl

/-- White space is passed over; a tab may be no white space here. -/
theorem blank_of_skipWhite {tabsCount : Bool} (blank : (linesAfter false cursor.rest).isSome)
    (skipped : (cursor.skipWhile fun c => c = ' ' || (c = '\t' && tabsCount)) = .ok after) :
    (linesAfter false after.rest).isSome ∧ after.rest.length ≤ cursor.rest.length := by
  have stays (c : Char) (white : (c = ' ' || (c = '\t' && tabsCount)) = true) :
      lineAfter false c = some false := by
    simp only [Bool.or_eq_true, Bool.and_eq_true, decide_eq_true_eq] at white
    rcases white with rfl | ⟨rfl, -⟩ <;> rfl
  rw [rest_of_skipWhile skipped, linesAfter_dropWhile stays]
  exact ⟨blank, (List.dropWhile_sublist _).length_le⟩

theorem length_rest_of_skipComment (skipped : cursor.skipComment = .ok after) :
    after.rest.length ≤ cursor.rest.length := by
  unfold skipComment at skipped
  split at skipped
  · rw [rest_of_skipWhile skipped]
    exact (List.dropWhile_sublist _).length_le
  · cases skipped
    exact Nat.le_refl _

/-- After white space and a comment a line ends. -/
theorem isLineEnd_of_skipComment (blank : (linesAfter false cursor.rest).isSome)
    (skipped : cursor.skipComment = .ok after) : IsLineEnd after.rest := by
  obtain ⟨rest, mark, cut?⟩ := cursor
  simp only at blank
  unfold skipComment at skipped
  split at skipped
  · rename_i sharp
    rw [rest_of_skipWhile skipped]
    cases rest with
    | nil => cases sharp
    | cons c rest =>
      obtain rfl : c = '#' := sharp
      exact @isLineEnd_of_comment ('#' :: rest) blank
  · rename_i noComment
    cases skipped
    refine isLineEnd_of_blank blank ?_
    intro sharp
    rw [List.head?_eq_some_iff] at sharp
    obtain ⟨others, rfl⟩ := sharp
    exact noComment rfl

/-- The line break at the cursor is passed over, and not more than that is needed. -/
theorem blank_of_skipBreak (ends : IsLineEnd cursor.rest) (breaks : isBreak cursor.char = true) :
    (linesAfter false cursor.skipBreak.rest).isSome ∧
      cursor.skipBreak.rest.length < cursor.rest.length := by
  obtain ⟨rest, mark, cut?⟩ := cursor
  cases rest with
  | nil => cases breaks
  | cons c rest =>
    have blank := (ends c rest rfl).2 breaks
    unfold skipBreak
    split
    · rename_i others rest_eq
      obtain ⟨rfl, rfl⟩ := List.cons.inj rest_eq
      exact ⟨blank, Nat.lt_succ_of_lt (Nat.lt_succ_self _)⟩
    · rename_i rest_eq
      obtain ⟨rfl, rfl⟩ := List.cons.inj rest_eq
      exact ⟨blank, Nat.lt_succ_self _⟩
    · rename_i rest_eq
      cases rest_eq

/-- No byte order mark stands in a blank line. -/
theorem char_ne_of_blank (blank : (linesAfter false cursor.rest).isSome) :
    cursor.char ≠ '\ufeff' := by
  obtain ⟨rest, mark, cut?⟩ := cursor
  intro isMark
  cases rest with
  | nil => cases isMark
  | cons c rest =>
    obtain rfl : c = '\ufeff' := isMark
    cases blank

/-- On the way to the next token blank lines and comments are passed over, up to the end of the text
or to a character with which no token begins. -/
theorem noToken_of_toToken {keyAllowed inFlow lineEnded ended : Bool} {bound : List Char}
    (enough : cursor.rest.length < bound.length) (blank : (linesAfter false cursor.rest).isSome)
    (found : cursor.toToken keyAllowed inFlow lineEnded bound = .ok (ended, after)) :
    ∀ c others, after.rest = c :: others → isBlankOrEnd c = true := by
  induction bound generalizing cursor keyAllowed lineEnded with
  | nil => cases enough
  | cons _ bound ih =>
    rw [toToken] at found
    obtain ⟨-, -, found⟩ := bind_eq_ok_iff.mp found
    simp only [char_ne_of_blank blank, decide_false, Bool.and_false, Bool.false_eq_true,
      ↓reduceIte] at found
    obtain ⟨-, -, found⟩ := bind_eq_ok_iff.mp found
    obtain ⟨afterWhite, skipped, found⟩ := bind_eq_ok_iff.mp found
    obtain ⟨afterComment, commented, found⟩ := bind_eq_ok_iff.mp found
    obtain ⟨still_blank, whiteLength⟩ := blank_of_skipWhite blank skipped
    have ends := isLineEnd_of_skipComment still_blank commented
    split at found
    · rename_i breaks
      obtain ⟨-, -, found⟩ := bind_eq_ok_iff.mp found
      obtain ⟨next_blank, shorter⟩ := blank_of_skipBreak ends breaks
      refine ih ?_ next_blank found
      have commentLength := length_rest_of_skipComment commented
      rw [List.length_cons] at enough
      omega
    · cases found
      exact fun c others rest_eq => (ends c others rest_eq).1

end Cursor

/-! ## Scanning -/

namespace Scanner

variable {s next : Scanner}

/-- Nothing has been opened and nothing may turn out to be a key. -/
structure IsIdle (s : Scanner) : Prop where
  candidate_eq : s.candidate = none
  outerCandidates_eq : s.outerCandidates = []
  outerIndents_eq : s.outerIndents = []

theorem IsIdle.eq (idle : s.IsIdle) :
    s = { cursor := s.cursor, started := s.started, held := s.held, handed := s.handed
          keyAllowed := s.keyAllowed, indent := s.indent } := by
  obtain ⟨cursor, started, held, handed, candidate, outerCandidates, keyAllowed, indent,
    outerIndents⟩ := s
  obtain ⟨rfl, rfl, rfl⟩ := idle
  rfl

theorem IsIdle.dropStale (idle : s.IsIdle) : s.dropStale = .ok s := by
  rw [idle.eq]
  rfl

theorem IsIdle.closeBlocks (idle : s.IsIdle) (column : Int) : s.closeBlocks column = s := by
  rw [idle.eq]
  rfl

theorem IsIdle.isBlocked (idle : s.IsIdle) : s.isBlocked = false := by
  rw [idle.eq]
  rfl

/-- The signs with which tokens begin. -/
def signs : List Char :=
  ['%', '[', '\x7b', ']', '\x7d', ',', '-', '.', '?', ':', '*', '&', '!', '|', '>', '\'', '"']

/-- Where no token can begin there is a fault. -/
theorem fetchHere_of_noToken {c : Char} {others : List Char} (rest_eq : s.cursor.rest = c :: others)
    (blank : isBlankOrEnd c = true) : ∃ fault, s.fetchHere = .error fault := by
  have signs_stand : (signs.all fun sign => !isBlankOrEnd sign) = true := by decide
  have different : ∀ sign ∈ signs, c ≠ sign := by
    rintro sign member rfl
    have stands := List.all_eq_true.mp signs_stand c member
    rw [blank] at stands
    cases stands
  simp only [signs, List.forall_mem_cons, List.not_mem_nil, false_implies, implies_true,
    and_true] at different
  have char_eq : s.cursor.char = c := by rw [Cursor.char, rest_eq]; rfl
  have noIndicator : startsDocumentIndicator s.cursor.rest = false := by
    rw [rest_eq]
    unfold startsDocumentIndicator
    split <;> simp_all
  rw [rest_eq] at noIndicator
  have noPlain : s.startsPlain = false := by simp [startsPlain, char_eq, blank, different]
  refine ⟨s.cursor.fault .cannotStartToken .scanningToken s.mark, ?_⟩
  simp [fetchHere, char_eq, noIndicator, noPlain, rest_eq, different]

/-- At the end of the text there is the last token. -/
theorem fetchHere_of_end (idle : s.IsIdle) (atEnd : s.cursor.rest = []) :
    ∃ found token, s.fetchHere = .ok found ∧ found.IsIdle ∧ found.held = s.held ++ [token] ∧
      token.kind = .streamEnd := by
  obtain ⟨⟨rest, mark, cut?⟩, started, held, handed, candidate, outerCandidates, keyAllowed, indent,
    outerIndents⟩ := s
  obtain ⟨rfl, rfl, rfl⟩ := idle
  obtain rfl : rest = [] := atEnd
  refine ⟨_, { kind := .streamEnd, start := _, stop := _ }, rfl, ⟨rfl, rfl, rfl⟩, rfl, rfl⟩

/-- In blank lines and comments the next token, if there is one, is the last. -/
theorem fetch_of_blank (idle : s.IsIdle) (started : s.started = true)
    (blank : (linesAfter false s.cursor.rest).isSome) (fetched : s.fetch = .ok next) :
    next.IsIdle ∧ ∃ token, next.held = s.held ++ [token] ∧ token.kind = .streamEnd := by
  unfold fetch at fetched
  obtain ⟨-, -, fetched⟩ := bind_eq_ok_iff.mp fetched
  simp only [started, Bool.not_true, Bool.false_eq_true, ↓reduceIte] at fetched
  obtain ⟨⟨lineEnded, cursor⟩, found, fetched⟩ := bind_eq_ok_iff.mp fetched
  have noToken := Cursor.noToken_of_toToken (Nat.lt_succ_self _) blank found
  let arrived : Scanner :=
    { s with cursor, started := true, keyAllowed := s.keyAllowed || (lineEnded && !s.inFlow) }
  have arrived_idle : arrived.IsIdle :=
    ⟨idle.candidate_eq, idle.outerCandidates_eq, idle.outerIndents_eq⟩
  obtain ⟨stale, stale_eq, fetched⟩ := bind_eq_ok_iff.mp fetched
  obtain rfl : arrived = stale := Except.ok.inj (arrived_idle.dropStale.symm.trans stale_eq)
  simp only [arrived_idle.closeBlocks] at fetched
  obtain ⟨-, -, fetched⟩ := bind_eq_ok_iff.mp fetched
  cases rest_eq : cursor.rest with
  | nil =>
    obtain ⟨last, token, last_eq, last_idle, held_eq, kind_eq⟩ :=
      fetchHere_of_end arrived_idle rest_eq
    rw [last_eq] at fetched
    cases fetched
    exact ⟨last_idle, token, held_eq, kind_eq⟩
  | cons c others =>
    obtain ⟨fault, failed⟩ :=
      fetchHere_of_noToken (s := arrived) rest_eq (noToken c others rest_eq)
    rw [failed] at fetched
    cases fetched

theorem IsIdle.release (idle : s.IsIdle) (done : List Token) (token : Token) :
    s.release done [token] =
      ({ s with handed := s.handed + 1, held := [] }, token :: done) := by
  simp [Scanner.release, idle.isBlocked]

/-- A round that finds a token hands it over, and the last token ends the scan. -/
theorem scanFrom_of_idle {token : Token} {done : List Token} {fuel : Nat}
    (fetched : s.fetch = .ok next) (idle : next.IsIdle) (held_eq : next.held = [token]) :
    s.scanFrom done (fuel + 1) =
      if token.kind = .streamEnd then ((token :: done).reverse, none)
      else scanFrom { next with handed := next.handed + 1, held := [] } (token :: done) fuel := by
  rw [scanFrom]
  simp only [fetched, idle.dropStale, held_eq, idle.release, List.head?_cons, Option.any_some,
    decide_eq_true_eq]

theorem scanFrom_of_fault {done : List Token} {fault : Fault} {fuel : Nat}
    (failed : s.fetch = .error fault) :
    s.scanFrom done (fuel + 1) = (done.reverse, some fault) := by
  rw [scanFrom]
  simp only [failed]

end Scanner

/-- Blank lines and comments hold no tokens but those for the beginning and the end of the text. -/
theorem Token.scan_of_blank {source : Source} (blank : (linesAfter false source.chars).isSome) :
    (∃ tokens fault, scan source = (tokens, some fault) ∧ tokens.tail = []) ∨
      ∃ first last, scan source = ([first, last], none) ∧ last.kind = .streamEnd := by
  unfold scan
  cases first_eq : Scanner.fetch { cursor := .start source } with
  | error fault =>
    rw [Scanner.scanFrom_of_fault first_eq]
    exact .inl ⟨_, fault, rfl, rfl⟩
  | ok begun =>
    obtain ⟨-, -, begun_eq⟩ := bind_eq_ok_iff.mp first_eq
    cases begun_eq
    rw [Scanner.scanFrom_of_idle first_eq ⟨rfl, rfl, rfl⟩ rfl, if_neg (by simp)]
    generalize rest_eq : Scanner.mk _ _ _ _ _ _ _ _ _ = rest
    cases second_eq : rest.fetch with
    | error fault =>
      rw [Scanner.scanFrom_of_fault second_eq]
      exact .inl ⟨_, fault, rfl, rfl⟩
    | ok next =>
      subst rest_eq
      obtain ⟨idle, token, held_eq, kind_eq⟩ :=
        Scanner.fetch_of_blank ⟨rfl, rfl, rfl⟩ rfl blank second_eq
      rw [Scanner.scanFrom_of_idle second_eq idle held_eq, if_pos kind_eq]
      exact .inr ⟨_, token, rfl, kind_eq⟩

/-! ## No document -/

/-- Without tokens there are no events. -/
theorem EventList.ofSource_of_blank {source : Source}
    (blank : (linesAfter false source.chars).isSome) :
    ofSource source = { events := [], ending := .only } ∨
      ∃ fault, ofSource source = { events := [], ending := .broken fault } := by
  unfold ofSource
  rcases Token.scan_of_blank blank with
    ⟨tokens, fault, scan_eq, nothing⟩ | ⟨first, last, scan_eq, isLast⟩
  · refine .inr ⟨fault, ?_⟩
    rw [scan_eq]
    simp only [firstDocument, nothing]
    rfl
  · refine .inl ?_
    rw [scan_eq]
    simp [firstDocument, readFrom, Reader.next, Reader.document, Reader.peek, bind, Except.bind,
      isLast, pure, Except.pure]

/-- A text that is blank wherever its lines end holds no document, or it is faulty. -/
theorem Document.ofBytes_of_blank {text : Bytes} (blank : isBlankAtBreaks text = true) :
    (ofBytes text).root = none ∧ (ofBytes text).ending = .only ∨
      ∃ fault, (ofBytes text).ending = .broken fault := by
  unfold ofBytes
  rcases EventList.ofSource_of_blank (Source.isSome_linesAfter_ofBytes blank) with
    events_eq | ⟨fault, events_eq⟩
  · rw [events_eq]
    exact .inl ⟨rfl, rfl⟩
  · rw [events_eq]
    exact .inr ⟨fault, rfl⟩

end Emend.Yaml
