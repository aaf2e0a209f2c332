/-
# The shortcut for blank texts

A text of blank lines and comments is taken for the empty configuration without being read as a
document.  Lines end at line feeds there, while a document may also end them at other line breaks.
Where both agree that a text is blank the document reader finds nothing either; where they do not,
a comment can hide the lines after it.
-/

import Emend.Config.Parse
import Emend.Proofs.Yaml.Blank

namespace Emend.Configuration

open Yaml (startsBreak isBlankAtBreaks isBlankAtBreaksFrom)

/-! ## Lines that end at line feeds -/

/-- Whether every line break of a text is a line feed, or a carriage return before one. -/
def breaksAtLineFeeds : Bytes → Bool
  | [] => true
  | b :: rest =>
    (!startsBreak (b :: rest) || b = 0x0A || (b = 0x0D && rest.head? = some 0x0A))
      && breaksAtLineFeeds rest

theorem isBlankAtBreaksFrom_of_startsBreak {text : Bytes} (breaks : startsBreak text = true)
    (inComment other : Bool) :
    isBlankAtBreaksFrom inComment text = isBlankAtBreaksFrom other text := by
  cases text with
  | nil => rfl
  | cons b rest => simp [isBlankAtBreaksFrom, breaks]

theorem startsBreak_lineFeed (rest : Bytes) : startsBreak (0x0A :: rest) = true := by
  simp [startsBreak, List.isPrefixOf]

/-- Where lines end at line feeds alone, the shortcut goes by the lines of the document. -/
theorem isBlankAtBreaksFrom_of_isBlankFrom {text : Bytes} {inComment : Bool}
    (plain : breaksAtLineFeeds text = true) (blank : isBlankFrom inComment text = true) :
    isBlankAtBreaksFrom inComment text = true := by
  induction text generalizing inComment with
  | nil => rfl
  | cons b rest ih =>
    rw [breaksAtLineFeeds, Bool.and_eq_true] at plain
    obtain ⟨first, others⟩ := plain
    rw [isBlankFrom] at blank
    rw [isBlankAtBreaksFrom]
    cases breaks : startsBreak (b :: rest) with
    | true =>
      simp only [breaks, Bool.not_true, Bool.false_or, Bool.or_eq_true, Bool.and_eq_true,
        decide_eq_true_eq] at first
      rw [if_pos rfl]
      rcases first with rfl | ⟨rfl, feed⟩
      · exact ih others blank
      · -- The carriage return leaves a comment only for the line feed to end it again.
        obtain ⟨rest, rfl⟩ := List.head?_eq_some_iff.mp feed
        rw [isBlankAtBreaksFrom_of_startsBreak (startsBreak_lineFeed rest) false inComment]
        cases inComment <;> exact ih others blank
    | false =>
      have noFeed : b ≠ 0x0A := by
        rintro rfl
        rw [startsBreak_lineFeed] at breaks
        cases breaks
      have noReturn : b ≠ 0x0D := by
        rintro rfl
        simp [startsBreak, List.isPrefixOf] at breaks
      rw [if_neg noFeed] at blank
      simp only [Bool.false_eq_true, ↓reduceIte]
      cases inComment with
      | true => exact ih others blank
      | false =>
        simp only [Bool.false_eq_true, ↓reduceIte] at blank ⊢
        split at blank
        · rename_i white
          have stays : Yaml.isWhite b = true := by
            simp only [isLineBlank, noReturn, decide_false, Bool.or_false] at white
            simp only [Yaml.isWhite, white, Bool.true_or]
          rw [if_pos stays]
          exact ih others blank
        · split at blank
          · rename_i sharp
            subst sharp
            exact ih others blank
          · cases blank

theorem isBlankAtBreaks_of_isBlank {text : Bytes} (plain : breaksAtLineFeeds text = true)
    (blank : isBlank text = true) : isBlankAtBreaks text = true :=
  isBlankAtBreaksFrom_of_isBlankFrom plain blank

/-! ## Nothing to be read -/

/-- A document that breaks off is not read as a configuration. -/
theorem configuration_ne_ok_of_broken {document : Yaml.Document} {fault : Yaml.Fault}
    (ending_eq : document.ending = .broken fault) (config : Configuration) :
    document.configuration ≠ .ok config := by
  intro found
  simp only [Yaml.Document.configuration, ending_eq, bind, Except.bind, throw, throwThe,
    MonadExceptOf.throw] at found
  split at found
  · split at found <;> cases found
  · cases found

/-- What is read where there is nothing but blank lines and comments is the empty configuration. -/
theorem eq_empty_of_configuration {text : Bytes} {config : Configuration}
    (blank : isBlankAtBreaks text = true)
    (found : (Yaml.Document.ofBytes text).configuration = .ok config) :
    (Yaml.Document.ofBytes text).root = none ∧ config = {} := by
  rcases Yaml.Document.ofBytes_of_blank blank with ⟨root_eq, ending_eq⟩ | ⟨fault, ending_eq⟩
  · simp only [Yaml.Document.configuration, root_eq, ending_eq] at found
    cases found
    exact ⟨root_eq, rfl⟩
  · exact absurd found (configuration_ne_ok_of_broken ending_eq config)

/-- The shortcut takes nothing away from a text that is blank also with lines that end wherever a
document may end them: what the document holds, if it can be read, is what is read, and where the
shortcut is taken the document has no node. -/
theorem parse_hides_nothing {text : Bytes} {config : Configuration}
    (honest : isBlank text = true → isBlankAtBreaks text = true)
    (found : (Yaml.Document.ofBytes text).configuration = .ok config) :
    parse text = .ok config ∧
      (isBlank text = true → (Yaml.Document.ofBytes text).root = none) := by
  unfold parse
  cases blank : isBlank text with
  | true =>
    obtain ⟨noRoot, rfl⟩ := eq_empty_of_configuration (honest blank) found
    exact ⟨rfl, fun _ => noRoot⟩
  | false =>
    refine ⟨found, ?_⟩
    intro isTrue
    cases isTrue

/-- Comments whose lines end at line feeds hide nothing. -/
theorem parse_hides_nothing_of_line_feeds :
    let text := Bytes.ofText " # nothing to do\r\n\n# yet\n"
    isBlank text = true ∧
      ∃ config, (Yaml.Document.ofBytes text).configuration = .ok config ∧
        parse text = .ok config ∧ (Yaml.Document.ofBytes text).root = none := by
  intro text
  have blank : isBlank text = true := by decide +kernel
  have plain : breaksAtLineFeeds text = true := by decide +kernel
  have readable : (Yaml.Document.ofBytes text).configuration.isOk = true := by decide +kernel
  cases found : (Yaml.Document.ofBytes text).configuration with
  | error failure =>
    rw [found] at readable
    cases readable
  | ok config =>
    obtain ⟨parsed, noRoot⟩ := parse_hides_nothing (isBlankAtBreaks_of_isBlank plain) found
    exact ⟨blank, config, rfl, parsed, noRoot blank⟩

/-- A comment that ends at a carriage return hides the entry in the lines after it. -/
theorem parse_hides_after_carriage_return :
    ¬ ∀ (text : Bytes) (config : Configuration),
      (Yaml.Document.ofBytes text).configuration = .ok config → parse text = .ok config := by
  intro claim
  let text := Bytes.ofText "#\rpackages:\r  - regenerates:\r      - file: a.go\r"
  have read : (Yaml.Document.ofBytes text).configuration.toOption.map packages =
      some [⟨[{ file := "a.go" }]⟩] := by decide +kernel
  have blank : isBlank text = true := by decide +kernel
  cases found : (Yaml.Document.ofBytes text).configuration with
  | error failure =>
    rw [found] at read
    cases read
  | ok config =>
    have parsed := claim text config found
    rw [parse, if_pos blank, Except.ok.injEq] at parsed
    subst parsed
    rw [found] at read
    cases read

end Emend.Configuration
