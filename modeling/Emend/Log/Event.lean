/-
# Events

What a run reports while it goes on: how much it matters, which part of the program says it, and
the line it is written as.
-/

import Emend.Path
import Emend.Rule
import Emend.Text.Quoted

namespace Emend

/-- How much an event matters. -/
inductive Level where
  | error
  | warn
  | info
  | debug
  | trace
  deriving Repr, DecidableEq

namespace Level

/-- How many levels matter more. -/
def rank : Level → Nat
  | error => 0
  | warn => 1
  | info => 2
  | debug => 3
  | trace => 4

/-- A level in the width of the widest one. -/
def label : Level → String
  | error => "ERROR"
  | warn => " WARN"
  | info => " INFO"
  | debug => "DEBUG"
  | trace => "TRACE"

end Level

/-- What is reported in the course of a run. -/
inductive Event where
  /-- There is no file for an entry. -/
  | fileMissing (declared : String)
  | ruleMatched (rule : Rule)
  | ruleNotMatched (rule : Rule)
  /-- A program has formatted a content. -/
  | formatted (program : String) (inputSize outputSize : Nat)
  | contentUnchanged (file : Path)
  | fileChanged (file : Path) (rules : Nat)
  /-- The run is over. -/
  | finished (changed unchanged skipped : Nat)
  deriving Repr

namespace Event

def level : Event → Level
  | fileMissing _ => .warn
  | ruleMatched _ | ruleNotMatched _ | formatted .. | contentUnchanged _ => .debug
  | fileChanged .. | finished .. => .info

/-- The name of the part of the program that reports an event. -/
def origin : Event → String
  | ruleMatched _ | ruleNotMatched _ => "regen_cli::rules::rewriter"
  | formatted .. => "regen_cli::format"
  | fileMissing _ | contentUnchanged _ | fileChanged .. | finished .. =>
    "regen_cli::regenerate"

def message : Event → String
  | fileMissing declared => "File " ++ Quoted.quote declared ++ " does not exist, skipping"
  | ruleMatched _ => "rule matched"
  | ruleNotMatched _ => "rule did not match"
  | formatted .. => "formatter finished"
  | contentUnchanged _ => "content unchanged"
  | fileChanged .. => "rewrote file"
  | finished .. => "regeneration finished"

/-- The names and values that go with an event. -/
def fields : Event → List (String × String)
  | fileMissing _ => []
  | ruleMatched rule | ruleNotMatched rule => [("rule", rule.display)]
  | formatted program inputSize outputSize =>
    [("program", program), ("input_bytes", toString inputSize),
      ("output_bytes", toString outputSize)]
  | contentUnchanged file => [("file", file.display)]
  | fileChanged file rules => [("file", file.display), ("rules", toString rules)]
  | finished changed unchanged skipped =>
    [("rewritten", toString changed), ("unchanged", toString unchanged),
      ("skipped", toString skipped)]

/-- An event as it is written. -/
def line (event : Event) : String :=
  event.fields.foldl (fun line (name, value) => line ++ " " ++ name ++ "=" ++ value)
    (event.level.label ++ " " ++ event.message) ++ "\n"

end Event

end Emend
