/-
# When a program gives an output

A program that formats a content gives one only if it could be started, took the whole input and
reported no failure.  Otherwise it fails in one of three ways, each of which names the program.
-/

import Emend.Host.Program

namespace Emend

/-- The failure of a program with a name: it could not be started, did not take its input or reported
a failure. -/
def Failure.IsOfProgram (program : String) : Failure → Prop
  | .programNotStarted name _ | .inputRefused name _ | .programFailed name _ _ => name = program
  | _ => False

namespace Host

/-- A program makes an output of an input: it can be started, takes the whole input, ends well and
has written the output. -/
def Completes (programs : Programs) (program : String) (args : List String)
    (input output : Bytes) : Prop :=
  ∃ conduct, programs program args input = .ok conduct ∧ conduct.exitCode? = some 0 ∧
    conduct.refusal? = none ∧ conduct.output = output

variable {programs : Programs} {program : String} {args : List String} {input output : Bytes}

theorem completes_of_runProgram_eq_ok
    (succeeded : runProgram programs program args input = .ok output) :
    Completes programs program args input output := by
  unfold runProgram at succeeded
  split at succeeded
  · cases succeeded
  · cases called : programs program args input with
    | error cause =>
      rw [called] at succeeded
      cases succeeded
    | ok conduct =>
      refine ⟨conduct, called, ?_⟩
      simp only [called] at succeeded
      -- Of what was seen of the program only a good end with the input taken gives an output.
      split at succeeded
      · rename_i ended taken
        cases succeeded
        exact ⟨ended, taken, rfl⟩
      · cases succeeded
      · cases succeeded

theorem isOfProgram_of_runProgram_eq_error {failure : Failure}
    (failed : runProgram programs program args input = .error failure) :
    failure.IsOfProgram program := by
  unfold runProgram at failed
  split at failed
  · cases failed
    rfl
  · split at failed
    · cases failed
      rfl
    · split at failed
      · cases failed
      · cases failed
        rfl
      · cases failed
        rfl

end Host

end Emend
