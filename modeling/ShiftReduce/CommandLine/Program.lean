import ShiftReduce.CommandLine.Arguments
import ShiftReduce.CommandLine.Commands
import ShiftReduce.FileTree
import ShiftReduce.Json.Printer
import ShiftReduce.Json.Reader
import ShiftReduce.Log.Lines
import ShiftReduce.Settings.Reader

/-!
# The program

The commands with readers and writers of this library, which take the places of the parameters
`Readers` and `Writers`. What is proved of commands holds for any others as well. The messages of
these say that a text is not valid, and not where, and a question for help is a usage error.

* `Readers.standard`, `Writers.standard`: the readers and writers.
* `execute?`: what a list of arguments leaves behind.
-/

namespace ShiftReduce

/-- What arguments leave behind that spell no invocation. -/
def Refusal.outcome : Refusal → Outcome
  | usage => ⟨2, "", "<usage error>"⟩
  | version => ⟨0, "lrtable 0.1.0\n", ""⟩

/-- The readers of this library. -/
def Readers.standard : Readers where
  arguments arguments := (Invocation.ofArguments arguments).mapError Refusal.outcome
  json text := (Json.parse? text).elim (.error "<json error>") .ok
  settings text := (Settings.parse? text).elim (.error "<toml error>") .ok

/-- The writers of this library. The filter of the surroundings takes the place of the usual one. -/
def Writers.standard (surrounding : LogFilter) : Writers where
  pretty value := .ok value.pretty
  compact := Json.compact
  logger _ raised := {
    notice := ""
    shows := (raised.elim surrounding LogFilter.atLeast).shows
    line := LogRecord.line }

/-- What a list of arguments leaves behind, if the run that it asks for ends within `fuel` steps. -/
def execute? (fuel : Nat) (files : Files) (surrounding : LogFilter) (arguments : List String) :
    Option Outcome :=
  Readers.standard.outcome? (.standard surrounding) fuel files arguments

end ShiftReduce
