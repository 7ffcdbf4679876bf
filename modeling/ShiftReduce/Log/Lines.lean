import ShiftReduce.Log
import ShiftReduce.Text.Plain

/-!
# Lines of log records

How log records look when they are shown, and which of them are. This is a logger for the parameter
`Writers`.

* `LogRecord.line`: a record as a line.
* `LogFilter.shows`: whether a record is shown.
-/

namespace ShiftReduce

/-! ## Lines -/

namespace LogLevel

/-- The weight of a level; more weight matters more. -/
def weight : LogLevel → Nat
  | trace => 1
  | debug => 2
  | info => 3
  | warn => 4
  | error => 5

/-- The name of a level, filled up to five characters. -/
def tag : LogLevel → String
  | trace => "TRACE"
  | debug => "DEBUG"
  | info => "INFO "
  | warn => "WARN "
  | error => "ERROR"

end LogLevel

namespace LogRecord

/-- The message with every line after the first one indented. -/
def indented (message : String) : String :=
  String.ofList (message.toList.flatMap fun c => if c == '\n' then "\n    ".toList else [c])

/-- The record as a line, with its line feed. Control sequences are left out. -/
def line (record : LogRecord) : String :=
  plain ("[" ++ record.level.tag ++ " " ++ record.target ++ "] " ++ indented record.message ++ "\n")

end LogRecord

/-! ## Filters -/

/-- Which records are shown: those of a level at least, or none. -/
inductive LogFilter where
  /-- No records. -/
  | off
  /-- The records of this level or above. -/
  | atLeast (level : LogLevel)
deriving DecidableEq, Repr

namespace LogFilter

/-- The filter that applies when nothing else is asked for. -/
def standard : LogFilter := .atLeast .warn

/-- The filter of a name. -/
def ofName? : String → Option LogFilter
  | "trace" => some (.atLeast .trace)
  | "debug" => some (.atLeast .debug)
  | "info" => some (.atLeast .info)
  | "warn" => some (.atLeast .warn)
  | "error" => some (.atLeast .error)
  | "off" => some .off
  | _ => none

/-- Whether a record is shown. -/
def shows (filter : LogFilter) (record : LogRecord) : Bool :=
  match filter with
  | .off => false
  | .atLeast level => level.weight ≤ record.level.weight

end LogFilter

end ShiftReduce
