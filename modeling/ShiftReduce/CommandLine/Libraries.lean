import ShiftReduce.CommandLine.Invocation
import ShiftReduce.Json
import ShiftReduce.Log
import ShiftReduce.Settings

/-!
# What the program leaves to libraries

The program does not read the command line, JSON or TOML itself, and it does not decide how JSON and
log records are written. Whatever does it for the program is a parameter here. Those who read decide
what arguments and texts mean. Those who write decide only what the results look like.

* `Readers`: what arguments, table documents and configuration documents say.
* `Logger`, `Writers`: how JSON and log records look.
-/

namespace ShiftReduce

/-- Readers of the texts that the program is given. -/
structure Readers where
  /-- The invocation that arguments spell. Arguments that spell none are dealt with on the spot, and
      the outcome is what is left behind then. -/
  arguments (arguments : List String) : Except Outcome Invocation
  /-- The value of a JSON text, or what is wrong with the text. -/
  json (text : String) : Except String Json
  /-- The settings in the text of a configuration document, or what is wrong with it. -/
  settings (text : String) : Except String Settings

/-- How log records are shown. -/
structure Logger where
  /-- What the logger has to say on its own account when it is set up. -/
  notice : String
  /-- Whether a record is shown. -/
  shows (record : LogRecord) : Bool
  /-- What is shown of a record. -/
  line (record : LogRecord) : String

/-- What a logger writes when it is set up and given records. -/
def Logger.text (logger : Logger) (records : List LogRecord) : String :=
  logger.notice ++ String.join ((records.filter logger.shows).map logger.line)

/-- Writers of what the program puts out. -/
structure Writers where
  /-- A JSON value over several lines, or why it cannot be written. -/
  pretty (value : Json) : Except String String
  /-- A JSON value on one line. -/
  compact (value : Json) : String
  /-- The logger that is set up. Records of the level `usual` or above are shown if nobody asks for
      anything else, and those of the level `raised` or above are shown if it is given. -/
  logger (usual : LogLevel) (raised : Option LogLevel) : Logger

end ShiftReduce
