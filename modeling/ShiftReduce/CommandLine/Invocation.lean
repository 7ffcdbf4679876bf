/-!
# Invocations

What the program can be asked for, and what it leaves behind. There are two commands, `parse` and
`conflicts` (section 14 of the specification).

* `Invocation`: a command, with what is asked for whatever the command.
* `Outcome`: exit code and output.
-/

namespace ShiftReduce

/-- How results are printed. -/
inductive OutputFormat where
  /-- For people. -/
  | text
  /-- For programs. -/
  | json
deriving DecidableEq, Repr

/-- What the program is asked to do. -/
inductive Command where
  /-- Run the table at a path over an input. The path of an override document may be given as well,
      and `noOverrides` asks for none at all. -/
  | parse (table input : String) (overrides : Option String) (noOverrides trace : Bool)
  /-- List the conflicts of a table. -/
  | conflicts (table : String)
deriving DecidableEq, Repr

/-- A command with what is asked for whatever the command. -/
structure Invocation where
  /-- How results are printed. -/
  format : OutputFormat
  /-- Whether nothing is printed but log records. -/
  quiet : Bool
  /-- Whether every step is logged. -/
  verbose : Bool
  /-- The path of a configuration document, if one is given. -/
  config : Option String
  /-- The command. -/
  command : Command
deriving DecidableEq, Repr

/-- What the program leaves behind. -/
structure Outcome where
  /-- The exit code. -/
  exitCode : Nat
  /-- What was written to standard output. -/
  output : String
  /-- What was written to standard error. -/
  errors : String
deriving DecidableEq, Repr

end ShiftReduce
