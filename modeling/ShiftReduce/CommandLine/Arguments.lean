import ShiftReduce.CommandLine.Invocation

/-!
# Arguments

How the command line spells what it asks for. Options that concern every command may stand in front
of the command or behind it, and the one behind it counts; each may be given once at either place.
An option that takes a value takes it behind an equals sign or as the next argument. Two dashes end
the options. This is a reader of arguments for the parameter `Readers`.

* `Invocation.ofArguments`: the invocation that a list of arguments spells.
-/

namespace ShiftReduce

/-- Why arguments spell no invocation. -/
inductive Refusal where
  /-- They are not as they should be. -/
  | usage
  /-- They ask for the version of the program. -/
  | version
deriving DecidableEq, Repr

namespace Arguments

/-! ## Options -/

/-- Where an argument stands. -/
inductive Level where
  /-- In front of the command. -/
  | program
  /-- Behind `parse`. -/
  | parse
  /-- Behind `conflicts`. -/
  | conflicts
deriving DecidableEq, Repr

/-- What is given at one level. -/
structure Given where
  /-- The value of `--output`. -/
  output : Option OutputFormat := none
  /-- Whether `--quiet` is there. -/
  quiet : Bool := false
  /-- Whether `--verbose` is there. -/
  verbose : Bool := false
  /-- The value of `--config`. -/
  config : Option String := none
  /-- The value of `--overrides`. -/
  overrides : Option String := none
  /-- Whether `--no-overrides` is there. -/
  noOverrides : Bool := false
  /-- Whether `--trace` is there. -/
  trace : Bool := false
  /-- The arguments that are no options. -/
  operands : List String := []
deriving DecidableEq, Repr

/-- The number of operands that a level has room for. -/
def Level.operandCount : Level → Nat
  | program => 0
  | parse => 2
  | conflicts => 1

/-- Whether a long option takes a value. -/
def takesValue (level : Level) (name : String) : Bool :=
  name == "output" || name == "config" || (level == .parse && name == "overrides")

/-- Adds an option without value, which must not be there yet. -/
def addFlag (level : Level) (name : String) (given : Given) : Except Refusal Given :=
  if name = "quiet" ∧ !given.quiet then .ok { given with quiet := true }
  else if name = "verbose" ∧ !given.verbose then .ok { given with verbose := true }
  else if level = .parse ∧ name = "no-overrides" ∧ !given.noOverrides then
    .ok { given with noOverrides := true }
  else if level = .parse ∧ name = "trace" ∧ !given.trace then .ok { given with trace := true }
  else if level = .program ∧ name = "version" then .error .version
  else .error .usage

/-- The format of a name. -/
def formatOf? : String → Option OutputFormat
  | "text" => some .text
  | "json" => some .json
  | _ => none

/-- Adds an option with its value, which must not be there yet. A path is not empty. -/
def addValue (name value : String) (given : Given) : Except Refusal Given :=
  if name = "output" ∧ given.output = none then
    match formatOf? value with
    | some format => .ok { given with output := some format }
    | none => .error .usage
  else if name = "config" ∧ given.config = none ∧ value ≠ "" then
    .ok { given with config := some value }
  else if name = "overrides" ∧ given.overrides = none ∧ value ≠ "" then
    .ok { given with overrides := some value }
  else .error .usage

/-- Adds the options of a group of letters. -/
def addLetters (level : Level) : List Char → Given → Except Refusal Given
  | [], given => .ok given
  | 'v' :: rest, given => do addLetters level rest (← addFlag level "verbose" given)
  | 'V' :: rest, given => do addLetters level rest (← addFlag level "version" given)
  | _ :: _, _ => .error .usage

/-- Adds an operand, if there is room for it. -/
def addOperand (level : Level) (value : String) (given : Given) : Except Refusal Given :=
  if given.operands.length < level.operandCount then
    .ok { given with operands := given.operands ++ [value] }
  else .error .usage

/-! ## Levels -/

/-- The kinds of arguments. -/
inductive Shape where
  /-- Two dashes, which end the options. -/
  | stop
  /-- A long option, with its value if there is an equals sign. -/
  | long (name : String) (value : Option String)
  /-- A group of letters. -/
  | letters (letters : List Char)
  /-- Anything else. -/
  | operand
deriving DecidableEq, Repr

/-- The kind of an argument. A single dash is an operand. -/
def shapeOf (argument : String) : Shape :=
  match argument.toList with
  | ['-', '-'] => .stop
  | '-' :: '-' :: rest =>
    let name := String.ofList (rest.takeWhile (· != '='))
    match rest.dropWhile (· != '=') with
    | [] => .long name none
    | _ :: value => .long name (some (String.ofList value))
  | '-' :: c :: rest => .letters (c :: rest)
  | _ => .operand

/-- The level behind a command. -/
def commandOf? : String → Option Level
  | "parse" => some .parse
  | "conflicts" => some .conflicts
  | _ => none

/-- Reads the arguments of a level. Returns what is given, and the command with the arguments
    behind it if there is one. -/
def readLevel (level : Level) (given : Given) :
    List String → Except Refusal (Given × Option (Level × List String))
  | [] => .ok (given, none)
  | argument :: rest =>
    match shapeOf argument with
    | .stop => do
      let given ← rest.foldlM (fun given value => addOperand level value given) given
      return (given, none)
    | .long name (some value) =>
      if takesValue level name then do readLevel level (← addValue name value given) rest
      else .error .usage
    | .long name none =>
      if takesValue level name then
        match rest with
        | [] => .error .usage
        | value :: rest =>
          if shapeOf value = .operand then do readLevel level (← addValue name value given) rest
          else .error .usage
      else do readLevel level (← addFlag level name given) rest
    | .letters letters => do readLevel level (← addLetters level letters given) rest
    | .operand =>
      if level = .program then
        match commandOf? argument with
        | some command => .ok (given, some (command, rest))
        | none => .error .usage
      else do readLevel level (← addOperand level argument given) rest

/-! ## Invocations -/

/-- The command of a level. The path of a table is not empty, and an override document cannot be
    given and ruled out at once. -/
def commandOf (level : Level) (given : Given) : Except Refusal Command := do
  match level, given.operands with
  | .parse, [table, input] =>
    if table = "" ∨ given.noOverrides ∧ given.overrides ≠ none then throw .usage
    return .parse table input given.overrides given.noOverrides given.trace
  | .conflicts, [table] =>
    if table = "" then throw .usage
    return .conflicts table
  | _, _ => throw .usage

end Arguments

/-- The invocation that a list of arguments spells. -/
def Invocation.ofArguments (arguments : List String) : Except Refusal Invocation := do
  let (outer, command) ← Arguments.readLevel .program {} arguments
  match command with
  | none => throw .usage
  | some (level, rest) =>
    let (inner, _) ← Arguments.readLevel level {} rest
    return {
      format := (inner.output <|> outer.output).getD .text
      quiet := outer.quiet || inner.quiet
      verbose := outer.verbose || inner.verbose
      config := inner.config <|> outer.config
      command := ← Arguments.commandOf level inner }

end ShiftReduce
