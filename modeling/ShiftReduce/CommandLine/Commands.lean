import ShiftReduce.CommandLine.Libraries
import ShiftReduce.Document
import ShiftReduce.Files
import ShiftReduce.Report
import ShiftReduce.Text.Words

/-!
# Commands

What the program does with an invocation, as a function of the files that it finds (section 14 of
the specification). A command comes to an ending, and the ending alone decides the exit code; how
much of it is printed, and in which form, is a separate matter. Readers and writers are parameters.

* `Invocation.episode?`: the log records and the ending of an invocation.
* `Ending.exitCode`: 0 for success, 2 for a fault of the table, 1 for anything else.
* `Readers.outcome?`: exit code, standard output and standard error for a list of arguments.
-/

namespace ShiftReduce

/-! ## Failures -/

/-- The documents that a command reads. -/
inductive DocumentRole where
  /-- A table document. -/
  | table
  /-- An override document. -/
  | override
deriving DecidableEq, Repr

/-- The role in words. -/
def DocumentRole.text : DocumentRole → String
  | table => "table"
  | override => "override"

/-- Why a command does not get to its work. -/
inductive Failure where
  /-- The configuration document cannot be read. -/
  | unreadableConfig (path : String) (fault : ReadFault)
  /-- The text of the configuration document is not valid. -/
  | invalidConfig (path reason : String)
  /-- A document cannot be read. -/
  | unreadable (role : DocumentRole) (path : String) (fault : ReadFault)
  /-- A document is not valid JSON. -/
  | invalidJson (path reason : String)
  /-- A document does not hold what it should. -/
  | invalidDocument (role : DocumentRole) (path : String) (error : DocumentError)
deriving DecidableEq, Repr

/-- The failure in words. -/
def Failure.message : Failure → String
  | unreadableConfig path fault =>
    "config error: could not read '" ++ path ++ "': " ++ fault.message
  | invalidConfig path reason => "config error: could not parse '" ++ path ++ "': " ++ reason
  | unreadable role path fault =>
    "error: " ++ role.text ++ " file '" ++ path ++ "': " ++ fault.message
  | invalidJson path reason => "error: invalid JSON in " ++ path ++ ": " ++ reason
  | invalidDocument role path error =>
    "error: invalid " ++ role.text ++ " document " ++ path ++ ": " ++ error.message

/-! ## Endings -/

/-- What a command comes to. -/
inductive Ending where
  /-- It did not get to its work. -/
  | failed (failure : Failure)
  /-- A run came to a verdict, perhaps with its history. -/
  | judged (verdict : Verdict) (trace : Option Trace)
  /-- The conflicts of a table were listed. -/
  | listed (conflicts : List Conflict)
deriving DecidableEq, Repr

namespace Ending

/-- The exit code of the program. -/
def exitCode : Ending → Nat
  | failed _ => 1
  | judged .accepted _ => 0
  | judged (.rejected _) _ => 1
  | judged (.fatal _) _ => 2
  | listed [] => 0
  | listed (_ :: _) => 1

/-- A conflict as a line. -/
def conflictLine (conflict : Conflict) : String :=
  "  state " ++ conflict.site.state.text ++ ", symbol '" ++ conflict.site.symbol ++ "': " ++
    " | ".intercalate (conflict.candidates.map Action.text) ++ "\n"

/-- The text of a verdict that is written as JSON, or a word about why it cannot be. -/
def textOrReason : Except String String → String
  | .ok text => text
  | .error reason => "serialization error: " ++ reason

/-- What goes to standard output. -/
def report (w : Writers) (format : OutputFormat) : Ending → String
  | failed _ => ""
  | judged verdict trace =>
    match format with
    | .json =>
      let report := verdict.toJson
      textOrReason (w.pretty (trace.elim report fun t => report.setMember "trace" t.toJson)) ++ "\n"
    | .text =>
      trace.elim "" Trace.text ++
        match verdict with
        | .fatal _ => ""
        | verdict => verdict.message ++ "\n"
  | listed conflicts =>
    match format with
    | .json =>
      let report := Json.object [("conflicts", .array (conflicts.map Conflict.toJson))]
      (w.pretty report).toOption.getD "" ++ "\n"
    | .text =>
      match conflicts with
      | [] => "no conflicts\n"
      | conflicts =>
        toString conflicts.length ++ " conflict(s):\n" ++
          String.join (conflicts.map conflictLine)

/-- What goes to standard error. -/
def complaint (w : Writers) (format : OutputFormat) : Ending → String
  | failed failure =>
    match format with
    | .text => failure.message ++ "\n"
    | .json => w.compact (.object [("error", .string failure.message)]) ++ "\n"
  | judged (.fatal fault) _ =>
    match format with
    | .text => (Verdict.fatal fault).message ++ "\n"
    | .json => ""
  | judged _ _ => ""
  | listed _ => ""

end Ending

/-- The log records of a command and what it came to. -/
structure Episode where
  /-- The records, first one first. -/
  records : List LogRecord
  /-- What the command came to. -/
  ending : Ending
deriving DecidableEq, Repr

/-! ## Documents -/

/-- Where a configuration document is looked for when none is given. -/
def defaultConfig : String := "lrtable.toml"

section Loading

variable (r : Readers) (files : Files)

/-- The settings in the configuration document at a path. -/
def readSettings (path : String) : Except Failure Settings :=
  match files.read path with
  | .error fault => .error (.unreadableConfig path fault)
  | .ok text => (r.settings text).mapError (.invalidConfig path)

/-- The settings in force. A document that is given has to be there; the usual one may be
    missing. -/
def loadSettings (config : Option String) : Except Failure Settings :=
  match config with
  | some path => readSettings r files path
  | none => if files.present defaultConfig then readSettings r files defaultConfig else .ok {}

/-- The JSON value at a path. -/
def readJson (role : DocumentRole) (path : String) : Except Failure Json :=
  match files.read path with
  | .error fault => .error (.unreadable role path fault)
  | .ok text => (r.json text).mapError (.invalidJson path)

/-- The model in the table document at a path. -/
def loadModel (path : String) : Except Failure Model := do
  (Document.model (← readJson r files .table path)).mapError (.invalidDocument .table path)

/-- The table in the override document at a path. -/
def loadOverrides (path : String) : Except Failure Table := do
  (Document.overrides (← readJson r files .override path)).mapError
    (.invalidDocument .override path)

end Loading

/-- The record of a table document that was loaded. -/
def loadedRecord (path : String) (model : Model) : LogRecord :=
  ⟨.debug, "lrtable::commands", "loaded " ++ toString model.table.size ++ " cells and " ++
    toString model.productions.size ++ " productions from " ++ path⟩

/-- The record of an override document that was loaded. -/
def appliedRecord (path : String) (overrides : Table) : LogRecord :=
  ⟨.debug, "lrtable::commands::parse", "applying " ++ toString overrides.size ++
    " override cells from " ++ path⟩

/-! ## Commands -/

/-- The words of an input and the end marker behind them. -/
def tokenize (input : String) (endMarker : Symbol) : List Symbol := words input ++ [endMarker]

/-- The path of the override document that a run uses, if any: the one that is given, or else the
    one that the settings name, unless none at all is asked for. -/
def overridePath? (settings : Settings) (overrides : Option String) (noOverrides : Bool) :
    Option String :=
  if noOverrides then none else overrides <|> settings.overrides

/-- A model with the overrides at a path, and the record of it. -/
def applyOverrides (r : Readers) (files : Files) (path : Option String) (model : Model) :
    Except Failure (Model × List LogRecord) :=
  match path with
  | none => .ok (model, [])
  | some path => do
    let overrides ← loadOverrides r files path
    return (model.withOverrides overrides, [appliedRecord path overrides])

/-- Runs a machine to its verdict, if it is settled within `fuel` steps. -/
def judge (fuel : Nat) (m : Machine) (trace : Bool) : Option Ending :=
  if trace then (m.runTraced? fuel).map (fun (verdict, trace) => .judged verdict (some trace))
  else (m.run? fuel).map (fun verdict => .judged verdict none)

/-- The command `parse`, with the override document at a path or none, if its run ends within `fuel`
    steps. -/
def parseEpisode? (r : Readers) (fuel : Nat) (files : Files) (settings : Settings)
    (table input : String) (overrides : Option String) (trace : Bool) : Option Episode :=
  match loadModel r files table with
  | .error failure => some ⟨[], .failed failure⟩
  | .ok model =>
    let loaded := [loadedRecord table model]
    let model := model.withStartState settings.effectiveStartState
    match applyOverrides r files overrides model with
    | .error failure => some ⟨loaded, .failed failure⟩
    | .ok (model, applied) =>
      let m := Machine.start model (tokenize input settings.effectiveEndMarker)
      (judge fuel m trace).map (fun ending => ⟨loaded ++ applied ++ m.runRecords fuel, ending⟩)

/-- The command `conflicts`. -/
def conflictsEpisode (r : Readers) (files : Files) (table : String) : Episode :=
  match loadModel r files table with
  | .error failure => ⟨[], .failed failure⟩
  | .ok model => ⟨[loadedRecord table model], .listed model.conflicts⟩

namespace Invocation

/-- The log records and the ending of an invocation, if its run ends within `fuel` steps. -/
def episode? (r : Readers) (fuel : Nat) (files : Files) (invocation : Invocation) :
    Option Episode :=
  match loadSettings r files invocation.config with
  | .error failure => some ⟨[], .failed failure⟩
  | .ok settings =>
    match invocation.command with
    | .parse table input overrides noOverrides trace =>
      parseEpisode? r fuel files settings table input
        (overridePath? settings overrides noOverrides) trace
    | .conflicts table => some (conflictsEpisode r files table)

/-- The paths that an invocation may read, apart from the configuration document. -/
def documentPaths (invocation : Invocation) (settings : Settings) : List String :=
  match invocation.command with
  | .parse table _ overrides noOverrides _ =>
    table :: (overridePath? settings overrides noOverrides).toList
  | .conflicts table => [table]

/-! ## Outcomes -/

/-- The logger of an invocation. Warnings are shown if nobody asks for anything else, and every step
    if the invocation does. -/
def logger (w : Writers) (invocation : Invocation) : Logger :=
  w.logger .warn (if invocation.verbose then some .debug else none)

/-- What an episode leaves behind. Only log records are printed when quiet is asked for. -/
def present (w : Writers) (invocation : Invocation) (episode : Episode) : Outcome where
  exitCode := episode.ending.exitCode
  output := if invocation.quiet then "" else episode.ending.report w invocation.format
  errors := (invocation.logger w).text episode.records ++
    if invocation.quiet then "" else episode.ending.complaint w invocation.format

end Invocation

/-- What a list of arguments leaves behind, if the run that it asks for ends within `fuel` steps. -/
def Readers.outcome? (r : Readers) (w : Writers) (fuel : Nat) (files : Files)
    (arguments : List String) : Option Outcome :=
  match r.arguments arguments with
  | .error outcome => some outcome
  | .ok invocation => (invocation.episode? r fuel files).map (invocation.present w)

end ShiftReduce
