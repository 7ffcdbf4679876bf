import ShiftReduce.Diagnostic
import ShiftReduce.Machine

/-!
# Log records

What a run tells about itself while it goes on (section 15 of the specification). Every step is
announced with the state and the token it starts from, and then with what it did. Which records are
shown, and how they look, is not decided here.

* `Machine.stepRecords`: the records of one step.
* `Machine.runRecords`: the records of a run up to its verdict.
-/

namespace ShiftReduce

/-! ## Records -/

/-- How much a record matters. -/
inductive LogLevel where
  /-- Every detail. -/
  | trace
  /-- What was done. -/
  | debug
  /-- What was achieved. -/
  | info
  /-- What may be wrong. -/
  | warn
  /-- What is wrong. -/
  | error
deriving DecidableEq, Repr

/-- A message with its weight and the part of the program that it comes from. -/
structure LogRecord where
  /-- How much it matters. -/
  level : LogLevel
  /-- Where it comes from. -/
  target : String
  /-- What it says. -/
  message : String
deriving DecidableEq, Repr

/-! ## Records of a run -/

namespace Machine

/-- Where the records of a run come from. -/
def logTarget : String := "lrtable::executor"

/-- A record of what a step did. -/
def debugRecord (message : String) : LogRecord := ⟨.debug, logTarget, message⟩

/-- The record of the state and the token that a step starts from, if there is a token. -/
def openingRecords (m : Machine) : List LogRecord :=
  match m.lookahead with
  | none => []
  | some token =>
    [⟨.trace, logTarget, "state " ++ m.state.text ++ " lookahead '" ++ token ++ "' at " ++
      toString m.cursor⟩]

/-- A reduction as it is announced, with its production in full. -/
def reductionMessage (m : Machine) (rule : RuleId) (goto : StateId) : String :=
  let production :=
    match m.model.lookupProduction rule with
    | .ok production => production.text
    | .error _ => rule.text
  "reduce [" ++ production ++ "], go to state " ++ goto.text

/-- The record of what a step did. -/
def closingRecord (m : Machine) : Step → LogRecord
  | .next (.shift _ token destination _) =>
    debugRecord ("shift '" ++ token ++ "', go to state " ++ destination.text)
  | .next (.reduce _ rule _ _ goto _) => debugRecord (m.reductionMessage rule goto)
  | .halt verdict => debugRecord ("halt: " ++ verdict.diagnostic)

/-- The records of the step that `m` is about to make. A settled verdict is repeated in silence. -/
def stepRecords (m : Machine) : List LogRecord :=
  match m.verdict with
  | some _ => []
  | none => m.openingRecords ++ [m.closingRecord m.step.2]

/-- The records of the first `fuel` steps of a run, up to its verdict. -/
def runRecords : (fuel : Nat) → Machine → List LogRecord
  | 0, _ => []
  | fuel + 1, m =>
    match m.step with
    | (_, .halt _) => m.stepRecords
    | (m', .next _) => m.stepRecords ++ runRecords fuel m'

end Machine

end ShiftReduce
