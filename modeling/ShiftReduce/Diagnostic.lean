import ShiftReduce.Text.Quoted
import ShiftReduce.Verdict

/-!
# Diagnostic forms

A verdict as a term, for log lines: the constructors with their fields by name, and every text in
quotes.
-/

namespace ShiftReduce

/-- A constructor with named fields. -/
def recordText (name : String) (fields : List (String × String)) : String :=
  name ++ " \x7b " ++ ", ".intercalate (fields.map (fun (key, value) => key ++ ": " ++ value)) ++
    " \x7d"

/-- A state as a term. -/
def StateId.diagnostic (s : StateId) : String := "StateId(" ++ quoted s.text ++ ")"

/-- A rule as a term. -/
def RuleId.diagnostic (r : RuleId) : String := "RuleId(" ++ quoted r.text ++ ")"

/-- A fault as a term. -/
def Fault.diagnostic : Fault → String
  | .missingProduction rule => recordText "MissingProduction" [("rule", rule.diagnostic)]
  | .missingGoto state symbol =>
    recordText "MissingGoto" [("state", state.diagnostic), ("symbol", quoted symbol)]
  | .stackUnderflow rule needed available =>
    recordText "StackUnderflow" [("rule", rule.diagnostic), ("needed", toString needed),
      ("available", toString available)]
  | .inputExhausted position => recordText "InputExhausted" [("position", toString position)]

/-- A rejection as a term. -/
def Rejection.diagnostic : Rejection → String
  | .syntaxError state token position =>
    recordText "SyntaxError" [("state", state.diagnostic), ("token", quoted token),
      ("position", toString position)]
  | .conflict state token =>
    recordText "Conflict" [("state", state.diagnostic), ("token", quoted token)]
  | .malformedEntry state token actionType detail =>
    recordText "MalformedEntry" [("state", state.diagnostic), ("token", quoted token),
      ("action_type", quoted actionType), ("detail", quoted detail)]
  | .unknownAction state token actionType =>
    recordText "UnknownAction" [("state", state.diagnostic), ("token", quoted token),
      ("action_type", quoted actionType)]

/-- A verdict as a term. -/
def Verdict.diagnostic : Verdict → String
  | .accepted => "Accepted"
  | .rejected reason => "Rejected(" ++ reason.diagnostic ++ ")"
  | .fatal fault => "Fatal(" ++ fault.diagnostic ++ ")"

end ShiftReduce
