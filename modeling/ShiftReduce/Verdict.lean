import ShiftReduce.Symbol

/-!
# Verdicts

How a run ends. The input is accepted, or it is rejected for a reason that lies in the input or in
a table entry, or the run stops because table and productions do not fit together (sections 6, 7
and 12 of the specification). The texts are those that the command line prints (section 14).
-/

namespace ShiftReduce

/-! ## Faults of the table -/

/-- A disagreement of the table, the productions and the stack after which a run cannot go on. A
    fault never speaks of a bad sentence. -/
inductive Fault where
  /-- A reduction names a rule that has no production. -/
  | missingProduction (rule : RuleId)
  /-- A reduction yields a symbol on which the exposed state has no transition. -/
  | missingGoto (state : StateId) (symbol : Symbol)
  /-- A reduction needs more stack elements than there are. -/
  | stackUnderflow (rule : RuleId) (needed available : Nat)
  /-- The tokens ran out before a verdict. -/
  | inputExhausted (position : Nat)
deriving DecidableEq, Repr

namespace Fault

/-- The stable name of the kind of fault. -/
def kind : Fault → String
  | missingProduction _ => "missing_production"
  | missingGoto _ _ => "missing_goto"
  | stackUnderflow _ _ _ => "stack_underflow"
  | inputExhausted _ => "input_exhausted"

/-- The fault in words. -/
def message : Fault → String
  | missingProduction rule => "production " ++ rule.text ++ " not found"
  | missingGoto state symbol => "no goto entry for '" ++ symbol ++ "' in state " ++ state.text
  | stackUnderflow rule needed available =>
    "stack underflow reducing by rule " ++ rule.text ++ ": need " ++ toString needed ++
      " elements, have " ++ toString available
  | inputExhausted position =>
    "input exhausted at position " ++ toString position ++ " without an end marker"

end Fault

/-! ## Rejections -/

/-- Why a run rejects its input. -/
inductive Rejection where
  /-- No entry for the token in the state. -/
  | syntaxError (state : StateId) (token : Symbol) (position : Nat)
  /-- The entry holds several candidate actions. -/
  | conflict (state : StateId) (token : Symbol)
  /-- The entry is of a known kind and cannot be executed. -/
  | malformedEntry (state : StateId) (token : Symbol) (actionType detail : String)
  /-- The entry is of a kind that is no action on a token. -/
  | unknownAction (state : StateId) (token : Symbol) (actionType : String)
deriving DecidableEq, Repr

namespace Rejection

/-- The stable name of the kind of rejection. -/
def kind : Rejection → String
  | syntaxError _ _ _ => "syntax_error"
  | conflict _ _ => "conflict"
  | malformedEntry _ _ _ _ => "malformed_entry"
  | unknownAction _ _ _ => "unknown_action"

/-- Whether the input is to blame rather than the table: a bad or an ambiguous sentence. -/
def isInputError : Rejection → Bool
  | syntaxError _ _ _ => true
  | conflict _ _ => true
  | malformedEntry _ _ _ _ => false
  | unknownAction _ _ _ => false

/-- The rejection in words. -/
def message : Rejection → String
  | syntaxError state token position =>
    "Syntax Error\nState: " ++ state.text ++ "\nUnexpected token: " ++ token ++
      "\nPosition: " ++ toString position
  | conflict state token => "Error: conflict in state " ++ state.text ++ " with token " ++ token
  | malformedEntry state token actionType detail =>
    "Error: " ++ actionType ++ " entry malformed (state " ++ state.text ++ ", token " ++ token ++
      "): " ++ detail
  | unknownAction state token actionType =>
    "Unknown action type: " ++ actionType ++ " (state " ++ state.text ++ ", token " ++ token ++ ")"

end Rejection

/-! ## Verdicts -/

/-- The end of a run. -/
inductive Verdict where
  /-- The input is a sentence. -/
  | accepted
  /-- The input is rejected. -/
  | rejected (reason : Rejection)
  /-- The run cannot go on. -/
  | fatal (fault : Fault)
deriving DecidableEq, Repr

namespace Verdict

/-- Whether the verdict accepts the input. -/
def isAccepted : Verdict → Bool
  | accepted => true
  | rejected _ => false
  | fatal _ => false

/-- The verdict in words. -/
def message : Verdict → String
  | accepted => "Input Accepted"
  | rejected reason => reason.message
  | fatal fault => "Internal error: " ++ fault.message

/-- The verdict as the last entry of a parsing history. -/
def label : Verdict → String
  | accepted => "accept"
  | rejected reason => "reject: " ++ reason.kind
  | fatal fault => "fatal: " ++ fault.kind

end Verdict

end ShiftReduce
