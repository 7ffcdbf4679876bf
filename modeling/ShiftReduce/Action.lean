import ShiftReduce.Symbol

/-!
# Actions and cells

The entries of a parse table. A cell holds one action, or the list of candidate actions of an
unresolved conflict. Table documents may hold entries that no automaton can execute; they are kept
as `malformed` and `unknown` actions, and matter only to a run that reaches them. These are the
table entries of sections 3 and 11 of the specification.
-/

namespace ShiftReduce

/-- What the automaton is told to do in a state at a symbol. -/
inductive Action where
  /-- Consume the token and go to `destination`. -/
  | shift (destination : StateId)
  /-- Replace the right side of `rule` on the stack by its left side. -/
  | reduce (rule : RuleId)
  /-- A merged entry that holds a destination, and so is a shift. -/
  | mergedShift (destination : StateId)
  /-- A merged entry that holds a rule, and so is a reduction. -/
  | mergedReduce (rule : RuleId)
  /-- The transition on a nonterminal after a reduction. -/
  | goto (destination : StateId)
  /-- The input is a sentence. -/
  | accept
  /-- An action of a known kind whose payload is missing or unusable. -/
  | malformed (actionType detail : String)
  /-- An action of a kind that the automaton does not know. -/
  | unknown (actionType : String)
deriving DecidableEq, Repr

namespace Action

/-- The name of the action's kind in table documents. -/
def kind : Action → String
  | shift _ => "shift"
  | reduce _ => "reduce"
  | mergedShift _ => "shift_reduce"
  | mergedReduce _ => "shift_reduce"
  | goto _ => "goto"
  | accept => "accept"
  | malformed actionType _ => actionType
  | unknown actionType => actionType

/-- The short form in which tables are commonly printed. -/
def text : Action → String
  | shift destination => "s" ++ destination.text
  | reduce rule => "r" ++ rule.text
  | mergedShift destination => "sr:s" ++ destination.text
  | mergedReduce rule => "sr:r" ++ rule.text
  | goto destination => "g" ++ destination.text
  | accept => "acc"
  | malformed actionType _ => "malformed " ++ actionType
  | unknown actionType => "?" ++ actionType

end Action

/-- The content of one place of a parse table. -/
inductive Cell where
  /-- A single action. -/
  | single (action : Action)
  /-- Several admissible actions, of which none is ever applied on its own account. -/
  | conflict (candidates : List Action)
deriving DecidableEq, Repr

end ShiftReduce
