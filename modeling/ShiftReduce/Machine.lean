import ShiftReduce.Model
import ShiftReduce.Stack

/-!
# The automaton

A machine is one run of a model over one list of tokens. A step looks up what to do in the state
on top of the stack at the token under the cursor and does it: a shift consumes the token, a
reduction replaces the right side of a production on the stack by its left side. The first step
that can do neither settles the verdict, and from then on every step repeats it. This is the
executor of sections 4.2 and 12 of the specification.

* `Machine.start`: the machine before its first step.
* `Machine.step`: one step, with the machine after it and what happened.
* `Machine.run?`: the verdict, if it is settled within a number of steps.
* `Machine.progress`: the tokens with a mark at the cursor.
-/

namespace ShiftReduce

/-! ## Steps -/

/-- A step that keeps the run going. -/
inductive Transition where
  /-- A token was consumed. -/
  | shift (state : StateId) (token : Symbol) (destination : StateId) (source : Source)
  /-- A right side was replaced. `popped` counts the stack elements that went, two for each
      symbol. -/
  | reduce (state : StateId) (rule : RuleId) (lhs : Symbol) (popped : Nat) (goto : StateId)
      (source : Source)
deriving DecidableEq, Repr

namespace Transition

/-- The table that the executed action came from. -/
def source : Transition → Source
  | shift _ _ _ source => source
  | reduce _ _ _ _ _ source => source

/-- The transition in words, with a note if its action came from the override table. -/
def text (t : Transition) : String :=
  let what :=
    match t with
    | shift _ token destination _ => "shift '" ++ token ++ "', go to state " ++ destination.text
    | reduce _ rule lhs _ goto _ =>
      "reduce by rule " ++ rule.text ++ " (" ++ lhs ++ "), go to state " ++ goto.text
  match t.source with
  | .primary => what
  | .override => what ++ " [override]"

end Transition

/-- What a step came to. -/
inductive Step where
  /-- The run goes on. -/
  | next (transition : Transition)
  /-- The run has ended. -/
  | halt (verdict : Verdict)
deriving DecidableEq, Repr

/-! ## Machines -/

/-- One run of a model over one list of tokens. -/
structure Machine where
  /-- The tables and productions that the run consults. -/
  model : Model
  /-- The whole input. Nothing is added to it; an end marker is a token like any other. -/
  tokens : List Symbol
  /-- Whether override entries are in force. -/
  useOverrides : Bool := true
  /-- The parser stack. -/
  stack : Stack
  /-- The number of tokens consumed so far. -/
  cursor : Nat := 0
  /-- The verdict, once it is settled. -/
  verdict : Option Verdict := none
deriving DecidableEq

namespace Machine

/-- The machine before its first step: the start state alone on the stack, the cursor at the first
    token and overrides in force. -/
def start (model : Model) (tokens : List Symbol) : Machine :=
  { model, tokens, stack := Stack.initial model.startState }

/-- The same machine with overrides switched on or off. -/
def setOverrides (m : Machine) (enabled : Bool) : Machine := { m with useOverrides := enabled }

/-- The state on top of the stack. -/
def state (m : Machine) : StateId := m.stack.top

/-- The token under the cursor, if any is left. -/
def lookahead (m : Machine) : Option Symbol := m.tokens[m.cursor]?

/-- Settles the verdict. -/
def halt (m : Machine) (verdict : Verdict) : Machine × Step :=
  ({ m with verdict := some verdict }, .halt verdict)

/-- Consumes `token` and goes to `destination`. -/
def shift (m : Machine) (token : Symbol) (destination : StateId) (source : Source) :
    Machine × Step :=
  ({ m with stack := m.stack.push token destination, cursor := m.cursor + 1 },
    .next (.shift m.state token destination source))

/-- Reduces by `rule`, by the reduce procedure of section 4.2: takes as many pairs off the stack as
    the production has symbols on its right, and goes from the exposed state on the symbol on its
    left. The symbols that are taken off are not compared with those of the production. A missing
    transition leaves the stack without the pairs. -/
def reduce (m : Machine) (rule : RuleId) (source : Source) : Machine × Step :=
  match m.model.lookupProduction rule with
  | .error fault => m.halt (.fatal fault)
  | .ok production =>
    match m.stack.pop? production.arity with
    | none => m.halt (.fatal (.stackUnderflow rule (2 * production.arity + 1) m.stack.size))
    | some exposed =>
      match m.model.lookupGoto exposed.top production.lhs with
      | .error fault => { m with stack := exposed }.halt (.fatal fault)
      | .ok goto =>
        ({ m with stack := exposed.push production.lhs goto },
          .next (.reduce m.state rule production.lhs (2 * production.arity) goto source))

/-- Does what `action` says at `token`. -/
def perform (m : Machine) (token : Symbol) (action : Action) (source : Source) : Machine × Step :=
  match action with
  | .shift destination => m.shift token destination source
  | .mergedShift destination => m.shift token destination source
  | .reduce rule => m.reduce rule source
  | .mergedReduce rule => m.reduce rule source
  | .accept => m.halt .accepted
  | .malformed actionType detail =>
    m.halt (.rejected (.malformedEntry m.state token actionType detail))
  | .goto destination =>
    m.halt (.rejected (.unknownAction m.state token (Action.goto destination).kind))
  | .unknown actionType => m.halt (.rejected (.unknownAction m.state token actionType))

/-- Looks up what to do at `token` and does it, by the step procedure of section 4.2. -/
def consult (m : Machine) (token : Symbol) : Machine × Step :=
  match m.model.lookupAction m.state token m.useOverrides with
  | .found action source => m.perform token action source
  | .notFound => m.halt (.rejected (.syntaxError m.state token m.cursor))
  | .conflict _ => m.halt (.rejected (.conflict m.state token))
  | .unresolvedOverride candidates =>
    m.halt (.rejected (.malformedEntry m.state token "override"
      ("override cell holds " ++ toString candidates.length ++ " candidate actions")))

/-- One step (`step` of section 12). A settled verdict is repeated and changes nothing. -/
def step (m : Machine) : Machine × Step :=
  match m.verdict with
  | some verdict => (m, .halt verdict)
  | none =>
    match m.lookahead with
    | none => m.halt (.fatal (.inputExhausted m.cursor))
    | some token => m.consult token

/-! ## Runs -/

/-- The verdict of the run (`run` of section 12), if it is settled within `fuel` steps. A run need
    not end, since reductions can go round in circles. -/
def run? : (fuel : Nat) → Machine → Option Verdict
  | 0, _ => none
  | fuel + 1, m =>
    match m.step with
    | (_, .halt verdict) => some verdict
    | (m', .next _) => run? fuel m'

/-- Whether the action that is next is to accept. -/
def acceptsNext (m : Machine) : Bool :=
  match m.lookahead with
  | none => false
  | some token =>
    match m.model.lookupAction m.state token m.useOverrides with
    | .found .accept _ => true
    | _ => false

/-- The tokens with a mark in front of the one under the cursor, or behind it if the action that
    is next is to accept (`progress` of section 12). -/
def progress (m : Machine) : String :=
  let mark := if m.acceptsNext then m.cursor + 1 else m.cursor
  " ".intercalate (m.tokens.take mark ++ "•" :: m.tokens.drop mark)

end Machine

end ShiftReduce
