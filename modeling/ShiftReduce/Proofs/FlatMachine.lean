import ShiftReduce.Proofs.Session

/-!
# The automaton with a flat stack

The reference automaton. Its stack is a flat list of states and symbols, bottom first, and nothing
in its shape keeps them in turn. A step asks the tables about the last item and the token under the
cursor, and a reduction by a rule with `n` symbols on its right cuts off `2 * n` items. If an item
that has to be a state is none, the automaton is stuck.

* `FlatMachine.step?`: one step, with the automaton after it and what happened.
* `FlatMachine.session?`: a sequence of operations of a caller.
* `FlatMachine.Settles`: for every verdict, what the stack, the cursor and the tables have to be
  like for a step to settle it.
-/

namespace ShiftReduce

/-- One run of a model over one list of tokens, on a flat stack. -/
structure FlatMachine where
  /-- The tables and productions that the run consults. -/
  model : Model
  /-- The whole input. -/
  tokens : List Symbol
  /-- Whether override entries are in force. -/
  useOverrides : Bool := true
  /-- The stack from bottom to top. -/
  items : List StackItem
  /-- The number of tokens consumed so far. -/
  cursor : Nat := 0
  /-- The verdict, once it is settled. -/
  verdict : Option Verdict := none
deriving DecidableEq

namespace FlatMachine

/-! ## Stack and tables -/

/-- The automaton before its first step. -/
def start (model : Model) (tokens : List Symbol) : FlatMachine :=
  { model, tokens, items := [.state model.startState] }

/-- The last of `items`, if it is a state. -/
def topState? (items : List StackItem) : Option StateId :=
  match items.getLast? with
  | some (.state s) => some s
  | _ => none

/-- What is left of the stack when the right side of `production` is cut off. -/
def cut (f : FlatMachine) (production : Production) : List StackItem :=
  f.items.take (f.items.length - 2 * production.rhs.length)

/-- The cell for `s` at `X` and the table that has it. The override table is asked first, if
    overrides are in force. -/
def cell? (f : FlatMachine) (s : StateId) (X : Symbol) : Option (Cell × Source) :=
  let overriding := if f.useOverrides then f.model.overrides.bind (·.get? s X) else none
  let primary := f.model.table.get? s X
  (overriding.map (·, .override)).or (primary.map (·, .primary))

/-- The transition out of `s` on `A` after a reduction. The override table has no say in it. -/
def goto? (f : FlatMachine) (s : StateId) (A : Symbol) : Option StateId :=
  match f.model.table.get? s A with
  | some (.single (.goto d)) => some d
  | some (.single (.shift d)) => some d
  | _ => none

/-! ## Steps -/

/-- Settles the verdict. -/
def halt (f : FlatMachine) (v : Verdict) : FlatMachine × Step :=
  ({ f with verdict := some v }, .halt v)

/-- Puts the token `X` and the state `d` onto the stack and advances the cursor. -/
def shift (f : FlatMachine) (s : StateId) (X : Symbol) (d : StateId) (source : Source) :
    FlatMachine × Step :=
  ({ f with items := f.items ++ [.symbol X, .state d], cursor := f.cursor + 1 },
    .next (.shift s X d source))

/-- Cuts off the right side of the production of `rule`, and puts its left side and the transition
    on it onto the stack. The stack has to keep one item at least. -/
def reduce? (f : FlatMachine) (s : StateId) (rule : RuleId) (source : Source) :
    Option (FlatMachine × Step) :=
  match f.model.productions.get? rule with
  | none => some (f.halt (.fatal (.missingProduction rule)))
  | some production =>
    let count := 2 * production.rhs.length
    if f.items.length ≤ count then
      some (f.halt (.fatal (.stackUnderflow rule (count + 1) f.items.length)))
    else
      match topState? (f.cut production) with
      | none => none
      | some exposed =>
        match f.goto? exposed production.lhs with
        | none =>
          some ({ f with items := f.cut production }.halt
            (.fatal (.missingGoto exposed production.lhs)))
        | some d =>
          some ({ f with items := f.cut production ++ [.symbol production.lhs, .state d] },
            .next (.reduce s rule production.lhs count d source))

/-- Does what `action` says in the state `s` at the token `X`. -/
def execute? (f : FlatMachine) (s : StateId) (X : Symbol) (action : Action) (source : Source) :
    Option (FlatMachine × Step) :=
  match action with
  | .shift d => some (f.shift s X d source)
  | .mergedShift d => some (f.shift s X d source)
  | .reduce rule => f.reduce? s rule source
  | .mergedReduce rule => f.reduce? s rule source
  | .accept => some (f.halt .accepted)
  | .malformed actionType detail =>
    some (f.halt (.rejected (.malformedEntry s X actionType detail)))
  | .goto _ => some (f.halt (.rejected (.unknownAction s X "goto")))
  | .unknown actionType => some (f.halt (.rejected (.unknownAction s X actionType)))

/-- The text about an override cell with several candidates. -/
def unresolvedText (candidates : List Action) : String :=
  "override cell holds " ++ toString candidates.length ++ " candidate actions"

/-- Looks up what to do in the state `s` at the token `X` and does it. -/
def consult? (f : FlatMachine) (s : StateId) (X : Symbol) : Option (FlatMachine × Step) :=
  match f.cell? s X with
  | none => some (f.halt (.rejected (.syntaxError s X f.cursor)))
  | some (.conflict _, .primary) => some (f.halt (.rejected (.conflict s X)))
  | some (.conflict candidates, .override) =>
    some (f.halt (.rejected (.malformedEntry s X "override" (unresolvedText candidates))))
  | some (.single action, source) => f.execute? s X action source

/-- One step, if the automaton is not stuck. A settled verdict is repeated. -/
def step? (f : FlatMachine) : Option (FlatMachine × Step) :=
  match f.verdict with
  | some v => some (f, .halt v)
  | none =>
    match f.tokens[f.cursor]? with
    | none => some (f.halt (.fatal (.inputExhausted f.cursor)))
    | some X =>
      match topState? f.items with
      | none => none
      | some s => f.consult? s X

/-- The automaton after a sequence of operations and what its steps came to, if it is never
    stuck. -/
def session? : FlatMachine → List Operation → Option (FlatMachine × List Step)
  | f, [] => some (f, [])
  | f, .switch enabled :: ops => { f with useOverrides := enabled }.session? ops
  | f, .step :: ops => do
    let (f, outcome) ← f.step?
    let (f, outcomes) ← f.session? ops
    return (f, outcome :: outcomes)

/-! ## Conditions of the verdicts -/

/-- `s` is on top and `X` is under the cursor. -/
def At (f : FlatMachine) (s : StateId) (X : Symbol) : Prop :=
  topState? f.items = some s ∧ f.tokens[f.cursor]? = some X

/-- Overrides are in force, and the override table has `cell` for `s` at `X`. -/
def Overrides (f : FlatMachine) (s : StateId) (X : Symbol) (cell : Cell) : Prop :=
  f.useOverrides = true ∧ ∃ o, f.model.overrides = some o ∧ o.get? s X = some cell

/-- The primary table has `cell?` for `s` at `X`, and no override takes its place. -/
def Primary (f : FlatMachine) (s : StateId) (X : Symbol) (cell? : Option Cell) : Prop :=
  (∀ cell, ¬ f.Overrides s X cell) ∧ f.model.table.get? s X = cell?

/-- `action` is the one action for `s` at `X`. -/
def Selects (f : FlatMachine) (s : StateId) (X : Symbol) (action : Action) : Prop :=
  f.Overrides s X (.single action) ∨ f.Primary s X (some (.single action))

/-- A reduction by `rule` is due. -/
def Reduces (f : FlatMachine) (rule : RuleId) : Prop :=
  ∃ s X, f.At s X ∧ (f.Selects s X (.reduce rule) ∨ f.Selects s X (.mergedReduce rule))

/-- What has to be the case for a step of a run without a verdict to settle `v`. -/
def Settles (f : FlatMachine) (v : Verdict) : Prop :=
  match v with
  | .accepted => ∃ s X, f.At s X ∧ f.Selects s X .accept
  | .rejected (.syntaxError s X position) =>
    f.At s X ∧ position = f.cursor ∧ f.Primary s X none
  | .rejected (.conflict s X) =>
    f.At s X ∧ ∃ candidates, f.Primary s X (some (.conflict candidates))
  | .rejected (.malformedEntry s X actionType detail) =>
    f.At s X ∧ (f.Selects s X (.malformed actionType detail) ∨
      ∃ candidates, f.Overrides s X (.conflict candidates) ∧ actionType = "override" ∧
        detail = unresolvedText candidates)
  | .rejected (.unknownAction s X actionType) =>
    f.At s X ∧ (f.Selects s X (.unknown actionType) ∨
      actionType = "goto" ∧ ∃ d, f.Selects s X (.goto d))
  | .fatal (.inputExhausted position) => f.tokens.length ≤ f.cursor ∧ position = f.cursor
  | .fatal (.missingProduction rule) => f.Reduces rule ∧ f.model.productions.get? rule = none
  | .fatal (.stackUnderflow rule needed available) =>
    f.Reduces rule ∧ ∃ production, f.model.productions.get? rule = some production ∧
      needed = 2 * production.rhs.length + 1 ∧ available = f.items.length ∧ available < needed
  | .fatal (.missingGoto s A) =>
    ∃ rule production, f.Reduces rule ∧ f.model.productions.get? rule = some production ∧
      2 * production.rhs.length < f.items.length ∧ topState? (f.cut production) = some s ∧
      A = production.lhs ∧ ∀ d, f.model.table.get? s A ≠ some (.single (.goto d)) ∧
        f.model.table.get? s A ≠ some (.single (.shift d))

end FlatMachine

end ShiftReduce
