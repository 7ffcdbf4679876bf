import ShiftReduce.Production
import ShiftReduce.Table
import ShiftReduce.Verdict

/-!
# Models

A model is what a run consults: a primary table, the productions by rule, and an optional override
table. An override entry takes the place of the primary entry at the same site, conflicts
included; transitions after a reduction are always read from the primary table. This is the table
model of sections 4.1 and 11 of the specification, with its contracts `lookup_action`,
`lookup_goto`, `lookup_production` and `conflicts`.
-/

namespace ShiftReduce

/-! ## Models -/

/-- The tables and productions that a run consults. -/
structure Model where
  /-- The primary table, with actions on tokens and transitions on nonterminals. -/
  table : Table
  /-- The productions by rule. -/
  productions : SortedMap RuleId Production
  /-- The override table, if there is one. -/
  overrides : Option Table := none
  /-- The state in which a run starts. -/
  startState : StateId := ⟨"1"⟩
deriving DecidableEq

/-- The table that answered a look-up. -/
inductive Source where
  /-- The primary table. -/
  | primary
  /-- The override table. -/
  | override
deriving DecidableEq, Repr

/-- The answer to the question what to do in a state at a token. -/
inductive Lookup where
  /-- A single action, with the table it comes from. -/
  | found (action : Action) (source : Source)
  /-- The primary entry holds several candidates. -/
  | conflict (candidates : List Action)
  /-- The override entry holds several candidates. -/
  | unresolvedOverride (candidates : List Action)
  /-- No table has an entry. -/
  | notFound
deriving DecidableEq, Repr

/-- A place of the primary table with an unresolved conflict. -/
structure Conflict where
  /-- Where the conflict is. -/
  site : Site
  /-- The admissible actions, in the order of the table. -/
  candidates : List Action
deriving DecidableEq, Repr

namespace Model

/-- The model with another override table. -/
def withOverrides (M : Model) (overrides : Table) : Model := { M with overrides := some overrides }

/-- The model with another start state. -/
def withStartState (M : Model) (startState : StateId) : Model := { M with startState }

/-- The cell of the override table, if there is such a table and overrides are in force. -/
def overrideCell? (M : Model) (useOverrides : Bool) (state : StateId) (token : Symbol) :
    Option Cell :=
  if useOverrides then M.overrides.bind (fun o => o.get? state token) else none

/-- What to do in `state` at `token` (`lookup_action`). An override entry in force wins as it
    stands; the primary entry counts only where there is none. -/
def lookupAction (M : Model) (state : StateId) (token : Symbol) (useOverrides : Bool) : Lookup :=
  match M.overrideCell? useOverrides state token with
  | some (.single action) => .found action .override
  | some (.conflict candidates) => .unresolvedOverride candidates
  | none =>
    match M.table.get? state token with
    | some (.single action) => .found action .primary
    | some (.conflict candidates) => .conflict candidates
    | none => .notFound

/-- The transition out of `state` on `lhs` after a reduction (`lookup_goto`). A single `goto` or
    `shift` entry of the primary table gives it. -/
def lookupGoto (M : Model) (state : StateId) (lhs : Symbol) : Except Fault StateId :=
  match M.table.get? state lhs with
  | some (.single (.goto destination)) => .ok destination
  | some (.single (.shift destination)) => .ok destination
  | _ => .error (.missingGoto state lhs)

/-- The production of `rule` (`lookup_production`). -/
def lookupProduction (M : Model) (rule : RuleId) : Except Fault Production :=
  match M.productions.get? rule with
  | some production => .ok production
  | none => .error (.missingProduction rule)

/-- The conflicts of the primary table, by state and symbol. -/
def conflicts (M : Model) : List Conflict :=
  M.table.cells.filterMap fun
    | (site, .conflict candidates) => some ⟨site, candidates⟩
    | (_, .single _) => none

end Model

end ShiftReduce
