import ShiftReduce.Symbol

/-!
# Faults of table documents

What can be wrong with the structure of a table document, by cause (section 13 of the
specification). An action whose payload is missing or unusable is no such fault, since it matters
only to a run that reaches it.
-/

namespace ShiftReduce

/-! ## Parts -/

/-- What can be wrong with an action. -/
inductive ActionFault where
  /-- It is not an object. -/
  | notObject
  /-- It does not say of what kind it is. -/
  | noType
deriving DecidableEq, Repr

/-- The fault in words. -/
def ActionFault.message : ActionFault → String
  | notObject => "action must be an object"
  | noType => "action missing string 'type' field"

/-- What can be wrong with a row of a table. -/
inductive RowFault where
  /-- It is not an object of cells. -/
  | notObject
  /-- What stands for all rows of an override document is not an object. -/
  | notRows
deriving DecidableEq, Repr

/-- The fault in words. -/
def RowFault.message : RowFault → String
  | notObject => "row must be an object keyed by symbol"
  | notRows => "override document must be an object"

/-- What can be wrong with a production. -/
inductive ProductionFault where
  /-- It has no usable number. -/
  | number
  /-- It has no left side. -/
  | lhs
  /-- It has no right side. -/
  | rhs
  /-- Its right side holds something else than symbols. -/
  | rhsEntry
deriving DecidableEq, Repr

/-- The fault in words. -/
def ProductionFault.message : ProductionFault → String
  | number => "missing 'productionNumber'"
  | lhs => "missing 'lhs'"
  | rhs => "missing 'rhs' array"
  | rhsEntry => "'rhs' entries must be strings"

/-! ## Documents -/

/-- What can be wrong with a table document. -/
inductive DocumentError where
  /-- A part of the document is not there. -/
  | missingField (field : String)
  /-- A row is no row. -/
  | invalidRow (state : String) (fault : RowFault)
  /-- A cell is neither an action nor a list of actions. -/
  | invalidCell (state symbol : String) (fault : ActionFault)
  /-- A production is incomplete. The index counts from zero. -/
  | invalidProduction (index : Nat) (fault : ProductionFault)
  /-- Two productions have the same number. -/
  | duplicateProduction (rule : RuleId)
deriving DecidableEq, Repr

/-- The error in words. -/
def DocumentError.message : DocumentError → String
  | missingField field => "document missing required field: '" ++ field ++ "'"
  | invalidRow state fault => "state '" ++ state ++ "': " ++ fault.message
  | invalidCell state symbol fault =>
    "state '" ++ state ++ "', symbol '" ++ symbol ++ "': " ++ fault.message
  | invalidProduction index fault => "production #" ++ toString index ++ ": " ++ fault.message
  | duplicateProduction rule => "duplicate production number " ++ rule.text

end ShiftReduce
