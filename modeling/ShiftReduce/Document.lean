import ShiftReduce.Document.Error
import ShiftReduce.Json
import ShiftReduce.Model

/-!
# Table documents

A table document is a JSON object with a table under `parseTable._table`, which maps states to
rows and rows map symbols to cells, and a list of numbered `productions`. A cell is an action or a
list of actions, which is a conflict whatever its length. States and rules are named by texts or by
whole numbers. This is the loader of section 13 of the specification.

* `Document.action`: reads a single action.
* `Document.model`: reads a table document.
* `Document.overrides`: reads an override document, which is a bare table or a table document.

The first fault in the order of the document is the one that is reported: the rows and their cells
in key order, then the productions one by one.
-/

namespace ShiftReduce.Document

/-! ## Names -/

/-- The name that a value writes: a text as it stands, or a whole number of 64 bits, signed or
    unsigned, in decimal. -/
def name? : Json → Option String
  | .integer n =>
    if -9223372036854775808 ≤ n ∧ n ≤ 18446744073709551615 then some (toString n) else none
  | .string text => some text
  | _ => none

/-- What a member that should hold a name holds. -/
inductive Payload where
  /-- There is no such member. -/
  | absent
  /-- The member does not hold a name. -/
  | unusable
  /-- The member holds a name. -/
  | name (text : String)
deriving DecidableEq, Repr

/-- The payload under `key`. -/
def payload (object : Json) (key : String) : Payload :=
  match object.member? key with
  | none => .absent
  | some value =>
    match name? value with
    | none => .unusable
    | some text => .name text

/-! ## Actions and cells -/

/-- The action of a kind with its payloads. A merged action is a shift if there is a destination,
    and else a reduction. -/
def actionOfKind (kind : String) (destination rule : Payload) : Action :=
  match kind with
  | "accept" => .accept
  | "shift" =>
    match destination with
    | .name d => .shift ⟨d⟩
    | _ => .malformed kind "missing or invalid 'destination'"
  | "goto" =>
    match destination with
    | .name d => .goto ⟨d⟩
    | _ => .malformed kind "missing or invalid 'destination'"
  | "reduce" =>
    match rule with
    | .name r => .reduce ⟨r⟩
    | _ => .malformed kind "missing or invalid 'ruleNumber'"
  | "shift_reduce" =>
    match destination, rule with
    | .name d, _ => .mergedShift ⟨d⟩
    | .unusable, _ => .malformed kind "invalid 'destination'"
    | .absent, .name r => .mergedReduce ⟨r⟩
    | .absent, .unusable => .malformed kind "invalid 'ruleNumber'"
    | .absent, .absent => .malformed kind "neither 'destination' nor 'ruleNumber' present"
  | _ => .unknown kind

/-- Reads a single action. -/
def action (value : Json) : Except ActionFault Action :=
  match value.object? with
  | none => .error .notObject
  | some _ =>
    match (value.member? "type").bind Json.string? with
    | none => .error .noType
    | some kind =>
      .ok (actionOfKind kind (payload value "destination") (payload value "ruleNumber"))

/-- Reads a cell. -/
def cell (value : Json) : Except ActionFault Cell :=
  match value with
  | .array candidates => .conflict <$> candidates.mapM action
  | single => .single <$> action single

/-! ## Tables -/

/-- Reads the cell of a row under `symbol`. -/
def site (state : String) (symbol : String) (value : Json) : Except DocumentError (Site × Cell) :=
  match cell value with
  | .ok c => .ok (⟨⟨state⟩, symbol⟩, c)
  | .error fault => .error (.invalidCell state symbol fault)

/-- Reads the cells of a row. -/
def row (state : String) (value : Json) : Except DocumentError (List (Site × Cell)) :=
  match value.object? with
  | none => .error (.invalidRow state .notObject)
  | some cells => cells.mapM (fun (symbol, c) => site state symbol c)

/-- Reads the rows of a table. -/
def table (rows : List (String × Json)) : Except DocumentError Table :=
  (fun cells => Table.ofCells cells.flatten) <$> rows.mapM (fun (state, r) => row state r)

/-- The rows under `parseTable._table`. -/
def tableRows (document : Json) : Except DocumentError (List (String × Json)) :=
  match document.member? "parseTable" with
  | none => .error (.missingField "parseTable")
  | some parseTable =>
    match (parseTable.member? "_table").bind Json.object? with
    | none => .error (.missingField "parseTable._table")
    | some rows => .ok rows

/-! ## Productions -/

/-- Reads a production with its number. -/
def production (value : Json) : Except ProductionFault (RuleId × Production) :=
  match (value.member? "productionNumber").bind name? with
  | none => .error .number
  | some number =>
    match (value.member? "lhs").bind Json.string? with
    | none => .error .lhs
    | some lhs =>
      match (value.member? "rhs").bind Json.array? with
      | none => .error .rhs
      | some entries =>
        match entries.mapM Json.string? with
        | none => .error .rhsEntry
        | some rhs => .ok (⟨number⟩, ⟨lhs, rhs⟩)

/-- Reads the productions of a list whose first one has number `index` in the document, and adds
    them to those that were read before. -/
def productionsFrom (index : Nat) (known : SortedMap RuleId Production) :
    List Json → Except DocumentError (SortedMap RuleId Production)
  | [] => .ok known
  | value :: rest =>
    match production value with
    | .error fault => .error (.invalidProduction index fault)
    | .ok (rule, p) =>
      if known.contains rule then .error (.duplicateProduction rule)
      else productionsFrom (index + 1) (known.insert rule p) rest

/-! ## Documents -/

/-- Reads a table document. The model has no overrides and the usual start state. -/
def model (document : Json) : Except DocumentError Model := do
  let table ← table (← tableRows document)
  match (document.member? "productions").bind Json.array? with
  | none => throw (.missingField "productions")
  | some entries => return { table, productions := ← productionsFrom 0 .empty entries }

/-- Reads an override document. -/
def overrides (document : Json) : Except DocumentError Table :=
  match document.member? "parseTable" with
  | some _ => do table (← tableRows document)
  | none =>
    match document.object? with
    | none => .error (.invalidRow "" .notRows)
    | some rows => table rows

end ShiftReduce.Document
