import ShiftReduce.Machine

/-!
# Parsing histories

A trace records a run step by step: for every step the machine before it and what the step did
(section 12 of the specification).
-/

namespace ShiftReduce

/-- One line of a parsing history. -/
structure TraceRow where
  /-- The number of the step, counted from zero. -/
  index : Nat
  /-- The state on top of the stack before the step. -/
  state : StateId
  /-- The token under the cursor before the step, if any was left. -/
  lookahead : Option Symbol
  /-- The cursor before the step. -/
  position : Nat
  /-- The stack before the step, from bottom to top. -/
  stack : List StackItem
  /-- What the step did. -/
  action : String
deriving DecidableEq, Repr

/-- A parsing history. -/
structure Trace where
  /-- The lines, first step first. -/
  rows : List TraceRow
deriving DecidableEq, Repr

/-! ## Recording -/

/-- What a step did, as an entry of a parsing history. -/
def Step.label : Step → String
  | .next transition => transition.text
  | .halt verdict => verdict.label

namespace Machine

/-- The line of a parsing history for the step that `m` is about to make. -/
def traceRow (m : Machine) (index : Nat) : TraceRow where
  index := index
  state := m.state
  lookahead := m.lookahead
  position := m.cursor
  stack := m.stack.items
  action := m.step.2.label

/-- The verdict of the run with the lines of its history, numbered from `index`, if it is settled
    within `fuel` steps. -/
def traceFrom? : (fuel index : Nat) → Machine → Option (Verdict × List TraceRow)
  | 0, _, _ => none
  | fuel + 1, index, m =>
    match m.step with
    | (_, .halt verdict) => some (verdict, [m.traceRow index])
    | (m', .next _) =>
      (traceFrom? fuel (index + 1) m').map fun (verdict, rows) =>
        (verdict, m.traceRow index :: rows)

/-- The verdict of the run with its history (`run_traced` of section 12), if it is settled within
    `fuel` steps. -/
def runTraced? (fuel : Nat) (m : Machine) : Option (Verdict × Trace) :=
  (traceFrom? fuel 0 m).map fun (verdict, rows) => (verdict, ⟨rows⟩)

end Machine

/-! ## Printing -/

/-- Blanks in front of `text` up to a width of `width` characters. -/
def padLeft (width : Nat) (text : String) : String :=
  "".pushn ' ' (width - text.length) ++ text

/-- The line as text: step, stack, lookahead and action in columns. -/
def TraceRow.text (row : TraceRow) : String :=
  padLeft 4 (toString row.index) ++ "  [" ++ " ".intercalate (row.stack.map StackItem.text) ++
    "]  " ++ row.lookahead.getD "<none>" ++ "  " ++ row.action

namespace Trace

/-- The number of lines. -/
def size (t : Trace) : Nat := t.rows.length

/-- Whether there are no lines. -/
def isEmpty (t : Trace) : Bool := t.rows.isEmpty

/-- The lines as text, each ended by a line feed. -/
def text (t : Trace) : String := String.join (t.rows.map (fun row => row.text ++ "\n"))

end Trace

end ShiftReduce
