import ShiftReduce.Symbol

/-!
# Settings

A configuration document says how tables are run where the command line does not: the end marker,
the start state and an override document. What is left open has a usual value (section 15 of the
specification).
-/

namespace ShiftReduce

/-- What a configuration document says about runs. -/
structure Settings where
  /-- The token behind the last token of every input. -/
  endMarker : Option Symbol := none
  /-- The name of the start state. -/
  startState : Option String := none
  /-- The path of an override document. -/
  overrides : Option String := none
deriving DecidableEq, Repr

namespace Settings

/-- The end marker, by default a dollar sign. -/
def effectiveEndMarker (s : Settings) : Symbol := s.endMarker.getD "$"

/-- The start state, by default the one named 1. -/
def effectiveStartState (s : Settings) : StateId := ⟨s.startState.getD "1"⟩

end Settings

end ShiftReduce
