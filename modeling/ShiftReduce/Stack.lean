import ShiftReduce.Symbol

/-!
# Parser stacks

A stack of states interleaved with grammar symbols. It has a state at the bottom and above it
pairs of a symbol and the state that the symbol led to. So it is never empty, a state is always on
top, and the number of elements is odd, as section 3 of the specification asks.
-/

namespace ShiftReduce

/-- One element of a stack that is read as a flat sequence. -/
inductive StackItem where
  /-- A state. -/
  | state (id : StateId)
  /-- A grammar symbol. -/
  | symbol (name : Symbol)
deriving DecidableEq, Repr

/-- The text of an element, which does not tell a state from a symbol. -/
def StackItem.text : StackItem → String
  | .state id => id.text
  | .symbol name => name

/-- A bottom state with pairs of a symbol and a state above it. -/
structure Stack where
  /-- The state at the bottom. -/
  bottom : StateId
  /-- The pairs above the bottom, topmost first. -/
  pairs : List (Symbol × StateId)
deriving DecidableEq, Repr

namespace Stack

/-- The stack with a state and nothing above it. -/
def initial (bottom : StateId) : Stack := ⟨bottom, []⟩

/-- The state on top. -/
def top (s : Stack) : StateId :=
  match s.pairs with
  | [] => s.bottom
  | (_, state) :: _ => state

/-- Puts a symbol and the state that it leads to on top. -/
def push (s : Stack) (symbol : Symbol) (state : StateId) : Stack :=
  { s with pairs := (symbol, state) :: s.pairs }

/-- Removes `count` pairs from the top, if there are that many. -/
def pop? (s : Stack) (count : Nat) : Option Stack :=
  if count ≤ s.pairs.length then some { s with pairs := s.pairs.drop count } else none

/-- The elements from bottom to top. -/
def items (s : Stack) : List StackItem :=
  .state s.bottom :: s.pairs.reverse.flatMap (fun p => [.symbol p.1, .state p.2])

/-- The number of elements, states and symbols together. -/
def size (s : Stack) : Nat := 1 + 2 * s.pairs.length

/-- Whether there are no elements, which is never so. -/
def isEmpty (s : Stack) : Bool := s.items.isEmpty

/-- The elements from bottom to top as text, with single spaces between them. -/
def text (s : Stack) : String := " ".intercalate (s.items.map StackItem.text)

end Stack

end ShiftReduce
