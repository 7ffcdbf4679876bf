import ShiftReduce.Symbol

/-!
# Productions

A production puts a sequence of symbols, which may be empty, in the place of one nonterminal
(section 3 of the specification).
-/

namespace ShiftReduce

/-- A grammar production: the symbol on its left and the symbols on its right. -/
structure Production where
  /-- The nonterminal that a reduction by this production yields. -/
  lhs : Symbol
  /-- The symbols that a reduction by this production consumes. -/
  rhs : List Symbol
deriving DecidableEq, Repr

namespace Production

/-- The number of symbols on the right. -/
def arity (p : Production) : Nat := p.rhs.length

/-- The production as text. An empty right side is written as an epsilon. -/
def text (p : Production) : String :=
  match p.rhs with
  | [] => p.lhs ++ " -> ϵ"
  | rhs => p.lhs ++ " -> " ++ " ".intercalate rhs

end Production

end ShiftReduce
