import ShiftReduce.SortedMap

/-!
# Names of symbols, states and rules

Grammar symbols, automaton states and production rules are opaque names. A name has no structure
beyond its text: a numeric name is the decimal text of its number, so that the number 2 and the
text "2" name the same state (section 11 of the specification). Names are ordered by the code
points of their text.
-/

namespace ShiftReduce

/-- A grammar symbol, terminal or nonterminal, as it heads a column of a parse table. -/
abbrev Symbol := String

/-! ## States -/

/-- The name of an automaton state, which is the key of a row of a parse table. -/
structure StateId where
  /-- The text of the name. -/
  text : String
deriving DecidableEq, Repr

namespace StateId

/-- The state that is named by a number. -/
def ofNat (n : Nat) : StateId := ⟨toString n⟩

instance : LT StateId := ⟨fun a b => a.text < b.text⟩

instance : DecidableLT StateId := fun a b => inferInstanceAs (Decidable (a.text < b.text))

instance : KeyOrder StateId where
  lt_irrefl a := KeyOrder.lt_irrefl a.text
  lt_trans := fun {a b c} (hab : a.text < b.text) (hbc : b.text < c.text) =>
    show a.text < c.text from KeyOrder.lt_trans hab hbc
  lt_trichotomy a b := by
    rcases KeyOrder.lt_trichotomy a.text b.text with h | h | h
    · exact .inl h
    · exact .inr (.inl (by cases a; cases b; cases h; rfl))
    · exact .inr (.inr h)

end StateId

/-! ## Rules -/

/-- The name of a production rule. -/
structure RuleId where
  /-- The text of the name. -/
  text : String
deriving DecidableEq, Repr

namespace RuleId

/-- The rule that is named by a number. -/
def ofNat (n : Nat) : RuleId := ⟨toString n⟩

instance : LT RuleId := ⟨fun a b => a.text < b.text⟩

instance : DecidableLT RuleId := fun a b => inferInstanceAs (Decidable (a.text < b.text))

instance : KeyOrder RuleId where
  lt_irrefl a := KeyOrder.lt_irrefl a.text
  lt_trans := fun {a b c} (hab : a.text < b.text) (hbc : b.text < c.text) =>
    show a.text < c.text from KeyOrder.lt_trans hab hbc
  lt_trichotomy a b := by
    rcases KeyOrder.lt_trichotomy a.text b.text with h | h | h
    · exact .inl h
    · exact .inr (.inl (by cases a; cases b; cases h; rfl))
    · exact .inr (.inr h)

end RuleId

end ShiftReduce
