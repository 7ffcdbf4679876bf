import ShiftReduce.Action

/-!
# Parse tables

A sparse table of cells, indexed by a state and a symbol (section 3 of the specification). Cells
are listed by state and then by symbol, and a state without cells does not occur.
-/

namespace ShiftReduce

/-! ## Sites -/

/-- A place of a parse table: the row of a state and the column of a symbol. -/
structure Site where
  /-- The row. -/
  state : StateId
  /-- The column. -/
  symbol : Symbol
deriving DecidableEq, Repr

namespace Site

/-- Sites are ordered by state, and within a state by symbol. -/
instance : LT Site := ⟨fun a b => a.state < b.state ∨ (a.state = b.state ∧ a.symbol < b.symbol)⟩

instance : DecidableLT Site := fun a b =>
  inferInstanceAs (Decidable (a.state < b.state ∨ (a.state = b.state ∧ a.symbol < b.symbol)))

theorem lt_iff {a b : Site} :
    a < b ↔ a.state < b.state ∨ (a.state = b.state ∧ a.symbol < b.symbol) := Iff.rfl

instance : KeyOrder Site where
  lt_irrefl a h := by
    rcases lt_iff.1 h with h | ⟨_, h⟩
    · exact KeyOrder.lt_irrefl _ h
    · exact KeyOrder.lt_irrefl _ h
  lt_trans {a b c} hab hbc := by
    rcases lt_iff.1 hab with hab | ⟨hab, hab'⟩
    · rcases lt_iff.1 hbc with hbc | ⟨hbc, _⟩
      · exact .inl (KeyOrder.lt_trans hab hbc)
      · exact .inl (hbc ▸ hab)
    · rcases lt_iff.1 hbc with hbc | ⟨hbc, hbc'⟩
      · exact .inl (hab ▸ hbc)
      · exact .inr ⟨hab.trans hbc, KeyOrder.lt_trans hab' hbc'⟩
  lt_trichotomy a b := by
    rcases KeyOrder.lt_trichotomy a.state b.state with h | h | h
    · exact .inl (.inl h)
    · rcases KeyOrder.lt_trichotomy a.symbol b.symbol with h' | h' | h'
      · exact .inl (.inr ⟨h, h'⟩)
      · exact .inr (.inl (by cases a; cases b; cases h; cases h'; rfl))
      · exact .inr (.inr (.inr ⟨h.symm, h'⟩))
    · exact .inr (.inr (.inl h))

end Site

/-! ## Tables -/

/-- A sparse parse table. It serves as primary table and as override table alike. -/
structure Table where
  /-- The cells by site. -/
  map : SortedMap Site Cell
deriving DecidableEq

namespace Table

/-- The table without cells. -/
def empty : Table := ⟨SortedMap.empty⟩

/-- The cell in row `state` and column `symbol`. -/
def get? (t : Table) (state : StateId) (symbol : Symbol) : Option Cell :=
  t.map.get? ⟨state, symbol⟩

/-- The table with `cell` in row `state` and column `symbol`, in the place of any earlier cell. -/
def insert (t : Table) (state : StateId) (symbol : Symbol) (cell : Cell) : Table :=
  ⟨t.map.insert ⟨state, symbol⟩ cell⟩

/-- Inserts a cell with a single action. -/
def insertAction (t : Table) (state : StateId) (symbol : Symbol) (action : Action) : Table :=
  t.insert state symbol (.single action)

/-- Inserts a conflict cell. -/
def insertConflict (t : Table) (state : StateId) (symbol : Symbol) (candidates : List Action) :
    Table :=
  t.insert state symbol (.conflict candidates)

/-- The table that results from inserting the cells of a list one after the other. -/
def ofCells (cells : List (Site × Cell)) : Table :=
  cells.foldl (fun t c => t.insert c.1.state c.1.symbol c.2) empty

/-- The cells by state and symbol, each with its site. -/
def cells (t : Table) : List (Site × Cell) := t.map.entries

/-- The number of cells. -/
def size (t : Table) : Nat := t.map.size

/-- Whether the table has no cells. -/
def isEmpty (t : Table) : Bool := t.size == 0

/-- The states with at least one cell, in increasing order. -/
def states (t : Table) : List StateId := (t.cells.map (fun c => c.1.state)).eraseDups

@[simp] theorem get?_empty (state : StateId) (symbol : Symbol) :
    empty.get? state symbol = none := rfl

@[simp] theorem get?_insert_self (t : Table) (state : StateId) (symbol : Symbol) (cell : Cell) :
    (t.insert state symbol cell).get? state symbol = some cell :=
  SortedMap.get?_insert_self t.map ⟨state, symbol⟩ cell

theorem get?_insert_of_ne (t : Table) {state state' : StateId} {symbol symbol' : Symbol}
    (hne : ¬(state' = state ∧ symbol' = symbol)) (cell : Cell) :
    (t.insert state symbol cell).get? state' symbol' = t.get? state' symbol' := by
  refine SortedMap.get?_insert_of_ne t.map (fun h => hne ?_) cell
  exact ⟨congrArg Site.state h, congrArg Site.symbol h⟩

end Table

end ShiftReduce
