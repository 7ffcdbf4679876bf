import ShiftReduce.Proofs.Session
import ShiftReduce.Proofs.StackPath

/-!
# Tables with past labels

The cells of a model draw a graph on its states. A labelling of the states by past symbols is
consistent if whatever leads to a state ends in its label, and if a reduction is found only where
the label ends in the right side of its production.

Results:
* `Machine.onPath_session`: the stack of a machine is always a path of this graph.
* `Model.PastLabels.exists_pop`: under consistent labels a reduction finds its right side, symbol by
  symbol, on top of every stack that is a path.
* `Model.pastLabels_iff`: consistency is a finite check of the cells.
-/

namespace ShiftReduce

/-! ## The graph of a model -/

/-- The destination of an action, whichever way it is used. -/
def Action.destination? : Action → Option StateId
  | .shift destination => some destination
  | .mergedShift destination => some destination
  | .goto destination => some destination
  | _ => none

theorem Action.destination?_of_shiftTarget? {a : Action} {d : StateId}
    (h : a.shiftTarget? = some d) : a.destination? = some d := by
  cases a <;> first | exact h | cases h

theorem Action.destination?_of_gotoTarget? {a : Action} {d : StateId}
    (h : a.gotoTarget? = some d) : a.destination? = some d := by
  cases a <;> first | exact h | cases h

namespace Model

/-- A cell with a single action leads from `s` on `X` to `d`. Cells of the override table lead
    somewhere only by consuming a token, as transitions after a reduction are not read there. -/
def Edge (M : Model) (s : StateId) (X : Symbol) (d : StateId) : Prop :=
  (∃ a, M.table.get? s X = some (.single a) ∧ a.destination? = some d) ∨
    ∃ o a, M.overrides = some o ∧ o.get? s X = some (.single a) ∧ a.shiftTarget? = some d

/-- A cell with a single action, in either table, reduces by `rule` in `s` at `t`. -/
def Reduces (M : Model) (s : StateId) (t : Symbol) (rule : RuleId) : Prop :=
  ∃ a, M.Offers s t a ∧ a.reduceRule? = some rule

/-- Labels of the states by past symbols, consistent with the cells of the model. -/
structure PastLabels (M : Model) (past : StateId → List Symbol) : Prop where
  /-- Nothing is past in the start state. -/
  start : past M.startState = []
  /-- What is past in a destination was past before, or is the symbol that led there. -/
  edge {s : StateId} {X : Symbol} {d : StateId} (h : M.Edge s X d) : past d <:+ past s ++ [X]
  /-- Where a rule is to be reduced by, it has a production and the right side is past. -/
  reduces {s : StateId} {t : Symbol} {rule : RuleId} (h : M.Reduces s t rule) :
    ∃ p, M.productions.get? rule = some p ∧ p.rhs <:+ past s

/-! ## The labels can be checked -/

end Model

/-- What `f` finds in the single actions of a table, with the sites. -/
def Table.collect {α : Type} (t : Table) (f : Action → Option α) : List (Site × α) :=
  t.cells.filterMap fun
    | (site, .single a) => (f a).map fun x => (site, x)
    | (_, .conflict _) => none

theorem Table.mem_collect {α : Type} {t : Table} {f : Action → Option α} {s : StateId} {X : Symbol}
    {x : α} : (⟨s, X⟩, x) ∈ t.collect f ↔ ∃ a, t.get? s X = some (.single a) ∧ f a = some x := by
  simp only [collect, List.mem_filterMap, Table.get?_eq_some_iff]
  constructor
  · rintro ⟨⟨site, a | _⟩, hmem, hx⟩
    · obtain ⟨y, hy, heq⟩ := Option.map_eq_some_iff.1 hx
      cases heq
      exact ⟨a, hmem, hy⟩
    · cases hx
  · rintro ⟨a, hmem, hx⟩
    exact ⟨(⟨s, X⟩, .single a), hmem, by simp [hx]⟩

namespace Model

/-- All edges of the graph. -/
def edges (M : Model) : List (Site × StateId) :=
  M.table.collect Action.destination? ++
    M.overrides.toList.flatMap (fun o => o.collect Action.shiftTarget?)

/-- All single actions of both tables. -/
def actions (M : Model) : List (Site × Action) :=
  M.table.collect some ++ M.overrides.toList.flatMap (fun o => o.collect some)

/-- All places at which a rule is to be reduced by. -/
def reductions (M : Model) : List (Site × RuleId) :=
  M.actions.filterMap fun e => e.2.reduceRule?.map fun rule => (e.1, rule)

variable {M : Model} {past : StateId → List Symbol} {p s d : StateId} {X t : Symbol} {rule : RuleId}

theorem mem_edges : (⟨s, X⟩, d) ∈ M.edges ↔ M.Edge s X d := by
  simp only [edges, List.mem_append, List.mem_flatMap, Option.mem_toList, Table.mem_collect, Edge]
  simp only [exists_and_left]

theorem mem_actions {a : Action} : (⟨s, X⟩, a) ∈ M.actions ↔ M.Offers s X a := by
  simp only [actions, List.mem_append, List.mem_flatMap, Option.mem_toList, Table.mem_collect,
    Offers, Option.some_inj, exists_eq_right]

theorem mem_reductions : (⟨s, t⟩, rule) ∈ M.reductions ↔ M.Reduces s t rule := by
  simp only [reductions, List.mem_filterMap, Option.map_eq_some_iff, Prod.mk.injEq]
  constructor
  · rintro ⟨⟨site, a⟩, ha, r, hrule, rfl, rfl⟩
    exact ⟨a, mem_actions.1 ha, hrule⟩
  · rintro ⟨a, ha, hrule⟩
    exact ⟨(⟨s, t⟩, a), mem_actions.2 ha, rule, hrule, rfl, rfl⟩

/-- Consistency of labels is a matter of the edges and reductions one by one. -/
theorem pastLabels_iff :
    M.PastLabels past ↔ past M.startState = [] ∧
      (∀ e ∈ M.edges, past e.2 <:+ past e.1.state ++ [e.1.symbol]) ∧
      ∀ r ∈ M.reductions, ∃ p ∈ M.productions.get? r.2, p.rhs <:+ past r.1.state := by
  constructor
  · intro h
    exact ⟨h.start, fun e he => h.edge (mem_edges.1 he),
      fun r hr => h.reduces (mem_reductions.1 hr)⟩
  · rintro ⟨hstart, hedge, hreduces⟩
    exact ⟨hstart, fun h => hedge _ (mem_edges.2 h), fun h => hreduces _ (mem_reductions.2 h)⟩

instance : Decidable (M.PastLabels past) := decidable_of_iff _ pastLabels_iff.symm

/-! ## Right sides on the stack -/

theorem PastLabels.suffix_of_chain (h : M.PastLabels past) {α : List Symbol}
    (hchain : Chain M.Edge p α s) : past s <:+ past p ++ α := by
  induction hchain with
  | nil => simp
  | @snoc s d α X _ hedge ih =>
    have hlast : past s ++ [X] <:+ (past p ++ α) ++ [X] := List.suffix_append_self_iff.2 ih
    rw [← List.append_assoc]
    exact (h.edge hedge).trans hlast

/-- A reduction finds its right side, symbol by symbol, on top of a stack that is a path from the
    start state. -/
theorem PastLabels.exists_pop (h : M.PastLabels past) {stack : Stack}
    (hbottom : stack.bottom = M.startState) (hlinked : stack.Linked M.Edge)
    (hreduces : M.Reduces stack.top t rule) :
    ∃ production exposed, M.productions.get? rule = some production ∧
      stack.pop? production.arity = some exposed ∧
      stack.symbols = exposed.symbols ++ production.rhs ∧
      Chain M.Edge exposed.top production.rhs stack.top := by
  obtain ⟨production, hproduction, hrhs⟩ := h.reduces hreduces
  -- the label of the top is spelled by the top of the stack, and the right side ends the label
  have hpast : past stack.top <:+ stack.symbols := by
    have := h.suffix_of_chain hlinked.chain
    rwa [hbottom, h.start, List.nil_append] at this
  obtain ⟨below, hbelow⟩ := hrhs.trans hpast
  have hlength : production.arity ≤ stack.pairs.length := by
    rw [← stack.length_symbols, ← hbelow, List.length_append]
    exact Nat.le_add_left _ _
  -- the popped symbols and the right side are two final parts of one length
  obtain ⟨α, hα, hsymbols, hchain⟩ :=
    hlinked.exists_chain_of_pop (Stack.pop?_eq_some_iff.2 ⟨hlength, rfl⟩)
  obtain ⟨-, rfl⟩ : below = _ ∧ production.rhs = α :=
    List.append_inj' (hbelow.trans hsymbols) hα.symm
  exact ⟨production, _, hproduction, Stack.pop?_eq_some_iff.2 ⟨hlength, rfl⟩, hsymbols, hchain⟩

end Model

/-! ## A small model -/

/-- A model of the grammar with S → A b and an optional letter a as A. The override table settles
    the conflict that the empty right side of A brings with it. -/
def optionalLetter : Model where
  table := Table.ofCells [
    (⟨⟨"1"⟩, "a"⟩, .single (.shift ⟨"2"⟩)),
    (⟨⟨"1"⟩, "b"⟩, .conflict [.reduce ⟨"0"⟩, .accept]),
    (⟨⟨"1"⟩, "A"⟩, .single (.goto ⟨"3"⟩)),
    (⟨⟨"1"⟩, "S"⟩, .single (.shift ⟨"5"⟩)),
    (⟨⟨"2"⟩, "b"⟩, .single (.mergedReduce ⟨"2"⟩)),
    (⟨⟨"3"⟩, "b"⟩, .single (.mergedShift ⟨"4"⟩)),
    (⟨⟨"4"⟩, "$"⟩, .single (.reduce ⟨"1"⟩)),
    (⟨⟨"5"⟩, "$"⟩, .single .accept)]
  productions := SortedMap.ofList [
    (⟨"0"⟩, ⟨"A", []⟩), (⟨"1"⟩, ⟨"S", ["A", "b"]⟩), (⟨"2"⟩, ⟨"A", ["a"]⟩)]
  overrides := some (Table.ofCells [(⟨⟨"1"⟩, "b"⟩, .single (.reduce ⟨"0"⟩))])

/-- What is past in the states of `optionalLetter`. -/
def optionalLetterPast (s : StateId) : List Symbol :=
  if s = ⟨"2"⟩ then ["a"]
  else if s = ⟨"3"⟩ then ["A"]
  else if s = ⟨"4"⟩ then ["A", "b"]
  else if s = ⟨"5"⟩ then ["S"]
  else []

example : optionalLetter.PastLabels optionalLetterPast := by decide

/-! ## Every stack is a path -/

namespace Machine

variable {m m' : Machine} {token : Symbol} {action : Action} {source : Source}

/-- The stack is a path of the graph of the model that begins in the start state. -/
structure OnPath (m : Machine) : Prop where
  /-- The path begins in the start state. -/
  bottom : m.stack.bottom = m.model.startState
  /-- Every pair was pushed along an edge. -/
  linked : m.stack.Linked m.model.Edge

theorem Consults.edge (h : m.Consults token action source) {d : StateId}
    (htarget : action.shiftTarget? = some d) : m.model.Edge m.stack.top token d := by
  rcases Model.lookupAction_eq_found_iff.1 h.found with ⟨-, hcell⟩ | ⟨-, -, hcell⟩
  · obtain ⟨-, o, ho, hget⟩ := Model.overrideCell?_eq_some_iff.1 hcell
    exact .inr ⟨o, action, ho, hget, htarget⟩
  · exact .inl ⟨action, hcell, Action.destination?_of_shiftTarget? htarget⟩

theorem Consults.reduces (h : m.Consults token action source) {rule : RuleId}
    (hrule : action.reduceRule? = some rule) : m.model.Reduces m.stack.top token rule :=
  ⟨action, Model.offers_of_lookupAction h.found, hrule⟩

theorem Advance.onPath {t : Transition} (h : m.Advance m' t) (hpath : m.OnPath) : m'.OnPath := by
  cases h with
  | shift hconsults htarget => exact ⟨hpath.bottom, hpath.linked.push (hconsults.edge htarget)⟩
  | reduce hconsults hrule hproduction hpop hgoto =>
    obtain ⟨a, hcell, htarget⟩ := Model.lookupGoto_eq_ok_iff.1 hgoto
    refine ⟨(Stack.bottom_of_pop? hpop).trans hpath.bottom, (hpath.linked.pop hpop).push ?_⟩
    exact .inl ⟨a, hcell, Action.destination?_of_gotoTarget? htarget⟩

theorem Stop.onPath {s : Stack} {v : Verdict} (h : m.Stop s v) (hpath : m.OnPath) :
    OnPath { m with stack := s, verdict := some v } := by
  cases h with
  | missingGoto _ _ _ hpop =>
    exact ⟨(Stack.bottom_of_pop? hpop).trans hpath.bottom, hpath.linked.pop hpop⟩
  | _ => exact ⟨hpath.bottom, hpath.linked⟩

/-- The stack of a machine is a path of the graph of its model, whatever the caller does. -/
theorem onPath_session (M : Model) (tokens : List Symbol) (ops : List Operation) :
    ((start M tokens).session ops).OnPath := by
  refine session_invariant (fun m m' t hpath h => h.onPath hpath)
    (fun m s v hpath h => h.onPath hpath) ?_ ?_ ops
  · exact fun m enabled hpath => ⟨hpath.bottom, hpath.linked⟩
  · exact ⟨rfl, .initial _⟩

end Machine

end ShiftReduce
