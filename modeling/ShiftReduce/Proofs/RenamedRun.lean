import Mathlib.Logic.Equiv.Basic
import ShiftReduce.Proofs.PastLabels
import ShiftReduce.Proofs.Renaming

/-!
# Runs under other names

A machine compares names for equality and does nothing else with them. So a renamed machine makes
renamed steps: what goes on goes on, what stops stops for the same reason, and the two machines come
to the same points but for the names.

Results:
* `Machine.reduce_rename`: a reduction of a renamed machine, with every way for it to fail.
* `Machine.step_rename`: a step of a renamed machine.
* `Machine.session_start_rename`: whole sessions over a renamed model and renamed tokens.
-/

namespace ShiftReduce

variable (r : Renaming)

/-! ## Renamed machines -/

/-- The stack with other names. -/
def Stack.rename (s : Stack) : Stack :=
  ⟨r.state s.bottom, s.pairs.map (Prod.map r.symbol r.state)⟩

/-- The rejection with other names. The texts that describe an entry stay as they are. -/
def Rejection.rename : Rejection → Rejection
  | syntaxError state token position => syntaxError (r.state state) (r.symbol token) position
  | conflict state token => conflict (r.state state) (r.symbol token)
  | malformedEntry state token actionType detail =>
    malformedEntry (r.state state) (r.symbol token) actionType detail
  | unknownAction state token actionType =>
    unknownAction (r.state state) (r.symbol token) actionType

/-- The verdict with other names. -/
def Verdict.rename : Verdict → Verdict
  | accepted => accepted
  | rejected reason => rejected (reason.rename r)
  | fatal fault => fatal (fault.rename r)

/-- The transition with other names. -/
def Transition.rename : Transition → Transition
  | shift state token destination source =>
    shift (r.state state) (r.symbol token) (r.state destination) source
  | reduce state rule lhs popped goto source =>
    reduce (r.state state) (r.rule rule) (r.symbol lhs) popped (r.state goto) source

/-- What a step came to, with other names. -/
def Step.rename : Step → Step
  | next t => next (t.rename r)
  | halt v => halt (v.rename r)

/-- The machine with other names in its model, its tokens, its stack and its verdict. -/
def Machine.rename (m : Machine) : Machine where
  model := m.model.rename r
  tokens := m.tokens.map r.symbol
  useOverrides := m.useOverrides
  stack := m.stack.rename r
  cursor := m.cursor
  verdict := m.verdict.map (·.rename r)

variable {r}

/-! ## Stacks -/

namespace Stack

theorem top_rename (s : Stack) : (s.rename r).top = r.state s.top := by
  obtain ⟨bottom, pairs⟩ := s
  cases pairs <;> rfl

theorem size_rename (s : Stack) : (s.rename r).size = s.size := by
  simp [size, rename]

theorem pop?_rename (s : Stack) (count : Nat) :
    (s.rename r).pop? count = (s.pop? count).map (·.rename r) := by
  by_cases hcount : count ≤ s.pairs.length
  · simp [pop?, rename, hcount, List.map_drop]
  · simp [pop?, rename, hcount]

end Stack

namespace Machine

/-! ## Renamed steps -/

theorem state_rename (m : Machine) : (m.rename r).state = r.state m.state := m.stack.top_rename

theorem lookahead_rename (m : Machine) : (m.rename r).lookahead = m.lookahead.map r.symbol :=
  List.getElem?_map

theorem shift_rename (m : Machine) (token : Symbol) (destination : StateId) (source : Source) :
    (m.rename r).shift (r.symbol token) (r.state destination) source =
      ((m.shift token destination source).1.rename r,
        (m.shift token destination source).2.rename r) := by
  unfold shift
  rw [state_rename]
  rfl

theorem reduce_rename (m : Machine) (rule : RuleId) (source : Source) :
    (m.rename r).reduce (r.rule rule) source =
      ((m.reduce rule source).1.rename r, (m.reduce rule source).2.rename r) := by
  have hproduction : (m.rename r).model.lookupProduction (r.rule rule) =
      ((m.model.lookupProduction rule).map (·.rename r)).mapError (·.rename r) :=
    m.model.lookupProduction_rename rule
  unfold reduce
  rw [hproduction, state_rename]
  cases m.model.lookupProduction rule with
  | error fault => rfl
  | ok p =>
    have hpop : (m.rename r).stack.pop? (p.rename r).arity =
        (m.stack.pop? p.arity).map (·.rename r) := by
      rw [Production.arity_rename]
      exact m.stack.pop?_rename p.arity
    simp only [Except.map, Except.mapError, hpop]
    cases m.stack.pop? p.arity with
    | none =>
      have hsize : (m.rename r).stack.size = m.stack.size := m.stack.size_rename
      rw [Production.arity_rename, hsize]
      rfl
    | some exposed =>
      have hgoto : (m.rename r).model.lookupGoto (exposed.rename r).top (p.rename r).lhs =
          ((m.model.lookupGoto exposed.top p.lhs).map r.state).mapError (·.rename r) := by
        rw [Stack.top_rename]
        exact m.model.lookupGoto_rename exposed.top p.lhs
      simp only [Option.map_some, hgoto]
      cases m.model.lookupGoto exposed.top p.lhs with
      | error fault => rfl
      | ok destination =>
        rw [Production.arity_rename]
        rfl

theorem perform_rename (m : Machine) (token : Symbol) (action : Action) (source : Source) :
    (m.rename r).perform (r.symbol token) (action.rename r) source =
      ((m.perform token action source).1.rename r, (m.perform token action source).2.rename r) := by
  cases action with
  | shift destination => exact m.shift_rename token destination source
  | mergedShift destination => exact m.shift_rename token destination source
  | reduce rule => exact m.reduce_rename rule source
  | mergedReduce rule => exact m.reduce_rename rule source
  | accept => rfl
  | malformed actionType detail =>
    show (m.rename r).halt (.rejected (.malformedEntry (m.rename r).state _ _ _)) = _
    rw [state_rename]
    rfl
  | goto destination =>
    show (m.rename r).halt (.rejected (.unknownAction (m.rename r).state _ "goto")) = _
    rw [state_rename]
    rfl
  | unknown actionType =>
    show (m.rename r).halt (.rejected (.unknownAction (m.rename r).state _ _)) = _
    rw [state_rename]
    rfl

theorem consult_rename (m : Machine) (token : Symbol) :
    (m.rename r).consult (r.symbol token) =
      ((m.consult token).1.rename r, (m.consult token).2.rename r) := by
  have haction : (m.rename r).model.lookupAction (r.state m.state) (r.symbol token)
      (m.rename r).useOverrides =
      (m.model.lookupAction m.state token m.useOverrides).rename r :=
    m.model.lookupAction_rename m.state token m.useOverrides
  unfold consult
  rw [state_rename, haction]
  cases m.model.lookupAction m.state token m.useOverrides with
  | found action source => exact m.perform_rename token action source
  | conflict candidates => rfl
  | unresolvedOverride candidates =>
    simp only [Lookup.rename, List.length_map]
    rfl
  | notFound => rfl

/-- A step of a renamed machine is a renamed step. -/
theorem step_rename (m : Machine) :
    (m.rename r).step = (m.step.1.rename r, m.step.2.rename r) := by
  have hverdict : (m.rename r).verdict = m.verdict.map (·.rename r) := rfl
  unfold step
  rw [hverdict, lookahead_rename]
  cases m.verdict with
  | some v => rfl
  | none =>
    cases m.lookahead with
    | none => rfl
    | some token => exact m.consult_rename token

theorem session_rename (m : Machine) (ops : List Operation) :
    (m.rename r).session ops = (m.session ops).rename r := by
  induction ops generalizing m with
  | nil => rfl
  | cons op ops ih =>
    cases op with
    | step =>
      show (m.rename r).step.1.session ops = (m.step.1.session ops).rename r
      rw [step_rename, ih]
    | switch enabled => exact ih (m.setOverrides enabled)

theorem outcomes_rename (m : Machine) (ops : List Operation) :
    (m.rename r).outcomes ops = (m.outcomes ops).map (·.rename r) := by
  induction ops generalizing m with
  | nil => rfl
  | cons op ops ih =>
    cases op with
    | step =>
      show (m.rename r).step.2 :: (m.rename r).step.1.outcomes ops =
        m.step.2.rename r :: (m.step.1.outcomes ops).map (·.rename r)
      rw [step_rename, ih]
    | switch enabled => exact ih (m.setOverrides enabled)

/-- **Names are opaque.** Let states, rules and symbols get other names, different names for
    different ones. Then, whatever steps and switches a caller asks for, the renamed model over the
    renamed tokens comes to the same point and each step to the same, but for the names: the same
    cursor, the same counts and positions, the same texts of entries, and the same tables answer. -/
theorem session_start_rename (r : Renaming) (M : Model) (tokens : List Symbol)
    (ops : List Operation) :
    (start (M.rename r) (tokens.map r.symbol)).session ops =
      ((start M tokens).session ops).rename r ∧
    (start (M.rename r) (tokens.map r.symbol)).outcomes ops =
      ((start M tokens).outcomes ops).map (·.rename r) :=
  ⟨session_rename (start M tokens) ops, outcomes_rename (start M tokens) ops⟩

/-- The states 1 and 5, the rules 0 and 2, and the symbols a and $ swap their names. -/
def swappedNames : Renaming where
  state := (Equiv.swap ⟨"1"⟩ ⟨"5"⟩).toEmbedding
  rule := (Equiv.swap ⟨"0"⟩ ⟨"2"⟩).toEmbedding
  symbol := (Equiv.swap "a" "$").toEmbedding

/-- With the names swapped, `optionalLetter` starts in the state 5 and reads b a as it has read b $,
    with the same override entry in force, and meets the same conflict without it. -/
theorem session_start_rename_swappedNames :
    (start optionalLetter ["b", "$"]).outcomes [.step, .step, .step, .step] =
      [.next (.reduce ⟨"1"⟩ ⟨"0"⟩ "A" 0 ⟨"3"⟩ .override),
        .next (.shift ⟨"3"⟩ "b" ⟨"4"⟩ .primary),
        .next (.reduce ⟨"4"⟩ ⟨"1"⟩ "S" 4 ⟨"5"⟩ .primary), .halt .accepted] ∧
    (start (optionalLetter.rename swappedNames) ["b", "a"]).outcomes [.step, .step, .step, .step] =
      [.next (.reduce ⟨"5"⟩ ⟨"2"⟩ "A" 0 ⟨"3"⟩ .override),
        .next (.shift ⟨"3"⟩ "b" ⟨"4"⟩ .primary),
        .next (.reduce ⟨"4"⟩ ⟨"1"⟩ "S" 4 ⟨"1"⟩ .primary), .halt .accepted] ∧
    ((start (optionalLetter.rename swappedNames) ["b", "a"]).session
      [.switch false, .step]).verdict = some (.rejected (.conflict ⟨"5"⟩ "b")) := by
  have hplain : (start optionalLetter ["b", "$"]).outcomes [.step, .step, .step, .step] =
      [.next (.reduce ⟨"1"⟩ ⟨"0"⟩ "A" 0 ⟨"3"⟩ .override),
        .next (.shift ⟨"3"⟩ "b" ⟨"4"⟩ .primary),
        .next (.reduce ⟨"4"⟩ ⟨"1"⟩ "S" 4 ⟨"5"⟩ .primary), .halt .accepted] := by decide
  have htokens : ["b", "$"].map swappedNames.symbol = ["b", "a"] := by decide
  obtain ⟨-, houtcomes⟩ :=
    session_start_rename swappedNames optionalLetter ["b", "$"] [.step, .step, .step, .step]
  obtain ⟨hsession, -⟩ :=
    session_start_rename swappedNames optionalLetter ["b", "$"] [.switch false, .step]
  rw [htokens] at houtcomes hsession
  refine ⟨hplain, ?_, ?_⟩
  · rw [houtcomes, hplain]
    decide
  · rw [hsession]
    decide

end Machine

end ShiftReduce
