import ShiftReduce.Machine
import ShiftReduce.Proofs.Lookup

/-!
# What a step can do

All that a step of the automaton can come to, as two relations with one rule for each way. Each
rule has the full condition under which the step goes that way.

* `Machine.Advance`: the steps that keep a run going, which are shifts and reductions.
* `Machine.Stop`: the steps that settle a verdict.

Results:
* `Machine.step_eq_next_iff`, `Machine.step_eq_halt_iff`: the relations are the step function.
* `Machine.Stop.stack_eq`: only a missing transition after a reduction changes the stack of a
  machine that stops.
-/

namespace ShiftReduce

namespace Machine

/-! ## The two relations -/

/-- Nothing is settled, `token` is under the cursor, and the table `source` answers with the single
    action `action`. -/
structure Consults (m : Machine) (token : Symbol) (action : Action) (source : Source) : Prop where
  /-- The run has no verdict yet. -/
  running : m.verdict = none
  /-- The token is under the cursor. -/
  lookahead : m.lookahead = some token
  /-- The look-up finds the action. -/
  found : m.model.lookupAction m.state token m.useOverrides = .found action source

/-- The step of `m` keeps the run going and leads to the machine `m'`. -/
inductive Advance (m : Machine) : Machine → Transition → Prop
  /-- The token goes onto the stack with the destination of the action. -/
  | shift {token : Symbol} {action : Action} {source : Source} {destination : StateId}
      (hconsults : m.Consults token action source)
      (htarget : action.shiftTarget? = some destination) :
      Advance m { m with stack := m.stack.push token destination, cursor := m.cursor + 1 }
        (.shift m.state token destination source)
  /-- The left side of a production takes the place of as many pairs as there are symbols on its
      right side. -/
  | reduce {token : Symbol} {action : Action} {source : Source} {rule : RuleId}
      {production : Production} {exposed : Stack} {destination : StateId}
      (hconsults : m.Consults token action source)
      (hrule : action.reduceRule? = some rule)
      (hproduction : m.model.productions.get? rule = some production)
      (hpop : m.stack.pop? production.arity = some exposed)
      (hgoto : m.model.lookupGoto exposed.top production.lhs = .ok destination) :
      Advance m { m with stack := exposed.push production.lhs destination }
        (.reduce m.state rule production.lhs (2 * production.arity) destination source)

/-- The step of `m` settles a verdict and leaves `m` with a stack. -/
inductive Stop (m : Machine) : Stack → Verdict → Prop
  | inputExhausted (hrunning : m.verdict = none) (hlookahead : m.lookahead = none) :
      Stop m m.stack (.fatal (.inputExhausted m.cursor))
  | syntaxError {token : Symbol} (hrunning : m.verdict = none)
      (hlookahead : m.lookahead = some token)
      (hlookup : m.model.lookupAction m.state token m.useOverrides = .notFound) :
      Stop m m.stack (.rejected (.syntaxError m.state token m.cursor))
  | conflict {token : Symbol} {candidates : List Action} (hrunning : m.verdict = none)
      (hlookahead : m.lookahead = some token)
      (hlookup : m.model.lookupAction m.state token m.useOverrides = .conflict candidates) :
      Stop m m.stack (.rejected (.conflict m.state token))
  | unresolvedOverride {token : Symbol} {candidates : List Action} (hrunning : m.verdict = none)
      (hlookahead : m.lookahead = some token)
      (hlookup : m.model.lookupAction m.state token m.useOverrides =
        .unresolvedOverride candidates) :
      Stop m m.stack (.rejected (.malformedEntry m.state token "override"
        ("override cell holds " ++ toString candidates.length ++ " candidate actions")))
  | accept {token : Symbol} {source : Source} (hconsults : m.Consults token .accept source) :
      Stop m m.stack .accepted
  | malformed {token : Symbol} {source : Source} {actionType detail : String}
      (hconsults : m.Consults token (.malformed actionType detail) source) :
      Stop m m.stack (.rejected (.malformedEntry m.state token actionType detail))
  | goto {token : Symbol} {source : Source} {destination : StateId}
      (hconsults : m.Consults token (.goto destination) source) :
      Stop m m.stack (.rejected (.unknownAction m.state token "goto"))
  | unknown {token : Symbol} {source : Source} {actionType : String}
      (hconsults : m.Consults token (.unknown actionType) source) :
      Stop m m.stack (.rejected (.unknownAction m.state token actionType))
  | missingProduction {token : Symbol} {action : Action} {source : Source} {rule : RuleId}
      (hconsults : m.Consults token action source) (hrule : action.reduceRule? = some rule)
      (hproduction : m.model.productions.get? rule = none) :
      Stop m m.stack (.fatal (.missingProduction rule))
  | stackUnderflow {token : Symbol} {action : Action} {source : Source} {rule : RuleId}
      {production : Production} (hconsults : m.Consults token action source)
      (hrule : action.reduceRule? = some rule)
      (hproduction : m.model.productions.get? rule = some production)
      (hpop : m.stack.pop? production.arity = none) :
      Stop m m.stack (.fatal (.stackUnderflow rule (2 * production.arity + 1) m.stack.size))
  | missingGoto {token : Symbol} {action : Action} {source : Source} {rule : RuleId}
      {production : Production} {exposed : Stack} {fault : Fault}
      (hconsults : m.Consults token action source) (hrule : action.reduceRule? = some rule)
      (hproduction : m.model.productions.get? rule = some production)
      (hpop : m.stack.pop? production.arity = some exposed)
      (hgoto : m.model.lookupGoto exposed.top production.lhs = .error fault) :
      Stop m exposed (.fatal (.missingGoto exposed.top production.lhs))

/-! ## The step function follows the relations -/

variable {m m' : Machine}

theorem Consults.step_eq {token : Symbol} {action : Action} {source : Source}
    (h : m.Consults token action source) : m.step = m.perform token action source := by
  simp only [step, h.running, h.lookahead, consult, h.found]

theorem Advance.running_after {t : Transition} (h : m.Advance m' t) : m'.verdict = none := by
  cases h with
  | shift h => exact h.running
  | reduce h => exact h.running

theorem Stop.running {s : Stack} {v : Verdict} (h : m.Stop s v) : m.verdict = none := by
  cases h <;> first | assumption | exact Consults.running ‹_›

theorem perform_of_shiftTarget {action : Action} {destination : StateId}
    (h : action.shiftTarget? = some destination) (token : Symbol) (source : Source) :
    m.perform token action source = m.shift token destination source := by
  cases action <;> cases h <;> rfl

theorem perform_of_reduceRule {action : Action} {rule : RuleId}
    (h : action.reduceRule? = some rule) (token : Symbol) (source : Source) :
    m.perform token action source = m.reduce rule source := by
  cases action <;> cases h <;> rfl

theorem Advance.step_eq {t : Transition} (h : m.Advance m' t) : m.step = (m', .next t) := by
  cases h with
  | shift hconsults htarget =>
    rw [hconsults.step_eq, perform_of_shiftTarget htarget]
    rfl
  | reduce hconsults hrule hproduction hpop hgoto =>
    rw [hconsults.step_eq, perform_of_reduceRule hrule]
    simp only [Machine.reduce, Model.lookupProduction_eq_ok_iff.2 hproduction, hpop, hgoto]

theorem Stop.step_eq {s : Stack} {v : Verdict} (h : m.Stop s v) :
    m.step = ({ m with stack := s, verdict := some v }, .halt v) := by
  cases h with
  | inputExhausted hrunning hlookahead => simp only [step, hrunning, hlookahead, halt]
  | syntaxError hrunning hlookahead hlookup =>
    simp only [step, hrunning, hlookahead, consult, hlookup, halt]
  | conflict hrunning hlookahead hlookup =>
    simp only [step, hrunning, hlookahead, consult, hlookup, halt]
  | unresolvedOverride hrunning hlookahead hlookup =>
    simp only [step, hrunning, hlookahead, consult, hlookup, halt]
  | accept hconsults => rw [hconsults.step_eq]; rfl
  | malformed hconsults => rw [hconsults.step_eq]; rfl
  | goto hconsults => rw [hconsults.step_eq]; rfl
  | unknown hconsults => rw [hconsults.step_eq]; rfl
  | missingProduction hconsults hrule hproduction =>
    rw [hconsults.step_eq, perform_of_reduceRule hrule]
    simp only [Machine.reduce, Model.lookupProduction_eq_error_iff.2 ⟨rfl, hproduction⟩, halt]
  | stackUnderflow hconsults hrule hproduction hpop =>
    rw [hconsults.step_eq, perform_of_reduceRule hrule]
    simp only [Machine.reduce, Model.lookupProduction_eq_ok_iff.2 hproduction, hpop, halt]
  | missingGoto hconsults hrule hproduction hpop hgoto =>
    obtain ⟨rfl, -⟩ := Model.lookupGoto_eq_error_iff.1 hgoto
    rw [hconsults.step_eq, perform_of_reduceRule hrule]
    simp only [Machine.reduce, Model.lookupProduction_eq_ok_iff.2 hproduction, hpop, hgoto, halt]

/-- A reduction either goes through or stops the run. -/
theorem Consults.advance_or_stop_of_reduceRule {token : Symbol} {action : Action} {source : Source}
    {rule : RuleId} (h : m.Consults token action source) (hrule : action.reduceRule? = some rule) :
    (∃ m' t, m.Advance m' t) ∨ ∃ s v, m.Stop s v := by
  cases hproduction : m.model.productions.get? rule with
  | none => exact .inr ⟨_, _, .missingProduction h hrule hproduction⟩
  | some production =>
    cases hpop : m.stack.pop? production.arity with
    | none => exact .inr ⟨_, _, .stackUnderflow h hrule hproduction hpop⟩
    | some exposed =>
      cases hgoto : m.model.lookupGoto exposed.top production.lhs with
      | error fault => exact .inr ⟨_, _, .missingGoto h hrule hproduction hpop hgoto⟩
      | ok destination => exact .inl ⟨_, _, .reduce h hrule hproduction hpop hgoto⟩

/-- There is no third way, and no step is stuck. -/
theorem advance_or_stop (hrunning : m.verdict = none) :
    (∃ m' t, m.Advance m' t) ∨ ∃ s v, m.Stop s v := by
  cases hlookahead : m.lookahead with
  | none => exact .inr ⟨_, _, .inputExhausted hrunning hlookahead⟩
  | some token =>
    cases hlookup : m.model.lookupAction m.state token m.useOverrides with
    | notFound => exact .inr ⟨_, _, .syntaxError hrunning hlookahead hlookup⟩
    | conflict candidates => exact .inr ⟨_, _, .conflict hrunning hlookahead hlookup⟩
    | unresolvedOverride candidates =>
      exact .inr ⟨_, _, .unresolvedOverride hrunning hlookahead hlookup⟩
    | found action source =>
      have h : m.Consults token action source := ⟨hrunning, hlookahead, hlookup⟩
      cases action with
      | shift destination => exact .inl ⟨_, _, .shift h rfl⟩
      | mergedShift destination => exact .inl ⟨_, _, .shift h rfl⟩
      | reduce rule => exact h.advance_or_stop_of_reduceRule rfl
      | mergedReduce rule => exact h.advance_or_stop_of_reduceRule rfl
      | goto destination => exact .inr ⟨_, _, .goto h⟩
      | accept => exact .inr ⟨_, _, .accept h⟩
      | malformed actionType detail => exact .inr ⟨_, _, .malformed h⟩
      | unknown actionType => exact .inr ⟨_, _, .unknown h⟩

/-- A settled verdict is repeated and changes nothing. -/
theorem step_of_settled {v : Verdict} (h : m.verdict = some v) : m.step = (m, .halt v) := by
  simp only [step, h]

theorem step_eq_next_iff {t : Transition} : m.step = (m', .next t) ↔ m.Advance m' t := by
  refine ⟨fun h => ?_, Advance.step_eq⟩
  cases hverdict : m.verdict with
  | some v =>
    rw [step_of_settled hverdict] at h
    cases h
  | none =>
    rcases advance_or_stop hverdict with ⟨m₁, t₁, hadvance⟩ | ⟨s, v, hstop⟩
    · rw [hadvance.step_eq] at h
      cases h
      exact hadvance
    · rw [hstop.step_eq] at h
      cases h

theorem step_eq_halt_iff (hrunning : m.verdict = none) {v : Verdict} :
    m.step = (m', .halt v) ↔ ∃ s, m.Stop s v ∧ m' = { m with stack := s, verdict := some v } := by
  constructor
  · intro h
    rcases advance_or_stop hrunning with ⟨m₁, t₁, hadvance⟩ | ⟨s, v₁, hstop⟩
    · rw [hadvance.step_eq] at h
      cases h
    · rw [hstop.step_eq] at h
      cases h
      exact ⟨s, hstop, rfl⟩
  · rintro ⟨s, hstop, rfl⟩
    exact hstop.step_eq

/-- A step that settles a verdict leaves the stack alone, but for a missing transition, which is
    found out only when the right side is gone. -/
theorem Stop.stack_eq {s : Stack} {v : Verdict} (h : m.Stop s v)
    (hv : ∀ state symbol, v ≠ .fatal (.missingGoto state symbol)) : s = m.stack := by
  cases h with
  | missingGoto => exact absurd rfl (hv _ _)
  | _ => rfl

end Machine

end ShiftReduce
