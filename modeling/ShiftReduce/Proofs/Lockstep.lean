import ShiftReduce.Proofs.FlatMachine
import ShiftReduce.Proofs.PastLabels

/-!
# The machine refines the automaton with a flat stack

A machine keeps a bottom state and pairs, the reference automaton a flat list. Laid out flat, a
machine is a reference automaton, and whatever the machine does the automaton does with it. It is
never stuck, since the items of a stack of pairs alternate.

Results:
* `Machine.step?_flatten`: a step of the automaton is a step of the machine.
* `Machine.halts_iff_settles`: a step settles exactly the verdicts whose condition holds.
* `Machine.inStep_session`: the two stay in step for as long as operations come.
-/

namespace ShiftReduce

/-- The cell that an answer to a look-up comes from, with its table. -/
def Lookup.cell? : Lookup → Option (Cell × Source)
  | found action source => some (.single action, source)
  | conflict candidates => some (.conflict candidates, .primary)
  | unresolvedOverride candidates => some (.conflict candidates, .override)
  | notFound => none

namespace Machine

/-- The machine with its stack laid out flat. -/
@[simps]
def flatten (m : Machine) : FlatMachine where
  model := m.model
  tokens := m.tokens
  useOverrides := m.useOverrides
  items := m.stack.items
  cursor := m.cursor
  verdict := m.verdict

variable {m m' : Machine} {s : StateId} {X : Symbol}

/-! ## The stack and the tables laid out flat -/

theorem topState?_items (stack : Stack) : FlatMachine.topState? stack.items = some stack.top := by
  rw [FlatMachine.topState?, Stack.getLast?_items]

theorem cut_flatten {production : Production} {exposed : Stack}
    (h : m.stack.pop? production.arity = some exposed) :
    m.flatten.cut production = exposed.items :=
  (Stack.items_of_pop? h).symm

theorem cell?_flatten :
    m.flatten.cell? s X = (m.model.lookupAction s X m.useOverrides).cell? := by
  have hcell : m.flatten.cell? s X =
      ((m.model.overrideCell? m.useOverrides s X).map (·, Source.override)).or
        ((m.model.table.get? s X).map (·, .primary)) := rfl
  rw [hcell, Model.lookupAction]
  rcases m.model.overrideCell? m.useOverrides s X with _ | _ | _
  · rcases m.model.table.get? s X with _ | _ | _ <;> rfl
  · rfl
  · rfl

theorem goto?_flatten {A : Symbol} :
    m.flatten.goto? s A = (m.model.lookupGoto s A).toOption := by
  rw [FlatMachine.goto?, Model.lookupGoto, flatten_model]
  rcases m.model.table.get? s A with _ | action | _
  · rfl
  · cases action <;> rfl
  · rfl

/-! ## Steps -/

theorem step?_flatten_of_lookahead (hrunning : m.verdict = none) (h : m.lookahead = some X) :
    m.flatten.step? = m.flatten.consult? m.state X := by
  have htoken : m.tokens[m.cursor]? = some X := h
  simp only [FlatMachine.step?, flatten_verdict, hrunning, flatten_tokens, flatten_cursor, htoken,
    flatten_items, topState?_items, state]

theorem Consults.step?_flatten {action : Action} {source : Source}
    (h : m.Consults X action source) :
    m.flatten.step? = m.flatten.execute? m.state X action source := by
  rw [step?_flatten_of_lookahead h.running h.lookahead, FlatMachine.consult?, cell?_flatten,
    h.found]
  rfl

theorem execute?_of_shiftTarget {f : FlatMachine} {action : Action} {d : StateId}
    (h : action.shiftTarget? = some d) (source : Source) :
    f.execute? s X action source = some (f.shift s X d source) := by
  cases action <;> cases h <;> rfl

theorem execute?_of_reduceRule {f : FlatMachine} {action : Action} {rule : RuleId}
    (h : action.reduceRule? = some rule) (source : Source) :
    f.execute? s X action source = f.reduce? s rule source := by
  cases action <;> cases h <;> rfl

/-- The cut goes through on the flat stack when the pairs can be taken off. -/
theorem reduce?_flatten {rule : RuleId} {production : Production} {exposed : Stack}
    (hproduction : m.model.productions.get? rule = some production)
    (hpop : m.stack.pop? production.arity = some exposed) (source : Source) :
    m.flatten.reduce? s rule source =
      match (m.model.lookupGoto exposed.top production.lhs).toOption with
      | none => some ({ m with stack := exposed }.flatten.halt
          (.fatal (.missingGoto exposed.top production.lhs)))
      | some d => some ({ m with stack := exposed.push production.lhs d }.flatten,
          .next (.reduce s rule production.lhs (2 * production.arity) d source)) := by
  have hlength : ¬ m.flatten.items.length ≤ 2 * production.rhs.length :=
    Nat.not_le_of_lt (Stack.exists_pop?_iff_items.1 ⟨exposed, hpop⟩)
  simp only [FlatMachine.reduce?, flatten_model, hproduction, if_neg hlength, cut_flatten hpop,
    topState?_items, goto?_flatten]
  cases m.model.lookupGoto exposed.top production.lhs with
  | error fault => rfl
  | ok d => simp only [Except.toOption, flatten, Stack.items_push, Production.arity]

/-- The cut does not go through when there are too few pairs. -/
theorem reduce?_flatten_of_pop?_eq_none {rule : RuleId} {production : Production}
    (hproduction : m.model.productions.get? rule = some production)
    (hpop : m.stack.pop? production.arity = none) (source : Source) :
    m.flatten.reduce? s rule source = some (m.flatten.halt
      (.fatal (.stackUnderflow rule (2 * production.arity + 1) m.stack.size))) := by
  have hlength : m.flatten.items.length ≤ 2 * production.rhs.length :=
    Nat.le_of_lt_succ (Stack.pop?_eq_none_iff_items.1 hpop)
  simp only [FlatMachine.reduce?, flatten_model, hproduction, if_pos hlength]
  rw [flatten_items, Stack.length_items, Production.arity]

theorem Advance.step?_flatten {t : Transition} (h : m.Advance m' t) :
    m.flatten.step? = some (m'.flatten, .next t) := by
  cases h with
  | shift hconsults htarget =>
    rw [hconsults.step?_flatten, execute?_of_shiftTarget htarget]
    simp only [FlatMachine.shift, flatten, Stack.items_push]
  | reduce hconsults hrule hproduction hpop hgoto =>
    rw [hconsults.step?_flatten, execute?_of_reduceRule hrule, reduce?_flatten hproduction hpop,
      hgoto]
    rfl

theorem Stop.step?_flatten {stack : Stack} {v : Verdict} (h : m.Stop stack v) :
    m.flatten.step? = some ({ m with stack, verdict := some v }.flatten, .halt v) := by
  cases h with
  | inputExhausted hrunning hlookahead =>
    have htoken : m.tokens[m.cursor]? = none := hlookahead
    simp only [FlatMachine.step?, flatten_verdict, hrunning, flatten_tokens, flatten_cursor, htoken]
    rfl
  | syntaxError hrunning hlookahead hlookup =>
    rw [step?_flatten_of_lookahead hrunning hlookahead, FlatMachine.consult?, cell?_flatten,
      hlookup]
    rfl
  | conflict hrunning hlookahead hlookup =>
    rw [step?_flatten_of_lookahead hrunning hlookahead, FlatMachine.consult?, cell?_flatten,
      hlookup]
    rfl
  | unresolvedOverride hrunning hlookahead hlookup =>
    rw [step?_flatten_of_lookahead hrunning hlookahead, FlatMachine.consult?, cell?_flatten,
      hlookup]
    rfl
  | accept hconsults => exact hconsults.step?_flatten
  | malformed hconsults => exact hconsults.step?_flatten
  | goto hconsults => exact hconsults.step?_flatten
  | unknown hconsults => exact hconsults.step?_flatten
  | missingProduction hconsults hrule hproduction =>
    rw [hconsults.step?_flatten, execute?_of_reduceRule hrule, FlatMachine.reduce?]
    simp only [flatten_model, hproduction]
    rfl
  | stackUnderflow hconsults hrule hproduction hpop =>
    rw [hconsults.step?_flatten, execute?_of_reduceRule hrule,
      reduce?_flatten_of_pop?_eq_none hproduction hpop]
    rfl
  | missingGoto hconsults hrule hproduction hpop hgoto =>
    rw [hconsults.step?_flatten, execute?_of_reduceRule hrule, reduce?_flatten hproduction hpop,
      hgoto]
    rfl

/-- A step of the automaton is a step of the machine. -/
theorem step?_flatten (m : Machine) : m.flatten.step? = some (m.step.1.flatten, m.step.2) := by
  cases hverdict : m.verdict with
  | some v =>
    simp only [FlatMachine.step?, flatten_verdict, hverdict, step_of_settled hverdict]
  | none =>
    rcases advance_or_stop hverdict with ⟨m', t, h⟩ | ⟨stack, v, h⟩
    · rw [h.step?_flatten, h.step_eq]
    · rw [h.step?_flatten, h.step_eq]

theorem session?_flatten (m : Machine) (ops : List Operation) :
    m.flatten.session? ops = some ((m.session ops).flatten, m.outcomes ops) := by
  induction ops generalizing m with
  | nil => rfl
  | cons op ops ih =>
    cases op with
    | switch enabled => exact ih (m.setOverrides enabled)
    | step =>
      rw [FlatMachine.session?, step?_flatten]
      simp only [Option.bind_eq_bind, Option.bind_some, ih]
      rfl

/-! ## Conditions of the verdicts -/

theorem at_flatten_iff : m.flatten.At s X ↔ s = m.state ∧ m.lookahead = some X := by
  unfold FlatMachine.At
  rw [flatten_items, topState?_items, Option.some_inj, eq_comm]
  rfl

theorem overrides_flatten_iff {cell : Cell} :
    m.flatten.Overrides s X cell ↔ m.model.overrideCell? m.useOverrides s X = some cell :=
  Model.overrideCell?_eq_some_iff.symm

theorem primary_flatten_iff {cell? : Option Cell} :
    m.flatten.Primary s X cell? ↔
      m.model.overrideCell? m.useOverrides s X = none ∧ m.model.table.get? s X = cell? := by
  unfold FlatMachine.Primary
  simp only [overrides_flatten_iff]
  rw [Option.eq_none_iff_forall_ne_some]
  rfl

theorem selects_flatten_iff {action : Action} :
    m.flatten.Selects s X action ↔
      ∃ source, m.model.lookupAction s X m.useOverrides = .found action source := by
  unfold FlatMachine.Selects
  rw [overrides_flatten_iff, primary_flatten_iff]
  simp only [Model.lookupAction_eq_found_iff]
  constructor
  · rintro (h | h)
    · exact ⟨.override, .inl ⟨rfl, h⟩⟩
    · exact ⟨.primary, .inr ⟨rfl, h⟩⟩
  · rintro ⟨source, ⟨-, h⟩ | ⟨-, h⟩⟩
    · exact .inl h
    · exact .inr h

theorem at_and_selects_flatten_iff (hrunning : m.verdict = none) {action : Action} :
    m.flatten.At s X ∧ m.flatten.Selects s X action ↔
      s = m.state ∧ ∃ source, m.Consults X action source := by
  rw [at_flatten_iff, selects_flatten_iff]
  constructor
  · rintro ⟨⟨rfl, hlookahead⟩, source, hfound⟩
    exact ⟨rfl, source, hrunning, hlookahead, hfound⟩
  · rintro ⟨rfl, source, h⟩
    exact ⟨⟨rfl, h.lookahead⟩, source, h.found⟩

theorem reduces_flatten_iff (hrunning : m.verdict = none) {rule : RuleId} :
    m.flatten.Reduces rule ↔
      ∃ X action source, m.Consults X action source ∧ action.reduceRule? = some rule := by
  constructor
  · rintro ⟨s, X, hat, h | h⟩
    · obtain ⟨-, source, h⟩ := (at_and_selects_flatten_iff hrunning).1 ⟨hat, h⟩
      exact ⟨X, _, source, h, rfl⟩
    · obtain ⟨-, source, h⟩ := (at_and_selects_flatten_iff hrunning).1 ⟨hat, h⟩
      exact ⟨X, _, source, h, rfl⟩
  · rintro ⟨X, action, source, h, hrule⟩
    obtain ⟨hat, hselects⟩ := (at_and_selects_flatten_iff hrunning).2 ⟨rfl, source, h⟩
    refine ⟨m.state, X, hat, ?_⟩
    cases action with
    | reduce => cases hrule; exact .inl hselects
    | mergedReduce => cases hrule; exact .inr hselects
    | _ => cases hrule

theorem Stop.settles {stack : Stack} {v : Verdict} (h : m.Stop stack v) :
    m.flatten.Settles v := by
  have hrunning := h.running
  cases h with
  | inputExhausted _ hlookahead => exact ⟨List.getElem?_eq_none_iff.1 hlookahead, rfl⟩
  | syntaxError _ hlookahead hlookup =>
    exact ⟨at_flatten_iff.2 ⟨rfl, hlookahead⟩, rfl,
      primary_flatten_iff.2 (Model.lookupAction_eq_notFound_iff.1 hlookup)⟩
  | conflict _ hlookahead hlookup =>
    exact ⟨at_flatten_iff.2 ⟨rfl, hlookahead⟩, _,
      primary_flatten_iff.2 (Model.lookupAction_eq_conflict_iff.1 hlookup)⟩
  | unresolvedOverride _ hlookahead hlookup =>
    exact ⟨at_flatten_iff.2 ⟨rfl, hlookahead⟩, .inr ⟨_,
      overrides_flatten_iff.2 (Model.lookupAction_eq_unresolvedOverride_iff.1 hlookup), rfl, rfl⟩⟩
  | accept h =>
    exact ⟨m.state, _, (at_and_selects_flatten_iff hrunning).2 ⟨rfl, _, h⟩⟩
  | malformed h =>
    obtain ⟨hat, hselects⟩ := (at_and_selects_flatten_iff hrunning).2 ⟨rfl, _, h⟩
    exact ⟨hat, .inl hselects⟩
  | goto h =>
    obtain ⟨hat, hselects⟩ := (at_and_selects_flatten_iff hrunning).2 ⟨rfl, _, h⟩
    exact ⟨hat, .inr ⟨rfl, _, hselects⟩⟩
  | unknown h =>
    obtain ⟨hat, hselects⟩ := (at_and_selects_flatten_iff hrunning).2 ⟨rfl, _, h⟩
    exact ⟨hat, .inl hselects⟩
  | missingProduction h hrule hproduction =>
    exact ⟨(reduces_flatten_iff hrunning).2 ⟨_, _, _, h, hrule⟩, hproduction⟩
  | stackUnderflow h hrule hproduction hpop =>
    exact ⟨(reduces_flatten_iff hrunning).2 ⟨_, _, _, h, hrule⟩, _, hproduction, rfl,
      (Stack.length_items _).symm,
      Stack.length_items _ ▸ Stack.pop?_eq_none_iff_items.1 hpop⟩
  | missingGoto h hrule hproduction hpop hgoto =>
    have htop : FlatMachine.topState? (m.flatten.cut _) = some _ :=
      (congrArg _ (cut_flatten hpop)).trans (topState?_items _)
    exact ⟨_, _, (reduces_flatten_iff hrunning).2 ⟨_, _, _, h, hrule⟩, hproduction,
      Stack.exists_pop?_iff_items.1 ⟨_, hpop⟩, htop, rfl,
      Model.exists_lookupGoto_error_iff.1 ⟨_, hgoto⟩⟩

/-- Whenever the condition of a verdict holds, a step settles it. -/
theorem exists_stop_of_settles (hrunning : m.verdict = none) {v : Verdict}
    (h : m.flatten.Settles v) : ∃ stack, m.Stop stack v := by
  match v with
  | .accepted =>
    obtain ⟨s, X, h⟩ := h
    obtain ⟨-, source, hconsults⟩ := (at_and_selects_flatten_iff hrunning).1 h
    exact ⟨_, .accept hconsults⟩
  | .rejected (.syntaxError s X position) =>
    obtain ⟨hat, rfl, hprimary⟩ := h
    obtain ⟨rfl, hlookahead⟩ := at_flatten_iff.1 hat
    exact ⟨_, .syntaxError hrunning hlookahead
      (Model.lookupAction_eq_notFound_iff.2 (primary_flatten_iff.1 hprimary))⟩
  | .rejected (.conflict s X) =>
    obtain ⟨hat, candidates, hprimary⟩ := h
    obtain ⟨rfl, hlookahead⟩ := at_flatten_iff.1 hat
    exact ⟨_, .conflict hrunning hlookahead
      (Model.lookupAction_eq_conflict_iff.2 (primary_flatten_iff.1 hprimary))⟩
  | .rejected (.malformedEntry s X actionType detail) =>
    obtain ⟨hat, hselects | ⟨candidates, hoverrides, rfl, rfl⟩⟩ := h
    · obtain ⟨rfl, source, hconsults⟩ := (at_and_selects_flatten_iff hrunning).1 ⟨hat, hselects⟩
      exact ⟨_, .malformed hconsults⟩
    · obtain ⟨rfl, hlookahead⟩ := at_flatten_iff.1 hat
      exact ⟨_, .unresolvedOverride hrunning hlookahead
        (Model.lookupAction_eq_unresolvedOverride_iff.2 (overrides_flatten_iff.1 hoverrides))⟩
  | .rejected (.unknownAction s X actionType) =>
    obtain ⟨hat, hselects | ⟨rfl, d, hselects⟩⟩ := h
    · obtain ⟨rfl, source, hconsults⟩ := (at_and_selects_flatten_iff hrunning).1 ⟨hat, hselects⟩
      exact ⟨_, .unknown hconsults⟩
    · obtain ⟨rfl, source, hconsults⟩ := (at_and_selects_flatten_iff hrunning).1 ⟨hat, hselects⟩
      exact ⟨_, .goto hconsults⟩
  | .fatal (.inputExhausted position) =>
    obtain ⟨hend, rfl⟩ := h
    exact ⟨_, .inputExhausted hrunning (List.getElem?_eq_none_iff.2 hend)⟩
  | .fatal (.missingProduction rule) =>
    obtain ⟨hreduces, hproduction⟩ := h
    obtain ⟨X, action, source, hconsults, hrule⟩ := (reduces_flatten_iff hrunning).1 hreduces
    exact ⟨_, .missingProduction hconsults hrule hproduction⟩
  | .fatal (.stackUnderflow rule needed available) =>
    obtain ⟨hreduces, production, hproduction, rfl, rfl, hlength⟩ := h
    obtain ⟨X, action, source, hconsults, hrule⟩ := (reduces_flatten_iff hrunning).1 hreduces
    rw [flatten_items, Stack.length_items]
    exact ⟨_, .stackUnderflow hconsults hrule hproduction
      (Stack.pop?_eq_none_iff_items.2 hlength)⟩
  | .fatal (.missingGoto s A) =>
    obtain ⟨rule, production, hreduces, hproduction, hlength, htop, rfl, hgoto⟩ := h
    obtain ⟨X, action, source, hconsults, hrule⟩ := (reduces_flatten_iff hrunning).1 hreduces
    -- the cut that uncovers `s` is a pop of as many pairs
    obtain ⟨exposed, hpop⟩ := Stack.exists_pop?_iff_items.2 hlength
    rw [cut_flatten hpop, topState?_items] at htop
    cases htop
    obtain ⟨fault, hfault⟩ := Model.exists_lookupGoto_error_iff.2 hgoto
    exact ⟨exposed, .missingGoto hconsults hrule hproduction hpop hfault⟩

/-- A step settles exactly the verdicts whose condition holds. -/
theorem halts_iff_settles (hrunning : m.verdict = none) {v : Verdict} :
    m.step.2 = .halt v ↔ m.flatten.Settles v := by
  constructor
  · intro h
    obtain ⟨stack, hstop, -⟩ := (step_eq_halt_iff hrunning).1 (Prod.ext rfl h)
    exact hstop.settles
  · intro h
    obtain ⟨stack, hstop⟩ := exists_stop_of_settles hrunning h
    rw [hstop.step_eq]

/-! ## In step for as long as operations come -/

/-- The automaton is at the same point as the machine, and a step of the machine settles the
    verdicts that are due in the automaton. -/
structure InStep (m : Machine) (f : FlatMachine) : Prop where
  /-- The flat stack shows the items of the machine. -/
  items : f.items = m.stack.items
  /-- It has as many items as the machine counts. -/
  length : f.items.length = m.stack.size
  /-- The number of items is odd. -/
  odd : f.items.length % 2 = 1
  /-- States are at even places and symbols at odd ones. -/
  alternates : ∀ i item, f.items[i]? = some item → item.isState = decide (i % 2 = 0)
  /-- The first item is a state. -/
  first : f.items.head? = some (.state m.stack.bottom)
  /-- The last item is the state of the machine. -/
  last : f.items.getLast? = some (.state m.state)
  /-- Both have consumed the same tokens. -/
  cursor : f.cursor = m.cursor
  /-- Overrides are in force in both or in neither. -/
  useOverrides : f.useOverrides = m.useOverrides
  /-- Both have the same verdict, or none. -/
  verdict : f.verdict = m.verdict
  /-- As long as there is none, a step settles exactly the verdicts whose condition holds. -/
  halts : m.verdict = none → ∀ v, m.step.2 = .halt v ↔ f.Settles v

theorem inStep_flatten (m : Machine) : m.InStep m.flatten where
  items := rfl
  length := m.stack.length_items
  odd := m.stack.length_items ▸ m.stack.size_mod_two
  alternates _ _ h := m.stack.isState_items h
  first := m.stack.head?_items
  last := m.stack.getLast?_items
  cursor := rfl
  useOverrides := rfl
  verdict := rfl
  halts hrunning _ := halts_iff_settles hrunning

/-- Whatever steps and switches come, the automaton with the flat stack is never stuck, every step
    comes to the same in both, and both are at the same point afterwards. -/
theorem inStep_session (M : Model) (tokens : List Symbol) (ops : List Operation) :
    ∃ f, (FlatMachine.start M tokens).session? ops = some (f, (start M tokens).outcomes ops) ∧
      ((start M tokens).session ops).InStep f :=
  ⟨_, session?_flatten (start M tokens) ops, inStep_flatten _⟩

/-- After an empty reduction and a shift the flat stack of `optionalLetter` has five items. With
    overrides switched off, what is due in the automaton at the first letter is a conflict. -/
theorem inStep_optionalLetter :
    (∃ f, (FlatMachine.start optionalLetter ["b", "$"]).session? [.step, .switch false, .step] =
        some (f, [.next (.reduce ⟨"1"⟩ ⟨"0"⟩ "A" 0 ⟨"3"⟩ .override),
          .next (.shift ⟨"3"⟩ "b" ⟨"4"⟩ .primary)]) ∧
      f.items = [.state ⟨"1"⟩, .symbol "A", .state ⟨"3"⟩, .symbol "b", .state ⟨"4"⟩]) ∧
    ∃ f, (FlatMachine.start optionalLetter ["b", "$"]).session? [.switch false] = some (f, []) ∧
      f.Settles (.rejected (.conflict ⟨"1"⟩ "b")) := by
  have houtcomes : (start optionalLetter ["b", "$"]).outcomes [.step, .switch false, .step] =
      [.next (.reduce ⟨"1"⟩ ⟨"0"⟩ "A" 0 ⟨"3"⟩ .override),
        .next (.shift ⟨"3"⟩ "b" ⟨"4"⟩ .primary)] := by decide
  obtain ⟨f, hf, hinStep⟩ :=
    inStep_session optionalLetter ["b", "$"] [.step, .switch false, .step]
  obtain ⟨f', hf', hinStep'⟩ := inStep_session optionalLetter ["b", "$"] [.switch false]
  rw [houtcomes] at hf
  refine ⟨⟨f, hf, hinStep.items.trans (by decide)⟩, f', hf', ?_⟩
  exact (hinStep'.halts (by decide) _).1 (by decide)

end Machine

end ShiftReduce
