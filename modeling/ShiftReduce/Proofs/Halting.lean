import ShiftReduce.Proofs.History

/-!
# Machines that have halted

The step that settles a verdict moves nothing, but for one case: that a transition is missing is
found out only when the right side of the production is gone. From then on the verdict is all that
a caller gets. It may switch overrides, which is of no use to a machine that consults no table.

* `Machine.ComesToRest`: what the step that settles a verdict does.
* `Machine.RestsLike`: what becomes of the machine afterwards.

Results:
* `Machine.Stop.comesToRest`: each way to stop leaves the machine in the way described.
* `Machine.session_of_settled`: no operation but a switch does anything to a machine with a verdict.
* `Machine.verdict_session_iff`: so the verdict of a session is that of the step that settles it.
* `Machine.halting_is_final`: both together, from any point.
-/

namespace ShiftReduce

namespace Machine

variable {m m' : Machine} {s : Stack} {v : Verdict}

/-! ## The step that settles the verdict -/

/-- `m` comes to rest as `m'` when its step settles the verdict `v`. -/
structure ComesToRest (m m' : Machine) (v : Verdict) : Prop where
  /-- The verdict is kept. -/
  verdict : m'.verdict = some v
  /-- No token is consumed. -/
  cursor : m'.cursor = m.cursor
  /-- The stack is left alone, unless it is a transition that is missing. -/
  stack (h : ∀ state symbol, v ≠ .fatal (.missingGoto state symbol)) : m'.stack = m.stack
  /-- If it is, the pairs of a right side are gone from the top and nothing is there in their place.
      The verdict names the state that is now on top and the left side. -/
  popped {state : StateId} {symbol : Symbol} (h : v = .fatal (.missingGoto state symbol)) :
    ∃ rule p right, m.ReducesBy rule ∧ m.model.productions.get? rule = some p ∧
      right.length = p.rhs.length ∧ m.stack.pairs = right ++ m'.stack.pairs ∧
      m'.stack.bottom = m.stack.bottom ∧ state = m'.stack.top ∧ symbol = p.lhs

theorem Stop.comesToRest (h : m.Stop s v) :
    m.ComesToRest { m with stack := s, verdict := some v } v where
  verdict := rfl
  cursor := rfl
  stack := h.stack_eq
  popped {state symbol} hv := by
    cases h with
    | @missingGoto token action source rule p _ _ hconsults hrule hproduction hpop =>
      cases hv
      obtain ⟨hlength, rfl⟩ := Stack.pop?_eq_some_iff.1 hpop
      refine ⟨rule, p, m.stack.pairs.take p.arity, ⟨token, action, source, hconsults, hrule⟩,
        hproduction, ?_, ?_, rfl, rfl, rfl⟩
      · rw [List.length_take, Nat.min_eq_left hlength]
        rfl
      · exact (List.take_append_drop p.arity m.stack.pairs).symm
    | _ => cases hv

/-! ## Afterwards -/

/-- Nothing but a switch of the overrides happens to a machine with a verdict. -/
theorem session_of_settled (h : m.verdict = some v) (ops : List Operation) :
    ∃ enabled, m.session ops = m.setOverrides enabled := by
  induction ops generalizing m with
  | nil => exact ⟨m.useOverrides, rfl⟩
  | cons op ops ih =>
    cases op with
    | step =>
      rw [session_cons, operate, step_of_settled h]
      exact ih h
    | switch enabled =>
      obtain ⟨last, hlast⟩ := ih (m := m.setOverrides enabled) h
      exact ⟨last, hlast⟩

theorem verdict_session_of_settled (h : m.verdict = some v) (ops : List Operation) :
    (m.session ops).verdict = some v := by
  obtain ⟨enabled, hsession⟩ := session_of_settled h ops
  rw [hsession]
  exact h

/-- A session comes to a verdict with the step that settles it, whatever is done before and
    afterwards. -/
theorem verdict_session_iff (hrunning : m.verdict = none) {ops : List Operation} :
    (m.session ops).verdict = some v ↔
      ∃ done rest s, ops = done ++ .step :: rest ∧ (m.session done).Stop s v := by
  constructor
  · intro h
    induction ops generalizing m with
    | nil =>
      rw [session_nil, hrunning] at h
      cases h
    | cons op ops ih =>
      cases op with
      | switch enabled =>
        obtain ⟨done, rest, s, rfl, hstop⟩ := ih (m := m.setOverrides enabled) hrunning h
        exact ⟨.switch enabled :: done, rest, s, rfl, hstop⟩
      | step =>
        rw [session_cons, operate] at h
        rcases advance_or_stop hrunning with ⟨m', t, hm⟩ | ⟨s, v', hm⟩
        · rw [hm.step_eq] at h
          obtain ⟨done, rest, s, rfl, hstop⟩ := ih hm.running_after h
          refine ⟨.step :: done, rest, s, rfl, ?_⟩
          rw [session_cons, operate, hm.step_eq]
          exact hstop
        · -- nothing that comes afterwards changes this verdict
          rw [hm.step_eq, verdict_session_of_settled rfl] at h
          cases h
          exact ⟨[], ops, s, rfl, hm⟩
  · rintro ⟨done, rest, s, rfl, hstop⟩
    rw [session_append, session_cons, operate, hstop.step_eq]
    exact verdict_session_of_settled rfl rest

/-- Each step of a machine with a verdict says so again. -/
theorem outcomes_of_settled (h : m.verdict = some v) (ops : List Operation) :
    m.outcomes ops = List.replicate (ops.count .step) (.halt v) := by
  induction ops generalizing m with
  | nil => rfl
  | cons op ops ih =>
    cases op with
    | step =>
      show m.step.2 :: m.step.1.outcomes ops = _
      rw [step_of_settled h, ih h, List.count_cons_self, List.replicate_succ]
    | switch enabled =>
      have hcount : (Operation.switch enabled :: ops).count .step = ops.count .step :=
        List.count_cons_of_ne (by simp)
      rw [hcount]
      exact ih (m := m.setOverrides enabled) h

/-- A machine with a verdict halts at once. -/
theorem haltsAfter_of_settled (h : m.verdict = some v) : m.HaltsAfter 0 v where
  goesOn i hi := absurd hi (Nat.not_lt_zero i)
  halts := by
    rw [after_zero, step_of_settled h]

/-- `m'` rests at the same point as `m`, with the verdict `v`. -/
structure RestsLike (m' m : Machine) (v : Verdict) : Prop where
  /-- The stacks are the same. -/
  stack : m'.stack = m.stack
  /-- The cursors are the same. -/
  cursor : m'.cursor = m.cursor
  /-- The verdict is kept. -/
  verdict : m'.verdict = some v
  /-- A run finds the verdict with its first step. -/
  run (fuel : Nat) : m'.run? (fuel + 1) = some v
  /-- So does a run with a history, and the history has no other line. -/
  runTraced (fuel : Nat) : m'.runTraced? (fuel + 1) = some (v, ⟨[{
    index := 0, state := m.state, lookahead := m.lookahead, position := m.cursor,
    stack := m.stack.items, action := v.label }]⟩)

theorem restsLike_setOverrides (h : m.verdict = some v) (enabled : Bool) :
    (m.setOverrides enabled).RestsLike m v where
  stack := rfl
  cursor := rfl
  verdict := h
  run fuel := by
    have hhalts : (m.setOverrides enabled).HaltsAfter 0 v := haltsAfter_of_settled h
    rw [hhalts.run?_eq, if_pos (Nat.succ_pos fuel)]
  runTraced fuel := by
    have hverdict : (m.setOverrides enabled).verdict = some v := h
    have haction : (m.setOverrides enabled).step.2.label = v.label := by
      rw [step_of_settled hverdict]
      rfl
    rw [(haltsAfter_of_settled hverdict).runTraced?_eq (Nat.succ_pos fuel), ← haction]
    rfl

/-- **Halting is final.** When the step of a machine settles a verdict, the cursor stays where it
    is. So does the stack, unless the verdict is that a transition is missing: then the right side
    of a production has been taken off. Whatever steps and switches come after that, each step says
    the same verdict again, and the stack, the cursor and the verdict stay as they are. A run, with
    or without a history, says it as well, and the history has a single line. -/
theorem halting_is_final {m : Machine} {v : Verdict} (hrunning : m.verdict = none)
    (hhalts : m.step.2 = .halt v) :
    m.ComesToRest m.step.1 v ∧
    ∀ ops, m.step.1.outcomes ops = List.replicate (ops.count .step) (.halt v) ∧
      (m.step.1.session ops).RestsLike m.step.1 v := by
  have hstep : m.step = (m.step.1, .halt v) := Prod.ext rfl hhalts
  obtain ⟨s, hstop, hafter⟩ := (step_eq_halt_iff hrunning).1 hstep
  rw [hafter]
  refine ⟨hstop.comesToRest, fun ops => ⟨outcomes_of_settled rfl ops, ?_⟩⟩
  obtain ⟨enabled, hsession⟩ := session_of_settled (m := { m with stack := s, verdict := some v })
    rfl ops
  rw [hsession]
  exact restsLike_setOverrides rfl enabled

/-- `optionalLetter` with nothing but an acceptance where there was a transition on S. -/
def lostTransition : Model :=
  { optionalLetter with table := optionalLetter.table.insertAction ⟨"1"⟩ "S" .accept }

/-- Over b $ the reduction to S finds no transition, after it has taken two pairs off. Nothing
    brings them back. -/
theorem halting_is_final_lostTransition :
    ((start lostTransition ["b", "$"]).session [.step, .step, .switch false]).stack.pairs =
      [("b", ⟨"4"⟩), ("A", ⟨"3"⟩)] ∧
    ((start lostTransition ["b", "$"]).session [.step, .step, .switch false]).step.2 =
      .halt (.fatal (.missingGoto ⟨"1"⟩ "S")) ∧
    ((start lostTransition ["b", "$"]).session [.step, .step, .switch false]).ComesToRest
      ⟨lostTransition, ["b", "$"], false, .initial ⟨"1"⟩, 1,
        some (.fatal (.missingGoto ⟨"1"⟩ "S"))⟩
      (.fatal (.missingGoto ⟨"1"⟩ "S")) ∧
    (((start lostTransition ["b", "$"]).session [.step, .step, .switch false]).step.1.session
        [.switch true, .step]).run? 1 =
      some (.fatal (.missingGoto ⟨"1"⟩ "S")) := by
  have hhalts : ((start lostTransition ["b", "$"]).session [.step, .step, .switch false]).step.2 =
      .halt (.fatal (.missingGoto ⟨"1"⟩ "S")) := by decide
  have hafter : ((start lostTransition ["b", "$"]).session [.step, .step, .switch false]).step.1 =
      ⟨lostTransition, ["b", "$"], false, .initial ⟨"1"⟩, 1,
        some (.fatal (.missingGoto ⟨"1"⟩ "S"))⟩ := by decide
  obtain ⟨hrest, hlater⟩ := halting_is_final (by decide) hhalts
  rw [hafter] at hrest
  exact ⟨by decide, hhalts, hrest, (hlater [.switch true, .step]).2.run 0⟩

end Machine

end ShiftReduce
