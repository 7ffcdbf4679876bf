import ShiftReduce.Proofs.Run

/-!
# What a run consults

A step consults little: the token under the cursor, the entry for the state on top at that token,
the production of the rule that it reduces by, and the transition out of the state that it
uncovers. Another model, over another input, that gives the same answers to these questions makes
the machine do the same. It may have the action in its other table, which shows in the label of a
transition and nowhere else.

Results:
* `Machine.AnswersLike`: the answers are those that the step of a machine is given.
* `Machine.step_transfer`: then the step is the same.
* `Machine.after_transfer`: a run is the same for as long as the answers are.
-/

namespace ShiftReduce

/-! ## Labels of tables -/

/-- The answer with another label. -/
def Lookup.relabel (f : Source → Source) : Lookup → Lookup
  | found action source => found action (f source)
  | conflict candidates => conflict candidates
  | unresolvedOverride candidates => unresolvedOverride candidates
  | notFound => notFound

/-- The transition with another label. -/
def Transition.relabel (f : Source → Source) : Transition → Transition
  | shift state token destination source => shift state token destination (f source)
  | reduce state rule lhs popped goto source => reduce state rule lhs popped goto (f source)

/-- The step with another label on its transition. A verdict has none. -/
def Step.relabel (f : Source → Source) : Step → Step
  | next t => next (t.relabel f)
  | halt v => halt v

@[simp] theorem Lookup.relabel_id (l : Lookup) : l.relabel id = l := by
  cases l <;> rfl

@[simp] theorem Step.relabel_id (s : Step) : s.relabel id = s := by
  cases s with
  | next t => cases t <;> rfl
  | halt v => rfl

namespace Machine

variable {m m' : Machine} {f : Source → Source} {M : Model} {tokens : List Symbol} {enabled : Bool}
  {n : Nat}

/-! ## Machines at the same point -/

/-- Both machines have the same stack, have consumed the same number of tokens, and have the same
    verdict or none. -/
structure SamePoint (m m' : Machine) : Prop where
  /-- The stacks are the same. -/
  stack : m.stack = m'.stack
  /-- The cursors are the same. -/
  cursor : m.cursor = m'.cursor
  /-- The verdicts are the same. -/
  verdict : m.verdict = m'.verdict

/-- The machine at the same point of a run of another model over another input. -/
@[simps]
def transfer (m : Machine) (M : Model) (tokens : List Symbol) (enabled : Bool) : Machine :=
  { m with model := M, tokens, useOverrides := enabled }

theorem samePoint_transfer (m : Machine) (M : Model) (tokens : List Symbol) (enabled : Bool) :
    m.SamePoint (m.transfer M tokens enabled) := ⟨rfl, rfl, rfl⟩

/-! ## The same answers -/

/-- `m` is about to reduce by `rule`, whether it goes through or not. -/
def ReducesBy (m : Machine) (rule : RuleId) : Prop :=
  ∃ token action source, m.Consults token action source ∧ action.reduceRule? = some rule

/-- `M`, over `tokens`, gives the answers that the step of `m` is given, up to the label. -/
structure AnswersLike (m : Machine) (f : Source → Source) (M : Model) (tokens : List Symbol)
    (enabled : Bool) : Prop where
  /-- The same token is under the cursor. -/
  lookahead : m.verdict = none → tokens[m.cursor]? = m.lookahead
  /-- The same is to be done at it. -/
  action : ∀ token, m.verdict = none → m.lookahead = some token →
    M.lookupAction m.state token enabled =
      (m.model.lookupAction m.state token m.useOverrides).relabel f
  /-- The rule, if it is a reduction, has the same production. -/
  production : ∀ rule, m.ReducesBy rule → M.productions.get? rule = m.model.productions.get? rule
  /-- The state that the reduction uncovers has the same transition. -/
  goto : ∀ rule p exposed, m.ReducesBy rule → m.model.productions.get? rule = some p →
    m.stack.pop? p.arity = some exposed →
    M.lookupGoto exposed.top p.lhs = m.model.lookupGoto exposed.top p.lhs

/-! ## The same steps -/

theorem reduce_transfer (h : m.AnswersLike f M tokens enabled) {rule : RuleId}
    (hrule : m.ReducesBy rule) (source : Source) :
    (m.transfer M tokens enabled).reduce rule (f source) =
      ((m.reduce rule source).1.transfer M tokens enabled, (m.reduce rule source).2.relabel f) := by
  have hproduction : M.lookupProduction rule = m.model.lookupProduction rule := by
    rw [Model.lookupProduction, h.production rule hrule, Model.lookupProduction]
  simp only [reduce, transfer_model, transfer_stack, hproduction]
  cases hp : m.model.lookupProduction rule with
  | error fault => rfl
  | ok p =>
    dsimp only
    cases hpop : m.stack.pop? p.arity with
    | none => rfl
    | some exposed =>
      have hget := Model.lookupProduction_eq_ok_iff.1 hp
      have hgoto := h.goto rule p exposed hrule hget hpop
      dsimp only
      rw [hgoto]
      cases m.model.lookupGoto exposed.top p.lhs with
      | error fault => rfl
      | ok destination => rfl

theorem perform_transfer (h : m.AnswersLike f M tokens enabled) {token : Symbol} {action : Action}
    {source : Source} (hconsults : m.Consults token action source) :
    (m.transfer M tokens enabled).perform token action (f source) =
      ((m.perform token action source).1.transfer M tokens enabled,
        (m.perform token action source).2.relabel f) := by
  cases action with
  | reduce rule => exact reduce_transfer h ⟨_, _, _, hconsults, rfl⟩ source
  | mergedReduce rule => exact reduce_transfer h ⟨_, _, _, hconsults, rfl⟩ source
  | _ => rfl

theorem consult_transfer (h : m.AnswersLike f M tokens enabled) (hrunning : m.verdict = none)
    {token : Symbol} (htoken : m.lookahead = some token) :
    (m.transfer M tokens enabled).consult token =
      ((m.consult token).1.transfer M tokens enabled, (m.consult token).2.relabel f) := by
  have haction : (m.transfer M tokens enabled).model.lookupAction
      (m.transfer M tokens enabled).state token (m.transfer M tokens enabled).useOverrides =
      (m.model.lookupAction m.state token m.useOverrides).relabel f :=
    h.action token hrunning htoken
  unfold consult
  rw [haction]
  cases hfound : m.model.lookupAction m.state token m.useOverrides with
  | found action source => exact perform_transfer h ⟨hrunning, htoken, hfound⟩
  | conflict candidates => rfl
  | unresolvedOverride candidates => rfl
  | notFound => rfl

/-- Given the same answers, the step is the same. -/
theorem step_transfer (h : m.AnswersLike f M tokens enabled) :
    (m.transfer M tokens enabled).step =
      (m.step.1.transfer M tokens enabled, m.step.2.relabel f) := by
  cases hverdict : m.verdict with
  | some v =>
    rw [step_of_settled hverdict, step_of_settled (m := m.transfer M tokens enabled) hverdict]
    rfl
  | none =>
    have hverdict' : (m.transfer M tokens enabled).verdict = none := hverdict
    have hlookahead : (m.transfer M tokens enabled).lookahead = m.lookahead := h.lookahead hverdict
    cases htoken : m.lookahead with
    | none =>
      simp only [step, hverdict, hverdict', hlookahead, htoken]
      rfl
    | some token =>
      simp only [step, hverdict, hverdict', hlookahead, htoken]
      exact consult_transfer h hverdict htoken

/-- A run is the same for as long as the answers are. -/
theorem after_transfer (h : ∀ k, k < n → (m.after k).AnswersLike f M tokens enabled) :
    (m.transfer M tokens enabled).after n = (m.after n).transfer M tokens enabled := by
  induction n with
  | zero => rfl
  | succ n ih =>
    rw [after_succ, ih fun k hk => h k (Nat.lt_succ_of_lt hk),
      step_transfer (h n (Nat.lt_succ_self n)), after_succ]

/-- If the answers are the same throughout, so is the run. -/
theorem run_transfer (h : ∀ k, (m.after k).AnswersLike f M tokens enabled) (n : Nat) :
    (m.after n).SamePoint ((m.transfer M tokens enabled).after n) ∧
      ((m.transfer M tokens enabled).after n).step.2 = (m.after n).step.2.relabel f := by
  rw [after_transfer fun k _ => h k, step_transfer (h n)]
  exact ⟨samePoint_transfer _ _ _ _, rfl⟩

end Machine

end ShiftReduce
