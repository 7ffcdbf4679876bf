import ShiftReduce.Proofs.Run

/-!
# Pieces of runs

A piece of a run is a list of transitions that leads from one machine to another. Pieces are put
together end to end, and a piece that leads to a machine that stops is a whole run.

* `Machine.Advances`: pieces of runs.
* `Machine.midway`: a machine in the middle of a run, by its stack and its cursor.

Results:
* `Machine.Advances.append`: a piece and what follows it make up one piece.
* `Machine.Advances.settlesAfter`, `Machine.Advances.outcomes_of_stop`: a piece and the step that
  stops behind it make up a run, of which they are all the outcomes.
* `Machine.midway_shift`, `Machine.midway_reduce`: the pieces that consist of one transition.
-/

namespace ShiftReduce

namespace Machine

variable {m m' m'' : Machine} {t : Transition} {ts ts' : List Transition} {v : Verdict}
variable {stack : Stack}

/-! ## Transitions one after the other -/

/-- The steps of `m` go through the transitions of a list, first one first, and lead to another
    machine. -/
inductive Advances : Machine → List Transition → Machine → Prop
  | refl (m : Machine) : Advances m [] m
  | cons {m m' m'' : Machine} {t : Transition} {ts : List Transition} (hfirst : m.Advance m' t)
      (hrest : Advances m' ts m'') : Advances m (t :: ts) m''

theorem Advance.advances (h : m.Advance m' t) : m.Advances [t] m' := .cons h (.refl m')

theorem Advances.append (h : m.Advances ts m') (h' : m'.Advances ts' m'') :
    m.Advances (ts ++ ts') m'' := by
  induction h with
  | refl m => exact h'
  | cons hfirst _ ih => exact .cons hfirst (ih h')

/-- A piece is as many steps of a run as it has transitions. -/
theorem Advances.after_eq (h : m.Advances ts m') : m.after ts.length = m' := by
  induction h with
  | refl m => rfl
  | cons hfirst _ ih =>
    rw [List.length_cons, after_succ_left, hfirst.step_eq]
    exact ih

/-- The transitions are what the steps come to. -/
theorem Advances.outcomes_eq (h : m.Advances ts m') :
    m.outcomes (List.replicate ts.length .step) = ts.map .next := by
  induction h with
  | refl m => rfl
  | @cons m m' m'' t ts hfirst _ ih =>
    rw [List.length_cons, List.replicate_succ, outcomes, outcome?, operate, hfirst.step_eq]
    exact congrArg (Step.next t :: ·) ih

/-- A piece that leads to a machine that stops is a run. -/
theorem Advances.settlesAfter (h : m.Advances ts m') (hstop : m'.Stop stack v) :
    m.SettlesAfter ts.length v where
  running := by
    rw [h.after_eq]
    exact hstop.running
  halts := by
    rw [h.after_eq, hstop.step_eq]

/-- The outcomes of this run are the transitions and, last of all, the verdict. -/
theorem Advances.outcomes_of_stop (h : m.Advances ts m') (hstop : m'.Stop stack v) :
    m.outcomes (List.replicate (ts.length + 1) .step) = ts.map .next ++ [.halt v] := by
  rw [List.replicate_succ', outcomes_concat, h.outcomes_eq, ← after_eq_session, h.after_eq,
    outcome?, hstop.step_eq]
  rfl

/-! ## Machines in the middle of a run -/

/-- A machine without a verdict, with a stack and the cursor somewhere. -/
def midway (M : Model) (tokens : List Symbol) (enabled : Bool) (stack : Stack) (cursor : Nat) :
    Machine where
  model := M
  tokens := tokens
  useOverrides := enabled
  stack := stack
  cursor := cursor

variable {M : Model} {tokens : List Symbol} {enabled : Bool} {cursor : Nat} {token : Symbol}
variable {source : Source}

theorem fresh_eq_midway (M : Model) (tokens : List Symbol) (enabled : Bool) :
    fresh M tokens enabled = midway M tokens enabled (.initial M.startState) 0 := rfl

theorem consults_midway {action : Action} (htoken : tokens[cursor]? = some token)
    (hfound : M.lookupAction stack.top token enabled = .found action source) :
    (midway M tokens enabled stack cursor).Consults token action source :=
  ⟨rfl, htoken, hfound⟩

/-- A shift goes on to the next token. -/
theorem midway_shift {destination : StateId} (htoken : tokens[cursor]? = some token)
    (hfound : M.lookupAction stack.top token enabled = .found (.shift destination) source) :
    (midway M tokens enabled stack cursor).Advances [.shift stack.top token destination source]
      (midway M tokens enabled (stack.push token destination) (cursor + 1)) :=
  Advance.advances (.shift (consults_midway htoken hfound) rfl)

/-- A reduction stays at the token and looks up where to go on from. -/
theorem midway_reduce {rule : RuleId} {p : Production} {exposed : Stack} {destination : StateId}
    (htoken : tokens[cursor]? = some token)
    (hfound : M.lookupAction stack.top token enabled = .found (.reduce rule) source)
    (hproduction : M.productions.get? rule = some p) (hpop : stack.pop? p.arity = some exposed)
    (hgoto : M.lookupGoto exposed.top p.lhs = .ok destination) :
    (midway M tokens enabled stack cursor).Advances
      [.reduce stack.top rule p.lhs (2 * p.arity) destination source]
      (midway M tokens enabled (exposed.push p.lhs destination) cursor) :=
  Advance.advances (.reduce (consults_midway htoken hfound) rfl hproduction hpop hgoto)

end Machine

end ShiftReduce
