import Mathlib.Data.List.Induction
import ShiftReduce.Proofs.Step

/-!
# Sessions

A caller steps a machine and switches overrides on and off, in any order and as often as it likes.
A session is such a sequence of operations.

Results:
* `Machine.session_invariant`: what every way to step and every switch preserve holds throughout a
  session.
* `Machine.mem_outcomes_iff`: the outcomes of a session are the outcomes of steps at its points.
* `Machine.exists_stop_of_halt`: a verdict goes back to the step that settled it.
* `Machine.history_induction`: the induction over the sessions all of whose steps went on, with the
  transitions so far.
-/

namespace ShiftReduce

/-- Something that a caller does with a machine. -/
inductive Operation where
  /-- The machine makes a step. -/
  | step
  /-- Overrides are switched on or off. -/
  | switch (enabled : Bool)
deriving DecidableEq, Repr

namespace Machine

/-! ## Operations one after the other -/

/-- The machine after an operation. -/
def operate (m : Machine) : Operation → Machine
  | .step => m.step.1
  | .switch enabled => m.setOverrides enabled

/-- What an operation came to, if it is a step. -/
def outcome? (m : Machine) : Operation → Option Step
  | .step => some m.step.2
  | .switch _ => none

/-- The machine after a sequence of operations. -/
def session (m : Machine) (ops : List Operation) : Machine := ops.foldl operate m

/-- What the steps of a sequence of operations came to, first step first. -/
def outcomes : Machine → List Operation → List Step
  | _, [] => []
  | m, op :: ops => (m.outcome? op).toList ++ (m.operate op).outcomes ops

@[simp] theorem session_nil (m : Machine) : m.session [] = m := rfl

@[simp] theorem session_cons (m : Machine) (op : Operation) (ops : List Operation) :
    m.session (op :: ops) = (m.operate op).session ops := rfl

theorem session_append (m : Machine) (ops ops' : List Operation) :
    m.session (ops ++ ops') = (m.session ops).session ops' := List.foldl_append

theorem outcomes_append (m : Machine) (ops ops' : List Operation) :
    m.outcomes (ops ++ ops') = m.outcomes ops ++ (m.session ops).outcomes ops' := by
  induction ops generalizing m with
  | nil => rfl
  | cons op ops ih => rw [List.cons_append, outcomes, ih, outcomes, List.append_assoc, session_cons]

theorem outcomes_concat (m : Machine) (ops : List Operation) (op : Operation) :
    m.outcomes (ops ++ [op]) = m.outcomes ops ++ ((m.session ops).outcome? op).toList := by
  rw [outcomes_append, outcomes, outcomes, List.append_nil]

/-- Every outcome of a session is that of a step at some point of it, and conversely. -/
theorem mem_outcomes_iff {m : Machine} {ops : List Operation} {o : Step} :
    o ∈ m.outcomes ops ↔
      ∃ done rest, ops = done ++ .step :: rest ∧ o = (m.session done).step.2 := by
  constructor
  · intro h
    induction ops generalizing m with
    | nil => cases h
    | cons op ops ih =>
      rw [outcomes, List.mem_append] at h
      rcases h with h | h
      · cases op with
        | step => exact ⟨[], ops, rfl, by simpa [outcome?] using h⟩
        | switch enabled => simp [outcome?] at h
      · obtain ⟨done, rest, rfl, ho⟩ := ih h
        exact ⟨op :: done, rest, rfl, ho⟩
  · rintro ⟨done, rest, rfl, rfl⟩
    rw [outcomes_append, outcomes]
    simp [outcome?]

/-! ## Invariants -/

variable {P : Machine → Prop} {m : Machine}

theorem step_invariant (hadvance : ∀ m m' t, P m → m.Advance m' t → P m')
    (hstop : ∀ m s v, P m → m.Stop s v → P { m with stack := s, verdict := some v }) (h : P m) :
    P m.step.1 := by
  cases hverdict : m.verdict with
  | some v => rwa [step_of_settled hverdict]
  | none =>
    rcases advance_or_stop hverdict with ⟨m', t, hm⟩ | ⟨s, v, hm⟩
    · rw [hm.step_eq]
      exact hadvance m m' t h hm
    · rw [hm.step_eq]
      exact hstop m s v h hm

/-- What every way to step and every switch preserve holds throughout a session. -/
theorem session_invariant (hadvance : ∀ m m' t, P m → m.Advance m' t → P m')
    (hstop : ∀ m s v, P m → m.Stop s v → P { m with stack := s, verdict := some v })
    (hswitch : ∀ m enabled, P m → P (m.setOverrides enabled)) (h : P m) (ops : List Operation) :
    P (m.session ops) := by
  induction ops generalizing m with
  | nil => exact h
  | cons op ops ih =>
    cases op with
    | step => exact ih (step_invariant hadvance hstop h)
    | switch enabled => exact ih (hswitch m enabled h)

/-! ## What no operation touches -/

variable {M : Model} {tokens : List Symbol}

/-- A run of `M` over `tokens`, at whatever point. -/
structure IsRunOf (m : Machine) (M : Model) (tokens : List Symbol) : Prop where
  /-- The model is not touched. -/
  model : m.model = M
  /-- The tokens are not touched. -/
  tokens : m.tokens = tokens

theorem isRunOf_start (M : Model) (tokens : List Symbol) :
    (start M tokens).IsRunOf M tokens := ⟨rfl, rfl⟩

theorem Advance.isRunOf {m' : Machine} {t : Transition} (h : m.Advance m' t)
    (hrun : m.IsRunOf M tokens) : m'.IsRunOf M tokens := by
  cases h <;> exact ⟨hrun.model, hrun.tokens⟩

theorem isRunOf_session (M : Model) (tokens : List Symbol) (ops : List Operation) :
    ((start M tokens).session ops).IsRunOf M tokens := by
  refine session_invariant (P := fun m => m.IsRunOf M tokens) (fun m m' t hrun h => h.isRunOf hrun)
    ?_ ?_ (isRunOf_start M tokens) ops
  · exact fun m s v hrun _ => ⟨hrun.model, hrun.tokens⟩
  · exact fun m enabled hrun => ⟨hrun.model, hrun.tokens⟩

/-- Reading on adds the token under the cursor to the part of the input that was read. -/
theorem take_cursor_succ {token : Symbol} (h : m.lookahead = some token) :
    m.tokens.take (m.cursor + 1) = m.tokens.take m.cursor ++ [token] := by
  rw [List.take_add_one, show m.tokens[m.cursor]? = some token from h]
  rfl

/-- The cursor stays within the input. -/
theorem cursor_session_le (M : Model) (tokens : List Symbol) (ops : List Operation) :
    ((start M tokens).session ops).cursor ≤ tokens.length := by
  have hbound : ∀ m : Machine, m.cursor ≤ m.tokens.length → ∀ ops,
      (m.session ops).cursor ≤ (m.session ops).tokens.length := by
    refine fun m => session_invariant (P := fun m => m.cursor ≤ m.tokens.length) ?_ ?_ ?_
    · intro m m' t hm h
      cases h with
      | shift hconsults =>
        exact (List.getElem?_eq_some_iff.1 hconsults.lookahead).1
      | reduce => exact hm
    · exact fun m s v hm _ => hm
    · exact fun m enabled hm => hm
  have := hbound (start M tokens) (Nat.zero_le _) ops
  rwa [(isRunOf_session M tokens ops).tokens] at this

/-! ## Where a verdict comes from -/

/-- A verdict that is settled after a session was settled by a step at some point of it. -/
theorem exists_stop_of_verdict (hrunning : m.verdict = none) {ops : List Operation} {v : Verdict}
    (h : (m.session ops).verdict = some v) :
    ∃ done s, done <+: ops ∧ (m.session done).Stop s v := by
  induction ops using List.reverseRecOn with
  | nil =>
    rw [session_nil, hrunning] at h
    cases h
  | append_singleton ops op ih =>
    have hearlier (h : (m.session ops).verdict = some v) :
        ∃ done s, done <+: ops ++ [op] ∧ (m.session done).Stop s v := by
      obtain ⟨done, s, hdone, hstop⟩ := ih h
      exact ⟨done, s, hdone.trans (List.prefix_append ops [op]), hstop⟩
    rw [session_append, session_cons, session_nil] at h
    -- only a step of a running machine can settle a verdict that was not there before
    cases op with
    | switch enabled => exact hearlier h
    | step =>
      rw [operate] at h
      cases hverdict : (m.session ops).verdict with
      | some v' =>
        rw [step_of_settled hverdict] at h
        exact hearlier h
      | none =>
        rcases advance_or_stop hverdict with ⟨m', t, hm⟩ | ⟨s, v', hm⟩
        · rw [hm.step_eq, hm.running_after] at h
          cases h
        · rw [hm.step_eq] at h
          cases h
          exact ⟨ops, s, List.prefix_append ops _, hm⟩

/-- A verdict that a session shows was settled by a step at some point of it. -/
theorem exists_stop_of_halt (hrunning : m.verdict = none) {ops : List Operation} {v : Verdict}
    (h : .halt v ∈ m.outcomes ops) : ∃ done s, done <+: ops ∧ (m.session done).Stop s v := by
  obtain ⟨done, rest, rfl, hhalt⟩ := mem_outcomes_iff.1 h
  cases hverdict : (m.session done).verdict with
  | some v' =>
    rw [step_of_settled hverdict] at hhalt
    cases hhalt
    obtain ⟨done', s, hdone, hstop⟩ := exists_stop_of_verdict hrunning hverdict
    exact ⟨done', s, hdone.trans (List.prefix_append _ _), hstop⟩
  | none =>
    obtain ⟨s, hstop, -⟩ := (step_eq_halt_iff hverdict).1 (Prod.ext rfl hhalt.symm)
    exact ⟨done, s, List.prefix_append _ _, hstop⟩

/-! ## Histories -/

/-- Induction over the sessions all of whose steps went on. The second argument of `P` lists the
    transitions so far, first one first. -/
theorem history_induction {P : Machine → List Transition → Prop}
    (hstart : P (start M tokens) [])
    (hswitch : ∀ m history enabled, P m history → P (m.setOverrides enabled) history)
    (hadvance : ∀ m m' t history, m.IsRunOf M tokens → P m history → m.Advance m' t →
      P m' (history ++ [t]))
    {ops : List Operation} {history : List Transition}
    (h : (start M tokens).outcomes ops = history.map .next) :
    P ((start M tokens).session ops) history := by
  induction ops using List.reverseRecOn generalizing history with
  | nil =>
    obtain rfl : history = [] := by simpa [outcomes] using h.symm
    exact hstart
  | append_singleton ops op ih =>
    rw [outcomes_concat] at h
    rw [session_append, session_cons, session_nil]
    cases op with
    | switch enabled =>
      rw [outcome?, Option.toList_none, List.append_nil] at h
      exact hswitch _ _ _ (ih h)
    | step =>
      -- The last outcome is the last transition, and the others are those of the earlier steps.
      obtain ⟨before, last, rfl, hbefore, hlast⟩ := List.map_eq_append_iff.1 h.symm
      obtain ⟨t, rfl, ht⟩ : ∃ t, last = [t] ∧
          Step.next t = ((start M tokens).session ops).step.2 := by
        simpa [outcome?, List.map_eq_singleton_iff] using hlast
      have hm : ((start M tokens).session ops).Advance ((start M tokens).session ops).step.1 t :=
        step_eq_next_iff.1 (Prod.ext rfl ht.symm)
      exact hadvance _ _ _ _ (isRunOf_session M tokens ops) (ih hbefore.symm) hm

end Machine

end ShiftReduce
