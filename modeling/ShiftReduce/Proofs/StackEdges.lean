import ShiftReduce.Proofs.PastLabels

/-!
# Where the pairs of a stack come from

Each pair on the stack of a machine was pushed by a shift or by a reduction, and what was looked up
then can be looked up again: the tables do not change, and what is below a pair does not change
while the pair is there. So a stack can be checked against the tables, pair by pair, at any time. A
shift depends on the override setting, which may have changed since.

* `Machine.settings`: the override settings that the steps of a session find in force.
* `Model.GoesTo`, `Model.Shifts`: the two ways for a pair to come onto a stack.

Results:
* `Advance.follows`, `Stop.follows`: what one step does to a stack that follows the tables.
* `Machine.follows_session`: the stack of a session follows the tables.
* `Machine.stack_follows_tables`: what this says about the items of the stack, one by one.
-/

namespace ShiftReduce

/-! ## Settings in force -/

namespace Machine

/-- The override setting that an operation finds in force, if it is a step. -/
def setting? (m : Machine) : Operation → Option Bool
  | .step => some m.useOverrides
  | .switch _ => none

/-- The override settings that the steps of a sequence of operations find in force, first step
    first. -/
def settings : Machine → List Operation → List Bool
  | _, [] => []
  | m, op :: ops => (m.setting? op).toList ++ (m.operate op).settings ops

theorem settings_concat (m : Machine) (ops : List Operation) (op : Operation) :
    m.settings (ops ++ [op]) = m.settings ops ++ ((m.session ops).setting? op).toList := by
  induction ops generalizing m with
  | nil =>
    show (m.setting? op).toList ++ [] = [] ++ (m.setting? op).toList
    rw [List.append_nil, List.nil_append]
  | cons first ops ih =>
    rw [List.cons_append, settings, ih, settings, List.append_assoc, session_cons]

end Machine

/-! ## Ways onto the stack -/

namespace Model

/-- A reduction to `X` that exposes `s` goes to `d`. -/
def GoesTo (M : Model) (s : StateId) (X : Symbol) (d : StateId) : Prop :=
  M.lookupGoto s X = .ok d ∧ ∃ rule p, M.productions.get? rule = some p ∧ p.lhs = X

/-- With overrides in force or not, the token `X` is shifted in `s` and leads to `d`, by a plain or
    by a merged entry. -/
def Shifts (M : Model) (enabled : Bool) (s : StateId) (X : Symbol) (d : StateId) : Prop :=
  ∃ source, M.lookupAction s X enabled = .found (.shift d) source ∨
    M.lookupAction s X enabled = .found (.mergedShift d) source

/-- A reduction leads from `s` on `X` to `d`, or a shift of one of the tokens does with one of the
    settings. -/
def Leads (M : Model) (tokens : List Symbol) (settings : List Bool) (s : StateId) (X : Symbol)
    (d : StateId) : Prop :=
  M.GoesTo s X d ∨ (X ∈ tokens ∧ ∃ enabled ∈ settings, M.Shifts enabled s X d)

variable {M : Model} {tokens : List Symbol} {settings settings' : List Bool} {s d : StateId}
  {X : Symbol}

theorem Leads.mono (h : M.Leads tokens settings s X d) (hsub : settings ⊆ settings') :
    M.Leads tokens settings' s X d := by
  rcases h with hgoes | ⟨hX, enabled, henabled, hshifts⟩
  · exact .inl hgoes
  · exact .inr ⟨hX, enabled, hsub henabled, hshifts⟩

theorem shifts_of_shiftTarget {enabled : Bool} {action : Action} {source : Source}
    (hfound : M.lookupAction s X enabled = .found action source)
    (htarget : action.shiftTarget? = some d) : M.Shifts enabled s X d := by
  cases action with
  | shift destination =>
    cases htarget
    exact ⟨source, .inl hfound⟩
  | mergedShift destination =>
    cases htarget
    exact ⟨source, .inr hfound⟩
  | _ => cases htarget

/-- What is found with overrides switched off is in the primary table. -/
theorem get?_of_lookupAction_false {action : Action} {source : Source}
    (h : M.lookupAction s X false = .found action source) :
    M.table.get? s X = some (.single action) := by
  rcases lookupAction_eq_found_iff.1 h with ⟨-, hcell⟩ | ⟨-, -, hcell⟩
  · cases hcell
  · exact hcell

/-- With overrides switched off all the while, whatever leads somewhere is in the primary table. -/
theorem Leads.exists_primary (h : M.Leads tokens settings s X d)
    (hdisabled : ∀ enabled ∈ settings, enabled = false) :
    ∃ action, M.table.get? s X = some (.single action) ∧ action.destination? = some d := by
  rcases h with ⟨hgoto, -⟩ | ⟨-, enabled, henabled, source, hfound⟩
  · obtain ⟨action, hcell, htarget⟩ := lookupGoto_eq_ok_iff.1 hgoto
    exact ⟨action, hcell, Action.destination?_of_gotoTarget? htarget⟩
  · obtain rfl := hdisabled enabled henabled
    rcases hfound with hfound | hfound
    · exact ⟨.shift d, get?_of_lookupAction_false hfound, rfl⟩
    · exact ⟨.mergedShift d, get?_of_lookupAction_false hfound, rfl⟩

end Model

/-! ## Stacks that follow the tables -/

namespace Machine

variable {m m' : Machine} {M : Model} {tokens : List Symbol} {settings : List Bool}

/-- The stack begins in the start state, and every pair on it can be looked up with one of the
    settings. -/
structure Follows (m : Machine) (M : Model) (tokens : List Symbol) (settings : List Bool) :
    Prop where
  /-- The bottom is the start state. -/
  bottom : m.stack.bottom = M.startState
  /-- The tables lead from each state to the pair on top of it. -/
  linked : m.stack.Linked (M.Leads tokens settings)

theorem Follows.mono {settings' : List Bool} (h : m.Follows M tokens settings)
    (hsub : settings ⊆ settings') : m.Follows M tokens settings' where
  bottom := h.bottom
  linked := h.linked.mono fun _ _ _ hleads => hleads.mono hsub

/-- A step that goes on adds an edge that it has just looked up. -/
theorem Advance.follows {t : Transition} (h : m.Advance m' t) (hrun : m.IsRunOf M tokens)
    (hfollows : m.Follows M tokens settings) :
    m'.Follows M tokens (settings ++ [m.useOverrides]) := by
  have hbefore := hfollows.mono (List.subset_append_left settings [m.useOverrides])
  cases h with
  | @shift token action source destination hconsults htarget =>
    have hfound := hconsults.found
    rw [hrun.model] at hfound
    have hmem : token ∈ tokens := by
      rw [← hrun.tokens]
      exact List.mem_of_getElem? hconsults.lookahead
    refine ⟨hbefore.bottom, hbefore.linked.push (.inr ⟨hmem, m.useOverrides, ?_, ?_⟩)⟩
    · exact List.mem_append_right settings List.mem_cons_self
    · exact Model.shifts_of_shiftTarget hfound htarget
  | @reduce token action source rule p exposed destination hconsults hrule hproduction hpop
      hgoto =>
    rw [hrun.model] at hproduction hgoto
    refine ⟨(Stack.bottom_of_pop? hpop).trans hbefore.bottom, ?_⟩
    exact (hbefore.linked.pop hpop).push (.inl ⟨hgoto, rule, p, hproduction, rfl⟩)

/-- A step that stops leaves the stack, or what is left of it, as it was. -/
theorem Stop.follows {s : Stack} {v : Verdict} (h : m.Stop s v)
    (hfollows : m.Follows M tokens settings) :
    Follows { m with stack := s, verdict := some v } M tokens settings := by
  cases h with
  | missingGoto _ _ _ hpop =>
    exact ⟨(Stack.bottom_of_pop? hpop).trans hfollows.bottom, hfollows.linked.pop hpop⟩
  | _ => exact ⟨hfollows.bottom, hfollows.linked⟩

theorem follows_step (hrun : m.IsRunOf M tokens) (hfollows : m.Follows M tokens settings) :
    m.step.1.Follows M tokens (settings ++ [m.useOverrides]) := by
  have hsub : settings ⊆ settings ++ [m.useOverrides] := List.subset_append_left _ _
  cases hverdict : m.verdict with
  | some v =>
    rw [step_of_settled hverdict]
    exact hfollows.mono hsub
  | none =>
    rcases advance_or_stop hverdict with ⟨m', t, h⟩ | ⟨s, v, h⟩
    · rw [h.step_eq]
      exact h.follows hrun hfollows
    · rw [h.step_eq]
      exact (h.follows hfollows).mono hsub

/-- The stack of a session follows the tables, with the settings that its steps found in force. -/
theorem follows_session (M : Model) (tokens : List Symbol) (ops : List Operation) :
    ((start M tokens).session ops).Follows M tokens ((start M tokens).settings ops) := by
  -- a later step finds the earlier settings in the list as well, so the induction is from the end
  induction ops using List.reverseRecOn with
  | nil => exact ⟨rfl, .initial M.startState⟩
  | append_singleton ops op ih =>
    rw [settings_concat, session_append, session_cons, session_nil]
    cases op with
    | step => exact follows_step (isRunOf_session M tokens ops) ih
    | switch enabled =>
      rw [setting?, Option.toList_none, List.append_nil]
      exact ⟨ih.bottom, ih.linked⟩

/-- **The stack is a path through the tables.** Whatever steps and switches a caller asks for, and
    whether there is a verdict or not, the bottom of the stack is the start state. Wherever a state
    `d` stands on a symbol `X` and this on a state `s`, either a reduction to `X` that exposes `s`
    goes to `d`, or `X` is a token of the input that is shifted in `s` and leads to `d`, with an
    override setting that some step has found in force. If all steps have found overrides switched
    off, then the primary table leads from `s` on `X` to `d`. -/
theorem stack_follows_tables (M : Model) (tokens : List Symbol) (ops : List Operation) :
    ((start M tokens).session ops).stack.bottom = M.startState ∧
    (∀ s X d, [.state s, .symbol X, .state d] <:+: ((start M tokens).session ops).stack.items →
      M.GoesTo s X d ∨
        (X ∈ tokens ∧ ∃ enabled ∈ (start M tokens).settings ops, M.Shifts enabled s X d)) ∧
    ((∀ enabled ∈ (start M tokens).settings ops, enabled = false) →
      ∀ s X d, [.state s, .symbol X, .state d] <:+: ((start M tokens).session ops).stack.items →
        ∃ action, M.table.get? s X = some (.single action) ∧ action.destination? = some d) := by
  obtain ⟨hbottom, hlinked⟩ := follows_session M tokens ops
  have hedges := Stack.linked_iff_items.1 hlinked
  exact ⟨hbottom, hedges, fun hdisabled s X d h => (hedges s X d h).exists_primary hdisabled⟩

/-- After the reduction to A, which an override asks for, and the shift of b with overrides switched
    off, the stack is 1 A 3 b 4. In a run without overrides the stack is 1 a 2, and the primary
    table has the shift. -/
theorem stack_follows_tables_optionalLetter :
    ((start optionalLetter ["b", "$"]).session [.step, .switch false, .step]).stack.items =
      [.state ⟨"1"⟩, .symbol "A", .state ⟨"3"⟩, .symbol "b", .state ⟨"4"⟩] ∧
    (start optionalLetter ["b", "$"]).settings [.step, .switch false, .step] = [true, false] ∧
    (optionalLetter.GoesTo ⟨"3"⟩ "b" ⟨"4"⟩ ∨
      ("b" ∈ ["b", "$"] ∧
        ∃ enabled ∈ [true, false], optionalLetter.Shifts enabled ⟨"3"⟩ "b" ⟨"4"⟩)) ∧
    ((start optionalLetter ["a"]).session [.switch false, .step, .step]).stack.items =
      [.state ⟨"1"⟩, .symbol "a", .state ⟨"2"⟩] ∧
    ∃ action, optionalLetter.table.get? ⟨"1"⟩ "a" = some (.single action) ∧
      action.destination? = some ⟨"2"⟩ := by
  have hitems :
      ((start optionalLetter ["b", "$"]).session [.step, .switch false, .step]).stack.items =
        [.state ⟨"1"⟩, .symbol "A", .state ⟨"3"⟩, .symbol "b", .state ⟨"4"⟩] := by decide
  have hprimary : ((start optionalLetter ["a"]).session [.switch false, .step, .step]).stack.items =
      [.state ⟨"1"⟩, .symbol "a", .state ⟨"2"⟩] := by decide
  refine ⟨hitems, by decide, ?_, hprimary, ?_⟩
  · obtain ⟨-, hedges, -⟩ :=
      stack_follows_tables optionalLetter ["b", "$"] [.step, .switch false, .step]
    apply hedges
    exact ⟨[.state ⟨"1"⟩, .symbol "A"], [], hitems.symm⟩
  · obtain ⟨-, -, hdisabled⟩ :=
      stack_follows_tables optionalLetter ["a"] [.switch false, .step, .step]
    apply hdisabled (by decide)
    exact ⟨[], [], hprimary.symm⟩

end Machine

end ShiftReduce
