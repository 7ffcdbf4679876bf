import ShiftReduce.Proofs.Locality
import ShiftReduce.Proofs.PastLabels

/-!
# Merged entries

A merged entry is a shift or a reduction that is written in another way. On a token it does what
the plain entry does. As a transition after a reduction it does not serve, while a plain shift
does. So a model with plain entries in the place of its merged ones makes the same steps until,
perhaps, a reduction finds no transition.

* `Model.unmerged`: the model with plain entries in the place of its merged ones.

Results:
* `Table.get?_unmerged`: the cells of the table with plain entries.
* `Model.lookupAction_unmerged`, `Model.lookupGoto_unmerged`: its answers.
* `Machine.step_unmerged`: a step that misses no transition is the same for both models.
* `Machine.session_start_unmerged`: so are whole sessions.
-/

namespace ShiftReduce

/-! ## Maps with other values -/

section MapValues

variable {κ β β' : Type} [LT κ] [DecidableEq κ]

/-- The map with `g` applied to its values. -/
def SortedMap.mapValues (g : β → β') (m : SortedMap κ β) : SortedMap κ β' where
  entries := m.entries.map (Prod.map id g)
  sorted := List.pairwise_map.2 m.sorted

theorem SortedMap.get?_mapValues (g : β → β') (m : SortedMap κ β) (key : κ) :
    (m.mapValues g).get? key = (m.get? key).map g :=
  lookupEntry_map Function.injective_id g key m.entries

end MapValues

/-! ## Plain entries -/

/-- The plain action that a merged one stands for. Other actions stand for themselves. -/
def Action.unmerged : Action → Action
  | mergedShift destination => shift destination
  | mergedReduce rule => reduce rule
  | action => action

/-- The cell with plain actions, among the candidates of a conflict as well. -/
def Cell.unmerged : Cell → Cell
  | single action => single action.unmerged
  | conflict candidates => conflict (candidates.map Action.unmerged)

/-- The table with plain actions in all of its cells. -/
def Table.unmerged (t : Table) : Table := ⟨t.map.mapValues Cell.unmerged⟩

/-- The model with plain actions in both of its tables. -/
def Model.unmerged (M : Model) : Model :=
  { M with table := M.table.unmerged, overrides := M.overrides.map Table.unmerged }

/-- The answer with plain actions. -/
def Lookup.unmerged : Lookup → Lookup
  | found action source => found action.unmerged source
  | conflict candidates => conflict (candidates.map Action.unmerged)
  | unresolvedOverride candidates => unresolvedOverride (candidates.map Action.unmerged)
  | notFound => notFound

namespace Action

variable (a : Action)

@[simp] theorem shiftTarget?_unmerged : a.unmerged.shiftTarget? = a.shiftTarget? := by
  cases a <;> rfl

@[simp] theorem reduceRule?_unmerged : a.unmerged.reduceRule? = a.reduceRule? := by
  cases a <;> rfl

/-- What serves as a transition is plain already. -/
theorem unmerged_of_gotoTarget? {a : Action} {d : StateId} (h : a.gotoTarget? = some d) :
    a.unmerged = a := by
  cases a <;> first | rfl | cases h

end Action

theorem Table.get?_unmerged (t : Table) (s : StateId) (X : Symbol) :
    t.unmerged.get? s X = (t.get? s X).map Cell.unmerged :=
  SortedMap.get?_mapValues Cell.unmerged t.map ⟨s, X⟩

namespace Model

variable (M : Model) (s : StateId) (X : Symbol) (enabled : Bool)

/-! ## Answers -/

theorem overrideCell?_unmerged :
    M.unmerged.overrideCell? enabled s X = (M.overrideCell? enabled s X).map Cell.unmerged := by
  cases enabled with
  | false => rfl
  | true =>
    show (M.overrides.map Table.unmerged).bind (fun o => o.get? s X) =
      (M.overrides.bind fun o => o.get? s X).map Cell.unmerged
    cases M.overrides with
    | none => rfl
    | some o => exact o.get?_unmerged s X

theorem lookupAction_unmerged :
    M.unmerged.lookupAction s X enabled = (M.lookupAction s X enabled).unmerged := by
  have hprimary : M.unmerged.table.get? s X = (M.table.get? s X).map Cell.unmerged :=
    M.table.get?_unmerged s X
  unfold lookupAction
  rw [overrideCell?_unmerged, hprimary]
  rcases M.overrideCell? enabled s X with _ | _ | _
  · rcases M.table.get? s X with _ | _ | _ <;> rfl
  · rfl
  · rfl

/-- A transition that is there stays as it is. One that is missing may appear, where the entry is a
    merged shift. -/
theorem lookupGoto_unmerged {M : Model} {s d : StateId} {X : Symbol}
    (h : M.lookupGoto s X = .ok d) : M.unmerged.lookupGoto s X = .ok d := by
  obtain ⟨action, hcell, htarget⟩ := lookupGoto_eq_ok_iff.1 h
  have hget : M.unmerged.table.get? s X = (M.table.get? s X).map Cell.unmerged :=
    M.table.get?_unmerged s X
  rw [hcell] at hget
  refine lookupGoto_eq_ok_iff.2 ⟨action, ?_, htarget⟩
  rw [hget]
  show some (Cell.single action.unmerged) = _
  rw [Action.unmerged_of_gotoTarget? htarget]

end Model

namespace Machine

variable {m m' : Machine} {token : Symbol} {action : Action} {source : Source}

/-! ## Steps -/

/-- The machine at the same point, with plain entries in its model. -/
def unmerged (m : Machine) : Machine := { m with model := m.model.unmerged }

theorem samePoint_unmerged (m : Machine) : m.SamePoint m.unmerged := ⟨rfl, rfl, rfl⟩

theorem lookupAction_unmerged (m : Machine) (token : Symbol) :
    m.unmerged.model.lookupAction m.unmerged.state token m.unmerged.useOverrides =
      (m.model.lookupAction m.state token m.useOverrides).unmerged :=
  m.model.lookupAction_unmerged m.state token m.useOverrides

theorem Consults.unmerged (h : m.Consults token action source) :
    m.unmerged.Consults token action.unmerged source where
  running := h.running
  lookahead := h.lookahead
  found := by
    rw [lookupAction_unmerged, h.found]
    rfl

/-- What goes on goes on in the same way. -/
theorem Advance.unmerged {t : Transition} (h : m.Advance m' t) :
    m.unmerged.Advance m'.unmerged t := by
  cases h with
  | shift hconsults htarget =>
    refine .shift hconsults.unmerged ?_
    rwa [Action.shiftTarget?_unmerged]
  | reduce hconsults hrule hproduction hpop hgoto =>
    refine .reduce hconsults.unmerged ?_ hproduction hpop (Model.lookupGoto_unmerged hgoto)
    rwa [Action.reduceRule?_unmerged]

/-- What stops stops in the same way, unless it is for want of a transition. -/
theorem Stop.unmerged {s : Stack} {v : Verdict} (h : m.Stop s v)
    (hv : ∀ state symbol, v ≠ .fatal (.missingGoto state symbol)) : m.unmerged.Stop s v := by
  cases h with
  | inputExhausted hrunning hlookahead => exact .inputExhausted hrunning hlookahead
  | syntaxError hrunning hlookahead hlookup =>
    refine .syntaxError hrunning hlookahead ?_
    rw [lookupAction_unmerged, hlookup]
    rfl
  | @conflict token candidates hrunning hlookahead hlookup =>
    have hlookup' : m.unmerged.model.lookupAction m.unmerged.state token m.unmerged.useOverrides =
        .conflict (candidates.map Action.unmerged) := by
      rw [lookupAction_unmerged, hlookup]
      rfl
    exact .conflict hrunning hlookahead hlookup'
  | @unresolvedOverride token candidates hrunning hlookahead hlookup =>
    have hlookup' : m.unmerged.model.lookupAction m.unmerged.state token m.unmerged.useOverrides =
        .unresolvedOverride (candidates.map Action.unmerged) := by
      rw [lookupAction_unmerged, hlookup]
      rfl
    have hstop := Stop.unresolvedOverride (m := m.unmerged) hrunning hlookahead hlookup'
    rwa [List.length_map] at hstop
  | accept hconsults => exact .accept hconsults.unmerged
  | malformed hconsults => exact .malformed hconsults.unmerged
  | goto hconsults => exact .goto hconsults.unmerged
  | unknown hconsults => exact .unknown hconsults.unmerged
  | missingProduction hconsults hrule hproduction =>
    refine .missingProduction hconsults.unmerged ?_ hproduction
    rwa [Action.reduceRule?_unmerged]
  | stackUnderflow hconsults hrule hproduction hpop =>
    refine .stackUnderflow hconsults.unmerged ?_ hproduction hpop
    rwa [Action.reduceRule?_unmerged]
  | missingGoto => exact absurd rfl (hv _ _)

/-- A step that misses no transition is the same with plain entries. -/
theorem step_unmerged (h : ∀ s X, m.step.2 ≠ .halt (.fatal (.missingGoto s X))) :
    m.unmerged.step = (m.step.1.unmerged, m.step.2) := by
  cases hverdict : m.verdict with
  | some v =>
    have hverdict' : m.unmerged.verdict = some v := hverdict
    rw [step_of_settled hverdict, step_of_settled hverdict']
  | none =>
    rcases advance_or_stop hverdict with ⟨m', t, hadvance⟩ | ⟨s, v, hstop⟩
    · rw [hadvance.step_eq, hadvance.unmerged.step_eq]
    · have hv : ∀ state symbol, v ≠ .fatal (.missingGoto state symbol) := by
        intro state symbol heq
        apply h state symbol
        rw [hstop.step_eq, heq]
      rw [hstop.step_eq, (hstop.unmerged hv).step_eq]
      rfl

/-! ## Sessions -/

/-- No step of a session stops for want of a transition. -/
def FindsTransitions (m : Machine) (ops : List Operation) : Prop :=
  ∀ s X, .halt (.fatal (.missingGoto s X)) ∉ m.outcomes ops

theorem FindsTransitions.of_append {ops ops' : List Operation}
    (h : m.FindsTransitions (ops ++ ops')) : m.FindsTransitions ops := by
  intro s X hmem
  apply h s X
  rw [outcomes_append]
  exact List.mem_append_left _ hmem

theorem session_unmerged {ops : List Operation} (h : m.FindsTransitions ops) :
    m.unmerged.session ops = (m.session ops).unmerged ∧
      m.unmerged.outcomes ops = m.outcomes ops := by
  induction ops generalizing m with
  | nil => exact ⟨rfl, rfl⟩
  | cons op ops ih =>
    cases op with
    | switch enabled => exact ih (m := m.setOverrides enabled) h
    | step =>
      have hstep : m.unmerged.step = (m.step.1.unmerged, m.step.2) := by
        apply step_unmerged
        intro s X heq
        apply h s X
        show _ ∈ m.step.2 :: m.step.1.outcomes ops
        rw [heq]
        exact List.mem_cons_self
      have hrest : m.step.1.FindsTransitions ops := by
        intro s X hmem
        exact h s X (List.mem_cons_of_mem m.step.2 hmem)
      obtain ⟨hsession, houtcomes⟩ := ih hrest
      constructor
      · show m.unmerged.step.1.session ops = _
        rw [hstep]
        exact hsession
      · show m.unmerged.step.2 :: m.unmerged.step.1.outcomes ops = _
        rw [hstep]
        exact congrArg (m.step.2 :: ·) houtcomes

/-- **Merged entries are another way to write.** Let every merged entry, in both tables and among
    the candidates of conflicts, give way to the plain one that it stands for. Then, whatever steps
    and switches a caller asks for, as long as no step stops for want of a transition, each step
    comes to the same for both models, and after each of them both machines are at the same
    point. -/
theorem session_start_unmerged (M : Model) (tokens : List Symbol) (ops : List Operation)
    (h : ∀ s X, .halt (.fatal (.missingGoto s X)) ∉ (start M tokens).outcomes ops) :
    (start M.unmerged tokens).outcomes ops = (start M tokens).outcomes ops ∧
    ∀ done, done <+: ops →
      ((start M tokens).session done).SamePoint ((start M.unmerged tokens).session done) := by
  constructor
  · exact (session_unmerged h).2
  · rintro done ⟨rest, rfl⟩
    have hdone : (start M.unmerged tokens).session done =
        ((start M tokens).session done).unmerged :=
      (session_unmerged (FindsTransitions.of_append h)).1
    rw [hdone]
    exact samePoint_unmerged _

/-- Both kinds of merged entries are used over a b $, one of them while overrides are switched
    off. -/
theorem session_start_unmerged_optionalLetter :
    (start optionalLetter ["a", "b", "$"]).outcomes
        [.step, .step, .switch false, .step, .step, .step] =
      [.next (.shift ⟨"1"⟩ "a" ⟨"2"⟩ .primary),
        .next (.reduce ⟨"2"⟩ ⟨"2"⟩ "A" 2 ⟨"3"⟩ .primary),
        .next (.shift ⟨"3"⟩ "b" ⟨"4"⟩ .primary),
        .next (.reduce ⟨"4"⟩ ⟨"1"⟩ "S" 4 ⟨"5"⟩ .primary), .halt .accepted] ∧
    (start optionalLetter.unmerged ["a", "b", "$"]).outcomes
        [.step, .step, .switch false, .step, .step, .step] =
      (start optionalLetter ["a", "b", "$"]).outcomes
        [.step, .step, .switch false, .step, .step, .step] ∧
    optionalLetter.unmerged ≠ optionalLetter := by
  have houtcomes : (start optionalLetter ["a", "b", "$"]).outcomes
      [.step, .step, .switch false, .step, .step, .step] =
      [.next (.shift ⟨"1"⟩ "a" ⟨"2"⟩ .primary),
        .next (.reduce ⟨"2"⟩ ⟨"2"⟩ "A" 2 ⟨"3"⟩ .primary),
        .next (.shift ⟨"3"⟩ "b" ⟨"4"⟩ .primary),
        .next (.reduce ⟨"4"⟩ ⟨"1"⟩ "S" 4 ⟨"5"⟩ .primary), .halt .accepted] := by decide
  refine ⟨houtcomes, ?_, by decide⟩
  refine (session_start_unmerged optionalLetter ["a", "b", "$"] _ ?_).1
  intro s X
  rw [houtcomes]
  simp

/-- `optionalLetter` with a merged entry in the place of its transition on A. -/
def mergedTransition : Model :=
  { optionalLetter with
    table := optionalLetter.table.insertAction ⟨"1"⟩ "A" (.mergedShift ⟨"3"⟩) }

/-- A merged entry does not serve as a transition, and the plain one does. -/
example :
    (start mergedTransition ["b", "$"]).outcomes [.step] =
      [.halt (.fatal (.missingGoto ⟨"1"⟩ "A"))] ∧
    (start mergedTransition.unmerged ["b", "$"]).outcomes [.step] =
      [.next (.reduce ⟨"1"⟩ ⟨"0"⟩ "A" 0 ⟨"3"⟩ .override)] := by decide

end Machine

end ShiftReduce
