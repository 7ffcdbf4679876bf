import ShiftReduce.Proofs.Locality
import ShiftReduce.Proofs.PastLabels

/-!
# The entries that a run depends on

A step looks up what to do at one site, and a reduction looks up its production and a transition at
another site. All other entries of the tables and all other productions may be replaced, added or
deleted, and the run does not notice.

The lists of what the first steps of a run consult are computed. One and the same primary cell may
be consulted in two ways, as an action and as a transition, and an override cell in force hides it
from the first way only.

Results:
* `Machine.AgreesOnConsulted`: another model has the same entries wherever the run looks.
* `Machine.sameFor_of_agreesOnConsulted`: then its run is the same.
* `Machine.run_depends_on_consulted`: the same for whole models, and for changes of one primary
  cell.
-/

namespace ShiftReduce

namespace Model

variable {M M' : Model} {enabled : Bool} {s : StateId} {X A : Symbol}

/-! ## What an answer depends on -/

/-- What is to be done depends on the override cell in force, and on the primary cell only if there
    is none. -/
theorem lookupAction_congr (hoverride : M'.overrideCell? enabled s X = M.overrideCell? enabled s X)
    (hprimary : M.overrideCell? enabled s X = none → M'.table.get? s X = M.table.get? s X) :
    M'.lookupAction s X enabled = M.lookupAction s X enabled := by
  unfold lookupAction
  rw [hoverride]
  cases hcell : M.overrideCell? enabled s X with
  | none => rw [hprimary hcell]
  | some cell => cases cell <;> rfl

/-- A transition after a reduction depends on the primary cell alone. -/
theorem lookupGoto_congr (h : M'.table.get? s A = M.table.get? s A) :
    M'.lookupGoto s A = M.lookupGoto s A := by
  unfold lookupGoto
  rw [h]

end Model

namespace Machine

variable {m m' : Machine} {M M' : Model} {site : Site} {rule : RuleId} {i k : Nat}

/-! ## What a step consults -/

/-- Where the step of `m` looks up what to do. -/
def actionSite? (m : Machine) : Option Site :=
  if m.verdict.isNone then m.lookahead.map fun token => ⟨m.state, token⟩ else none

/-- The rule by which the step of `m` reduces, whether it goes through or not. -/
def reducing? (m : Machine) : Option RuleId :=
  m.actionSite?.bind fun site =>
    match m.model.lookupAction site.state site.symbol m.useOverrides with
    | .found action _ => action.reduceRule?
    | _ => none

/-- Where the step of `m` looks up the transition after a reduction. -/
def gotoSite? (m : Machine) : Option Site :=
  m.reducing?.bind fun rule =>
    (m.model.productions.get? rule).bind fun p =>
      (m.stack.pop? p.arity).map fun exposed => ⟨exposed.top, p.lhs⟩

theorem actionSite?_eq {token : Symbol} (hrunning : m.verdict = none)
    (htoken : m.lookahead = some token) : m.actionSite? = some ⟨m.state, token⟩ := by
  simp [actionSite?, hrunning, htoken]

theorem reducing?_eq (h : m.ReducesBy rule) : m.reducing? = some rule := by
  obtain ⟨token, action, source, hconsults, hrule⟩ := h
  rw [reducing?, actionSite?_eq hconsults.running hconsults.lookahead, Option.bind_some,
    hconsults.found]
  exact hrule

theorem gotoSite?_eq (h : m.ReducesBy rule) {p : Production} {exposed : Stack}
    (hp : m.model.productions.get? rule = some p) (hpop : m.stack.pop? p.arity = some exposed) :
    m.gotoSite? = some ⟨exposed.top, p.lhs⟩ := by
  rw [gotoSite?, reducing?_eq h, Option.bind_some, hp, Option.bind_some, hpop, Option.map_some]

/-! ## What a run consults -/

/-- What `f` finds in the machines before each of the first `k` steps. -/
def along {α : Type} (m : Machine) (k : Nat) (f : Machine → Option α) : List α :=
  (List.range k).filterMap fun i => f (m.after i)

theorem mem_along {α : Type} {f : Machine → Option α} {x : α} (hi : i < k)
    (h : f (m.after i) = some x) : x ∈ m.along k f :=
  List.mem_filterMap.2 ⟨i, List.mem_range.2 hi, h⟩

/-- The sites at which the first `k` steps look up what to do. -/
def actionSites (m : Machine) (k : Nat) : List Site := m.along k actionSite?

/-- The sites at which the first `k` steps look up transitions after reductions. -/
def gotoSites (m : Machine) (k : Nat) : List Site := m.along k gotoSite?

/-- The rules by which the first `k` steps reduce, the last one perhaps in vain. -/
def rulesTried (m : Machine) (k : Nat) : List RuleId := m.along k reducing?

/-- `M'` has the entries of the model of `m` wherever the first `k` steps of `m` look. -/
structure AgreesOnConsulted (m : Machine) (k : Nat) (M' : Model) : Prop where
  /-- The same override cells in force where it is looked up what to do. -/
  override : ∀ site ∈ m.actionSites k, M'.overrideCell? m.useOverrides site.state site.symbol =
    m.model.overrideCell? m.useOverrides site.state site.symbol
  /-- The same primary cells, where there is no override cell in force. -/
  primary : ∀ site ∈ m.actionSites k,
    m.model.overrideCell? m.useOverrides site.state site.symbol = none →
    M'.table.get? site.state site.symbol = m.model.table.get? site.state site.symbol
  /-- The same primary cells where transitions after reductions are looked up. -/
  goto : ∀ site ∈ m.gotoSites k,
    M'.table.get? site.state site.symbol = m.model.table.get? site.state site.symbol
  /-- The same productions of the rules that are reduced by. -/
  production : ∀ rule ∈ m.rulesTried k,
    M'.productions.get? rule = m.model.productions.get? rule

/-- The first `k` steps are the same in both machines, and so are the points between them. -/
structure SameFor (k : Nat) (m m' : Machine) : Prop where
  /-- After as many steps, up to `k`, both are at the same point. -/
  point : ∀ i, i ≤ k → (m.after i).SamePoint (m'.after i)
  /-- Each of the `k` steps comes to the same. -/
  step : ∀ i, i < k → (m'.after i).step.2 = (m.after i).step.2

/-! ## The same entries give the same run -/

theorem AgreesOnConsulted.answersLike (h : m.AgreesOnConsulted k M') (hi : i < k) :
    (m.after i).AnswersLike id M' m.tokens m.useOverrides where
  lookahead _ := by
    rw [lookahead, tokens_after]
  action token hrunning htoken := by
    have hsite : (⟨(m.after i).state, token⟩ : Site) ∈ m.actionSites k :=
      mem_along hi (actionSite?_eq hrunning htoken)
    rw [Lookup.relabel_id, model_after, useOverrides_after]
    exact Model.lookupAction_congr (h.override _ hsite) (h.primary _ hsite)
  production rule hrule := by
    rw [model_after]
    exact h.production rule (mem_along hi (reducing?_eq hrule))
  goto rule p exposed hrule hp hpop := by
    rw [model_after]
    exact Model.lookupGoto_congr (h.goto _ (mem_along hi (gotoSite?_eq hrule hp hpop)))

/-- A run of a model that has the same entries wherever the run looks is the same. -/
theorem sameFor_of_agreesOnConsulted (h : m.AgreesOnConsulted k M') :
    SameFor k m (m.transfer M' m.tokens m.useOverrides) where
  point i hi := by
    rw [after_transfer fun j hj => h.answersLike (Nat.lt_of_lt_of_le hj hi)]
    exact samePoint_transfer _ _ _ _
  step i hi := by
    rw [after_transfer fun j hj => h.answersLike (Nat.lt_trans hj hi),
      step_transfer (h.answersLike hi), Step.relabel_id]

/-- The primary cell at one site may be anything, if no transition is looked up there, and if
    what to do is looked up there only behind an override cell in force. -/
theorem agreesOnConsulted_of_cell {table : Table} (hother : ∀ s X, (⟨s, X⟩ : Site) ≠ site →
      table.get? s X = m.model.table.get? s X)
    (hgoto : site ∉ m.gotoSites k)
    (haction : site ∈ m.actionSites k →
      m.model.overrideCell? m.useOverrides site.state site.symbol ≠ none) :
    m.AgreesOnConsulted k { m.model with table } where
  override _ _ := rfl
  primary site' hsite' hnone := by
    refine hother _ _ fun heq => ?_
    obtain rfl : site' = site := heq
    exact haction hsite' hnone
  goto site' hsite' := by
    refine hother _ _ fun heq => ?_
    obtain rfl : site' = site := heq
    exact hgoto hsite'
  production _ _ := rfl

/-- With the same start state, the runs of two models begin at the same point. -/
theorem transfer_fresh (hstart : M'.startState = M.startState) (tokens : List Symbol)
    (enabled : Bool) :
    (fresh M tokens enabled).transfer M' tokens enabled = fresh M' tokens enabled := by
  unfold fresh start
  rw [hstart]
  rfl

/-- **A run depends on what it consults.** Let another model have the same start state. Let it have
    the same override cells in force at the sites where the first `k` steps look up what to do, the
    same primary cells where there is none, the same primary cells where they look up transitions,
    and the same productions of the rules that they try to reduce by. Then the first `k` steps are
    the same. In particular the primary cell at a site may be anything, if no transition is looked
    up there, and if what to do is not looked up there, or only behind an override cell in force. -/
theorem run_depends_on_consulted (M : Model) (tokens : List Symbol) (enabled : Bool) (k : Nat) :
    (∀ M' : Model, M'.startState = M.startState →
      (fresh M tokens enabled).AgreesOnConsulted k M' →
      SameFor k (fresh M tokens enabled) (fresh M' tokens enabled)) ∧
    ∀ (table : Table) (site : Site),
      (∀ s X, (⟨s, X⟩ : Site) ≠ site → table.get? s X = M.table.get? s X) →
      site ∉ (fresh M tokens enabled).gotoSites k →
      (site ∈ (fresh M tokens enabled).actionSites k →
        M.overrideCell? enabled site.state site.symbol ≠ none) →
      SameFor k (fresh M tokens enabled) (fresh { M with table } tokens enabled) := by
  have hmodels : ∀ M' : Model, M'.startState = M.startState →
      (fresh M tokens enabled).AgreesOnConsulted k M' →
      SameFor k (fresh M tokens enabled) (fresh M' tokens enabled) := by
    intro M' hstart hagrees
    rw [← transfer_fresh hstart]
    exact sameFor_of_agreesOnConsulted hagrees
  refine ⟨hmodels, fun table site hother hgoto haction => ?_⟩
  exact hmodels { M with table } rfl (agreesOnConsulted_of_cell hother hgoto haction)

/-- `optionalLetter` without the letter, with a useless entry in the place of the conflict that the
    override settles, and with an unresolved override that is never asked for. -/
def noLetter : Model where
  table := Table.ofCells [
    (⟨⟨"1"⟩, "b"⟩, .single (.malformed "shift" "no destination")),
    (⟨⟨"1"⟩, "A"⟩, .single (.goto ⟨"3"⟩)),
    (⟨⟨"1"⟩, "S"⟩, .single (.shift ⟨"5"⟩)),
    (⟨⟨"3"⟩, "b"⟩, .single (.mergedShift ⟨"4"⟩)),
    (⟨⟨"4"⟩, "$"⟩, .single (.reduce ⟨"1"⟩)),
    (⟨⟨"5"⟩, "$"⟩, .single .accept)]
  productions := SortedMap.ofList [(⟨"0"⟩, ⟨"A", []⟩), (⟨"1"⟩, ⟨"S", ["A", "b"]⟩)]
  overrides := some (Table.ofCells [
    (⟨⟨"1"⟩, "b"⟩, .single (.reduce ⟨"0"⟩)),
    (⟨⟨"3"⟩, "$"⟩, .conflict [])])

/-- Over b $ the two models run in the same way, and the conflict at the letter b in state 1 may be
    replaced by anything. -/
theorem run_depends_on_consulted_optionalLetter :
    (fresh optionalLetter ["b", "$"] true).actionSites 4 =
      [⟨⟨"1"⟩, "b"⟩, ⟨⟨"3"⟩, "b"⟩, ⟨⟨"4"⟩, "$"⟩, ⟨⟨"5"⟩, "$"⟩] ∧
    (fresh optionalLetter ["b", "$"] true).gotoSites 4 = [⟨⟨"1"⟩, "A"⟩, ⟨⟨"1"⟩, "S"⟩] ∧
    SameFor 4 (fresh optionalLetter ["b", "$"] true) (fresh noLetter ["b", "$"] true) ∧
    ((fresh noLetter ["b", "$"] true).after 4).verdict = some .accepted ∧
    ∀ cell, SameFor 4 (fresh optionalLetter ["b", "$"] true)
      (fresh { optionalLetter with table := optionalLetter.table.insert ⟨"1"⟩ "b" cell }
        ["b", "$"] true) := by
  have hagrees : (fresh optionalLetter ["b", "$"] true).AgreesOnConsulted 4 noLetter :=
    ⟨by decide, by decide, by decide, by decide⟩
  have hverdict : ((fresh optionalLetter ["b", "$"] true).after 4).verdict = some .accepted := by
    decide
  obtain ⟨hmodels, hcells⟩ := run_depends_on_consulted optionalLetter ["b", "$"] true 4
  have hsame := hmodels noLetter rfl hagrees
  refine ⟨by decide, by decide, hsame, ?_, fun cell => ?_⟩
  · rw [← (hsame.point 4 (Nat.le_refl 4)).verdict, hverdict]
  · refine hcells _ ⟨⟨"1"⟩, "b"⟩ (fun s X hne => ?_) (by decide) (fun _ => by decide)
    refine Table.get?_insert_of_ne _ ?_ cell
    rintro ⟨rfl, rfl⟩
    exact hne rfl

end Machine

end ShiftReduce
