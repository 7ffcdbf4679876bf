import ShiftReduce.Proofs.PastLabels

/-!
# Runs without internal faults

Under consistent past labels a reduction always has its production and finds its right side on the
stack. If moreover every state that a reduction may uncover has a transition on the left side, no
run ever stops because table and productions do not fit together.

Results:
* `Machine.Stop.eq_inputExhausted_of_fatal`: one step has no other fault than that the input is
  used up.
* `Machine.verdicts_of_pastLabels`: the verdicts of whole runs.
-/

namespace ShiftReduce

/-- Whether an action is malformed or of an unknown kind. -/
def Action.isDefective : Action → Bool
  | .malformed _ _ => true
  | .unknown _ => true
  | _ => false

/-- Whether an action is a transition on a nonterminal. -/
def Action.isGoto : Action → Bool
  | .goto _ => true
  | _ => false

/-- Whether a cell holds a list of candidates. -/
def Cell.isConflict : Cell → Bool
  | .single _ => false
  | .conflict _ => true

namespace Model

/-! ## Conditions on the tables -/

/-- Every state from which the right side of a production leads to a place where it is reduced by
    has a transition on the left side in the primary table. -/
def HasGotos (M : Model) : Prop :=
  ∀ p s t rule production, M.Reduces s t rule → M.productions.get? rule = some production →
    Chain M.Edge p production.rhs s →
    ∃ d, M.table.get? p production.lhs = some (.single (.goto d)) ∨
      M.table.get? p production.lhs = some (.single (.shift d))

/-- No entry is of a kind that cannot be executed at a token. -/
structure Executable (M : Model) (tokens : List Symbol) : Prop where
  /-- No single action is malformed or of an unknown kind. -/
  sound {s : StateId} {X : Symbol} {a : Action} (h : M.Offers s X a) : a.isDefective = false
  /-- No cell of the override table holds a list of candidates. -/
  resolved {o : Table} {s : StateId} {X : Symbol} {c : Cell} (ho : M.overrides = some o)
    (h : o.get? s X = some c) : c.isConflict = false
  /-- No token heads the column of a transition on a nonterminal. -/
  terminal {s : StateId} {X : Symbol} {a : Action} (h : M.Offers s X a) (hgoto : a.isGoto = true) :
    X ∉ tokens

/-! ## The conditions can be checked -/

/-- The states from which edges lead to `s` and spell the symbols of the list, last symbol first. -/
def origins (M : Model) : List Symbol → StateId → List StateId
  | [], s => [s]
  | X :: α, s =>
    (M.edges.filter (fun e => e.1.symbol = X ∧ e.2 = s)).flatMap (fun e => M.origins α e.1.state)

variable {M : Model} {tokens : List Symbol}

theorem mem_origins {α : List Symbol} {p s : StateId} :
    p ∈ M.origins α.reverse s ↔ Chain M.Edge p α s := by
  induction α using List.reverseRecOn generalizing s with
  | nil => simp [origins, chain_nil_iff]
  | append_singleton α X ih =>
    rw [List.reverse_concat, origins, chain_concat_iff, List.mem_flatMap]
    constructor
    · rintro ⟨⟨⟨q, Y⟩, d⟩, hmem, hp⟩
      obtain ⟨hedge, hX⟩ := List.mem_filter.1 hmem
      obtain ⟨rfl, rfl⟩ := of_decide_eq_true hX
      exact ⟨q, ih.1 hp, mem_edges.1 hedge⟩
    · rintro ⟨q, hchain, hedge⟩
      exact ⟨(⟨q, X⟩, s), by simpa using mem_edges.2 hedge, ih.2 hchain⟩

theorem hasGotos_iff :
    M.HasGotos ↔ ∀ r ∈ M.reductions, ∀ production ∈ M.productions.get? r.2,
      ∀ p ∈ M.origins production.rhs.reverse r.1.state, (M.lookupGoto p production.lhs).isOk := by
  simp only [isOk_lookupGoto_iff]
  constructor
  · intro h r hr production hproduction p hp
    exact h p _ _ _ production (mem_reductions.1 hr) hproduction (mem_origins.1 hp)
  · intro h p s t rule production hreduces hproduction hchain
    exact h _ (mem_reductions.2 hreduces) production hproduction p (mem_origins.2 hchain)

instance : Decidable M.HasGotos := decidable_of_iff _ hasGotos_iff.symm

theorem executable_iff :
    M.Executable tokens ↔ (∀ e ∈ M.actions, e.2.isDefective = false) ∧
      (∀ o ∈ M.overrides, ∀ c ∈ o.cells, c.2.isConflict = false) ∧
      ∀ e ∈ M.actions, e.2.isGoto = true → e.1.symbol ∉ tokens := by
  constructor
  · intro h
    refine ⟨fun e he => h.sound (mem_actions.1 he), fun o ho c hc => ?_,
      fun e he => h.terminal (mem_actions.1 he)⟩
    exact h.resolved ho (Table.get?_eq_some_iff.2 hc)
  · rintro ⟨hsound, hresolved, hterminal⟩
    refine ⟨fun h => hsound _ (mem_actions.2 h), fun {o s X c} ho h => ?_,
      fun h => hterminal _ (mem_actions.2 h)⟩
    exact hresolved o ho (⟨s, X⟩, c) (Table.get?_eq_some_iff.1 h)

instance : Decidable (M.Executable tokens) := decidable_of_iff _ executable_iff.symm

end Model

namespace Machine

variable {M : Model} {past : StateId → List Symbol} {m : Machine} {s : Stack}

/-- On a stack that is a path, a reduction under consistent labels has its production, its right
    side and its transition. So the only fault left is that the input is used up. -/
theorem Stop.eq_inputExhausted_of_fatal (hlabels : m.model.PastLabels past)
    (hgotos : m.model.HasGotos) (hpath : m.OnPath) {fault : Fault}
    (h : m.Stop s (.fatal fault)) : m.lookahead = none ∧ fault = .inputExhausted m.cursor := by
  cases h with
  | inputExhausted _ hlookahead => exact ⟨hlookahead, rfl⟩
  | missingProduction hconsults hrule hproduction =>
    obtain ⟨p, _, hp, -⟩ := hlabels.exists_pop hpath.bottom hpath.linked (hconsults.reduces hrule)
    rw [hproduction] at hp
    cases hp
  | stackUnderflow hconsults hrule hproduction hpop =>
    obtain ⟨p, exposed, hp, hexposed, -⟩ :=
      hlabels.exists_pop hpath.bottom hpath.linked (hconsults.reduces hrule)
    obtain rfl := Option.some.inj (hproduction.symm.trans hp)
    rw [hpop] at hexposed
    cases hexposed
  | missingGoto hconsults hrule hproduction hpop hgoto =>
    have hreduces := hconsults.reduces hrule
    obtain ⟨p, exposed, hp, hexposed, -, hchain⟩ :=
      hlabels.exists_pop hpath.bottom hpath.linked hreduces
    obtain rfl := Option.some.inj (hproduction.symm.trans hp)
    obtain rfl := Option.some.inj (hpop.symm.trans hexposed)
    obtain ⟨-, hnone⟩ := Model.lookupGoto_eq_error_iff.1 hgoto
    obtain ⟨d, hcell | hcell⟩ := hgotos _ _ _ _ _ hreduces hproduction hchain
    · cases hnone _ hcell
    · cases hnone _ hcell

/-- Where every entry can be executed, a step rejects the input for one of two reasons. -/
theorem Stop.reason_of_executable (hexecutable : m.model.Executable m.tokens) {r : Rejection}
    (h : m.Stop s (.rejected r)) :
    (∃ state token position, r = .syntaxError state token position) ∨
      ∃ state token, r = .conflict state token := by
  cases h with
  | syntaxError => exact .inl ⟨_, _, _, rfl⟩
  | conflict => exact .inr ⟨_, _, rfl⟩
  | unresolvedOverride _ _ hlookup =>
    have hcell := Model.lookupAction_eq_unresolvedOverride_iff.1 hlookup
    obtain ⟨-, o, ho, hget⟩ := Model.overrideCell?_eq_some_iff.1 hcell
    cases hexecutable.resolved ho hget
  | malformed hconsults =>
    cases hexecutable.sound (Model.offers_of_lookupAction hconsults.found)
  | unknown hconsults =>
    cases hexecutable.sound (Model.offers_of_lookupAction hconsults.found)
  | goto hconsults =>
    have hmem := List.mem_of_getElem? hconsults.lookahead
    exact absurd hmem (hexecutable.terminal (Model.offers_of_lookupAction hconsults.found) rfl)

/-- **No internal faults.** Let the past labels be consistent and every uncovered state have its
    transition. Then, whatever the caller does, the only fault is that the input is used up. If
    moreover every entry can be executed, a run that ends has accepted the input, found a syntax
    error or a conflict, or used up the input. -/
theorem verdicts_of_pastLabels (hlabels : M.PastLabels past) (hgotos : M.HasGotos)
    (tokens : List Symbol) (ops : List Operation) :
    (∀ fault, .halt (.fatal fault) ∈ (start M tokens).outcomes ops →
      fault = .inputExhausted tokens.length) ∧
    (M.Executable tokens → ∀ v, .halt v ∈ (start M tokens).outcomes ops →
      v = .accepted ∨
      (∃ state token position, v = .rejected (.syntaxError state token position)) ∨
      (∃ state token, v = .rejected (.conflict state token)) ∨
      v = .fatal (.inputExhausted tokens.length)) := by
  have hfatal : ∀ fault, .halt (.fatal fault) ∈ (start M tokens).outcomes ops →
      fault = .inputExhausted tokens.length := by
    intro fault hhalt
    obtain ⟨done, s, -, hstop⟩ := exists_stop_of_halt rfl hhalt
    have hrun := isRunOf_session M tokens done
    obtain ⟨hlookahead, rfl⟩ := hstop.eq_inputExhausted_of_fatal (by rwa [hrun.model])
      (by rwa [hrun.model]) (onPath_session M tokens done)
    -- no token is under the cursor, and the cursor never leaves the input
    have hle := cursor_session_le M tokens done
    have hge := List.getElem?_eq_none_iff.1 hlookahead
    rw [hrun.tokens] at hge
    rw [Nat.le_antisymm hle hge]
  refine ⟨hfatal, fun hexecutable v hhalt => ?_⟩
  cases v with
  | accepted => exact .inl rfl
  | fatal fault => exact .inr (.inr (.inr (congrArg Verdict.fatal (hfatal fault hhalt))))
  | rejected r =>
    obtain ⟨done, s, -, hstop⟩ := exists_stop_of_halt rfl hhalt
    have hrun := isRunOf_session M tokens done
    rcases hstop.reason_of_executable (by rwa [hrun.model, hrun.tokens]) with
      ⟨state, token, position, rfl⟩ | ⟨state, token, rfl⟩
    · exact .inr (.inl ⟨state, token, position, rfl⟩)
    · exact .inr (.inr (.inl ⟨state, token, rfl⟩))

/-- A second letter b is a syntax error, and nothing worse, wherever overrides are switched. -/
theorem verdicts_of_optionalLetter :
    optionalLetter.PastLabels optionalLetterPast ∧ optionalLetter.HasGotos ∧
    optionalLetter.Executable ["b", "b"] ∧
    (start optionalLetter ["b", "b"]).outcomes [.step, .switch false, .step, .switch true, .step] =
      [.next (.reduce ⟨"1"⟩ ⟨"0"⟩ "A" 0 ⟨"3"⟩ .override), .next (.shift ⟨"3"⟩ "b" ⟨"4"⟩ .primary),
        .halt (.rejected (.syntaxError ⟨"4"⟩ "b" 1))] ∧
    ∀ v, .halt v ∈ (start optionalLetter ["b", "b"]).outcomes
        [.step, .switch false, .step, .switch true, .step] →
      v = .accepted ∨
      (∃ state token position, v = .rejected (.syntaxError state token position)) ∨
      (∃ state token, v = .rejected (.conflict state token)) ∨
      v = .fatal (.inputExhausted 2) := by
  have hlabels : optionalLetter.PastLabels optionalLetterPast := by decide
  have hgotos : optionalLetter.HasGotos := by decide
  have hexecutable : optionalLetter.Executable ["b", "b"] := by decide
  refine ⟨hlabels, hgotos, hexecutable, by decide, ?_⟩
  exact (verdicts_of_pastLabels hlabels hgotos ["b", "b"] _).2 hexecutable

end Machine

end ShiftReduce
