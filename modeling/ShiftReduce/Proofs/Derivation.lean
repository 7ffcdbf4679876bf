import ShiftReduce.Proofs.PastLabels

/-!
# Runs as rightmost derivations

A reduction is a derivation step read backwards. Under consistent past labels every reduction of a
run replaces the right side of its production by the left side, although it only counts the pairs
that it takes off. So the symbols on the stack derive the tokens that were read, by the rules of the
reductions in reverse order.

Results:
* `Model.RightmostDerives`: a rightmost derivation, with the rules that it applies.
* `Machine.reductions_derive_input`: what a run has on its stack derives what it has read.
-/

namespace ShiftReduce

/-! ## Rightmost derivations -/

/-- The rules of the list, applied one after the other, rewrite a form into `word`. Each replaces an
    occurrence of its left side by its right side. Behind the occurrence there is only a final part
    of `word`, and no later rule replaces anything in that part: `tail` is the final part that the
    rule before left behind. -/
inductive Model.RightmostDerives (M : Model) (word : List Symbol) :
    (tail : List Symbol) → (rules : List RuleId) → (form : List Symbol) → Prop
  /-- The form is the word, and no rule is left. -/
  | done {tail : List Symbol} (htail : tail <:+ word) : RightmostDerives M word tail [] word
  /-- The first rule replaces the symbol in front of `back`. -/
  | rewrite {tail front back : List Symbol} {rule : RuleId} {rules : List RuleId} {p : Production}
      (hproduction : M.productions.get? rule = some p) (htail : tail <:+ back)
      (hrest : RightmostDerives M word back rules (front ++ p.rhs ++ back)) :
      RightmostDerives M word tail (rule :: rules) (front ++ p.lhs :: back)

namespace Model.RightmostDerives

variable {M : Model} {word tail tail' form : List Symbol} {rules : List RuleId}

theorem of_suffix (h : M.RightmostDerives word tail rules form) (htail : tail' <:+ tail) :
    M.RightmostDerives word tail' rules form := by
  cases h with
  | done h => exact .done (htail.trans h)
  | rewrite hproduction h hrest => exact .rewrite hproduction (htail.trans h) hrest

/-- One more token behind everything. -/
theorem append_token (h : M.RightmostDerives word tail rules form) (token : Symbol) :
    M.RightmostDerives (word ++ [token]) (tail ++ [token]) rules (form ++ [token]) := by
  induction h with
  | done htail => exact .done (List.suffix_append_self_iff.2 htail)
  | @rewrite tail front back rule rules p hproduction htail _ ih =>
    rw [List.append_assoc, List.cons_append]
    refine .rewrite hproduction (List.suffix_append_self_iff.2 htail) ?_
    rw [← List.append_assoc]
    exact ih

end Model.RightmostDerives

/-! ## Runs -/

/-- The rule of a reduction. -/
def Transition.rule? : Transition → Option RuleId
  | .shift _ _ _ _ => none
  | .reduce _ rule _ _ _ _ => some rule

/-- The rules of the reductions of a history, last reduction first. -/
def rulesBackwards (history : List Transition) : List RuleId :=
  (history.filterMap Transition.rule?).reverse

theorem rulesBackwards_concat (history : List Transition) (t : Transition) :
    rulesBackwards (history ++ [t]) = t.rule?.toList ++ rulesBackwards history := by
  cases t <;> simp [rulesBackwards, Transition.rule?]

namespace Machine

variable {M : Model} {past : StateId → List Symbol} {m m' : Machine}

/-- A reduction takes off exactly the symbols of its right side, in order. -/
theorem symbols_of_reduce (h : M.PastLabels past) (hmodel : m.model = M) (hpath : m.OnPath)
    {state goto : StateId} {rule : RuleId} {lhs : Symbol} {popped : Nat} {source : Source}
    (hstep : m.Advance m' (.reduce state rule lhs popped goto source)) :
    ∃ p exposed, M.productions.get? rule = some p ∧ lhs = p.lhs ∧ popped = 2 * p.rhs.length ∧
      m.stack.pop? p.rhs.length = some exposed ∧ m.stack.symbols = exposed.symbols ++ p.rhs ∧
      m'.stack = exposed.push lhs goto := by
  subst hmodel
  cases hstep with
  | reduce hconsults hrule hproduction hpop hgoto =>
    obtain ⟨p, exposed, hp, hpop', hsymbols, -⟩ :=
      h.exists_pop hpath.bottom hpath.linked (hconsults.reduces hrule)
    obtain rfl := Option.some.inj (hproduction.symm.trans hp)
    obtain rfl := Option.some.inj (hpop.symm.trans hpop')
    exact ⟨_, _, hp, rfl, rfl, hpop', hsymbols, rfl⟩

/-- The symbols on the stack derive the part of the input that was read. -/
def DerivesInput (m : Machine) (history : List Transition) : Prop :=
  m.model.RightmostDerives (m.tokens.take m.cursor) [] (rulesBackwards history) m.stack.symbols

theorem DerivesInput.advance (h : m.model.PastLabels past) (hpath : m.OnPath)
    {history : List Transition} (hderives : m.DerivesInput history) {t : Transition}
    (hstep : m.Advance m' t) : m'.DerivesInput (history ++ [t]) := by
  unfold DerivesInput at hderives ⊢
  rw [rulesBackwards_concat]
  cases t with
  | shift state token destination source =>
    cases hstep with
    | shift hconsults =>
      simp only [take_cursor_succ hconsults.lookahead, Stack.symbols_push]
      exact (hderives.append_token token).of_suffix List.nil_suffix
  | reduce state rule lhs popped goto source =>
    obtain ⟨p, exposed, hproduction, hlhs, -, -, hsymbols, hstack⟩ :=
      symbols_of_reduce h rfl hpath hstep
    -- the reduction is the first rewriting step of the new derivation
    rw [hsymbols] at hderives
    cases hstep with
    | reduce =>
      rw [hstack, hlhs, Stack.symbols_push]
      refine .rewrite hproduction List.nil_suffix ?_
      rw [List.append_nil]
      exact hderives

/-- **Soundness of the run.** Under consistent past labels every reduction, at whatever point the
    caller asks for it, takes off exactly the symbols of its right side. As long as all steps go on,
    the symbols on the stack derive the tokens in front of the cursor, by the rules of the
    reductions so far in reverse order. -/
theorem reductions_derive_input (h : M.PastLabels past) (tokens : List Symbol)
    (ops : List Operation) :
    (∀ m' state rule lhs popped goto source,
      ((start M tokens).session ops).step =
        (m', .next (.reduce state rule lhs popped goto source)) →
      ∃ p exposed, M.productions.get? rule = some p ∧ lhs = p.lhs ∧ popped = 2 * p.rhs.length ∧
        ((start M tokens).session ops).stack.pop? p.rhs.length = some exposed ∧
        ((start M tokens).session ops).stack.symbols = exposed.symbols ++ p.rhs ∧
        m'.stack = exposed.push lhs goto) ∧
    ∀ history, (start M tokens).outcomes ops = history.map .next →
      M.RightmostDerives (tokens.take ((start M tokens).session ops).cursor) []
        (rulesBackwards history) ((start M tokens).session ops).stack.symbols := by
  have hrun := isRunOf_session M tokens ops
  constructor
  · intro m' state rule lhs popped goto source hstep
    exact symbols_of_reduce h hrun.model (onPath_session M tokens ops) (step_eq_next_iff.1 hstep)
  · intro history hhistory
    have hinvariant := history_induction (P := fun m history => m.OnPath ∧ m.DerivesInput history)
      ⟨⟨rfl, .initial _⟩, .done List.nil_suffix⟩
      (fun m history enabled hm => ⟨⟨hm.1.bottom, hm.1.linked⟩, hm.2⟩)
      (fun m m' t history hm hP hstep =>
        ⟨hstep.onPath hP.1, hP.2.advance (hm.model ▸ h) hP.1 hstep⟩) hhistory
    have hderives := hinvariant.2
    unfold DerivesInput at hderives
    rwa [hrun.model, hrun.tokens] at hderives

/-- With S → A b and A → ε, and overrides switched on for the first step only, the input b is read
    as S: by the second rule 0, the first rule 1. -/
theorem optionalLetter_derives_b :
    optionalLetter.PastLabels optionalLetterPast ∧
    (start optionalLetter ["b", "$"]).outcomes
        [.switch false, .switch true, .step, .switch false, .step, .step] =
      [.reduce ⟨"1"⟩ ⟨"0"⟩ "A" 0 ⟨"3"⟩ .override, .shift ⟨"3"⟩ "b" ⟨"4"⟩ .primary,
        .reduce ⟨"4"⟩ ⟨"1"⟩ "S" 4 ⟨"5"⟩ .primary].map .next ∧
    optionalLetter.RightmostDerives ["b"] [] [⟨"1"⟩, ⟨"0"⟩] ["S"] := by
  have hlabels : optionalLetter.PastLabels optionalLetterPast := by decide
  have hhistory : (start optionalLetter ["b", "$"]).outcomes
        [.switch false, .switch true, .step, .switch false, .step, .step] =
      [.reduce ⟨"1"⟩ ⟨"0"⟩ "A" 0 ⟨"3"⟩ .override, .shift ⟨"3"⟩ "b" ⟨"4"⟩ .primary,
        .reduce ⟨"4"⟩ ⟨"1"⟩ "S" 4 ⟨"5"⟩ .primary].map .next := by decide
  exact ⟨hlabels, hhistory, (reductions_derive_input hlabels ["b", "$"] _).2 _ hhistory⟩

end Machine

end ShiftReduce
