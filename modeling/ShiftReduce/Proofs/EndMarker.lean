import Mathlib.Data.List.Basic
import ShiftReduce.CommandLine.Commands
import ShiftReduce.Proofs.History

/-!
# Acceptance at the end marker

The end marker stands behind the words of an input, and is a token like any other. If a model
accepts at no other symbol, a run that accepts has the cursor at an end marker. That is the one
behind the words, unless the input has the end marker among its words: then a run may accept in
front of words that it has not read.

Results:
* `Machine.take_cursor_session`: the tokens in front of the cursor are those that were shifted.
* `Machine.SettlesAfter.lookahead_of_accepted`: acceptance comes at the end marker.
* `Machine.SettlesAfter.exists_unread`: the tokens fall apart into the shifted ones, the end marker
  and the rest.
* `Machine.accepted_at_end_marker`: what has been read when the input is accepted.
-/

namespace ShiftReduce

/-! ## Columns with acceptance -/

namespace Model

/-- Single actions that accept, in either table, are in the column of `X` only. -/
def AcceptsOnlyAt (M : Model) (X : Symbol) : Prop := ∀ s t, M.Offers s t .accept → t = X

theorem acceptsOnlyAt_iff {M : Model} {X : Symbol} :
    M.AcceptsOnlyAt X ↔ ∀ e ∈ M.actions, e.2 = .accept → e.1.symbol = X := by
  constructor
  · rintro h ⟨⟨s, t⟩, a⟩ he rfl
    exact h s t (mem_actions.1 he)
  · intro h s t hoffers
    exact h (⟨s, t⟩, .accept) (mem_actions.2 hoffers) rfl

instance {M : Model} {X : Symbol} : Decidable (M.AcceptsOnlyAt X) :=
  decidable_of_iff _ acceptsOnlyAt_iff.symm

end Model

/-! ## Tokens that were shifted -/

/-- The token that a step consumed, if it was a shift. -/
def Step.shifted? : Step → Option Symbol
  | .next (.shift _ token _ _) => some token
  | .next (.reduce _ _ _ _ _ _) => none
  | .halt _ => none

/-- The tokens that steps consumed, first step first. -/
def shiftedTokens (steps : List Step) : List Symbol := steps.filterMap Step.shifted?

theorem shiftedTokens_cons (s : Step) (steps : List Step) :
    shiftedTokens (s :: steps) = s.shifted?.toList ++ shiftedTokens steps := by
  unfold shiftedTokens
  cases h : s.shifted? <;> simp [h]

namespace Machine

variable {m : Machine} {M : Model} {tokens : List Symbol} {enabled : Bool} {X : Symbol} {n : Nat}

theorem take_cursor_step (m : Machine) :
    m.tokens.take m.step.1.cursor = m.tokens.take m.cursor ++ m.step.2.shifted?.toList := by
  cases hverdict : m.verdict with
  | some v =>
    rw [step_of_settled hverdict]
    exact (List.append_nil _).symm
  | none =>
    rcases advance_or_stop hverdict with ⟨m', t, h⟩ | ⟨s, v, h⟩
    · rw [h.step_eq]
      cases h with
      | shift hconsults => exact take_cursor_succ hconsults.lookahead
      | reduce => exact (List.append_nil _).symm
    · rw [h.step_eq]
      exact (List.append_nil _).symm

/-- Whatever a caller does, the cursor has passed the tokens that were shifted since, and no
    others. -/
theorem take_cursor_session (m : Machine) (ops : List Operation) :
    m.tokens.take (m.session ops).cursor =
      m.tokens.take m.cursor ++ shiftedTokens (m.outcomes ops) := by
  induction ops generalizing m with
  | nil => exact (List.append_nil _).symm
  | cons op ops ih =>
    cases op with
    | switch enabled => exact ih (m.setOverrides enabled)
    | step =>
      have htokens : m.step.1.tokens = m.tokens := tokens_after m 1
      have hrest := ih m.step.1
      rw [htokens, take_cursor_step, List.append_assoc, ← shiftedTokens_cons] at hrest
      exact hrest

/-- The tokens that the first `n` steps of a run consumed. -/
def shiftedWithin (m : Machine) (n : Nat) : List Symbol :=
  shiftedTokens (m.outcomes (List.replicate n .step))

theorem take_cursor_after_fresh (M : Model) (tokens : List Symbol) (enabled : Bool) (n : Nat) :
    tokens.take ((fresh M tokens enabled).after n).cursor =
      (fresh M tokens enabled).shiftedWithin n := by
  have hshifted := take_cursor_session (fresh M tokens enabled) (List.replicate n .step)
  rw [← after_eq_session] at hshifted
  exact hshifted

/-! ## Acceptance -/

/-- The step that accepts finds the end marker under the cursor. -/
theorem SettlesAfter.lookahead_of_accepted (h : m.SettlesAfter n .accepted)
    (hcolumn : m.model.AcceptsOnlyAt X) : (m.after n).lookahead = some X := by
  obtain ⟨s, hstop, -⟩ := (step_eq_halt_iff h.running).1 (Prod.ext rfl h.halts)
  cases hstop with
  | accept hconsults =>
    have hoffers := Model.offers_of_lookupAction hconsults.found
    rw [model_after] at hoffers
    rw [hconsults.lookahead, hcolumn _ _ hoffers]

/-- Before the step that accepts, the end marker is between the tokens that the run has shifted and
    those that it has not read. -/
theorem SettlesAfter.exists_unread (h : (fresh M tokens enabled).SettlesAfter n .accepted)
    (hcolumn : M.AcceptsOnlyAt X) :
    ((fresh M tokens enabled).after n).cursor =
        ((fresh M tokens enabled).shiftedWithin n).length ∧
      ∃ unread, tokens = (fresh M tokens enabled).shiftedWithin n ++ X :: unread := by
  have hlookahead := h.lookahead_of_accepted hcolumn
  rw [lookahead, tokens_after] at hlookahead
  obtain ⟨hlt, htoken⟩ := List.getElem?_eq_some_iff.1 hlookahead
  have hshifted := take_cursor_after_fresh M tokens enabled n
  constructor
  · rw [← hshifted, List.length_take]
    exact (Nat.min_eq_left (Nat.le_of_lt hlt)).symm
  · have hdrop : tokens.drop ((fresh M tokens enabled).after n).cursor =
        X :: tokens.drop (((fresh M tokens enabled).after n).cursor + 1) := by
      rw [← htoken]
      exact List.drop_eq_getElem_cons hlt
    refine ⟨tokens.drop (((fresh M tokens enabled).after n).cursor + 1), ?_⟩
    rw [← hshifted, ← hdrop, List.take_append_drop]

/-- **Acceptance comes at the end marker.** Let a model accept at the end marker only, and let the
    run over the words of an input, with the end marker behind them, accept. Before the step that
    accepts, the shifted tokens are those in front of the cursor, and the token under the cursor is
    the end marker. If it is none of the words, then the shifted tokens are all the words, and there
    is nothing behind the cursor. -/
theorem accepted_at_end_marker (M : Model) (input : String) (endMarker : Symbol) (enabled : Bool)
    (hcolumn : M.AcceptsOnlyAt endMarker) {fuel : Nat}
    (haccepted : (fresh M (tokenize input endMarker) enabled).run? fuel = some .accepted) :
    ∃ n unread, (fresh M (tokenize input endMarker) enabled).SettlesAfter n .accepted ∧
      ((fresh M (tokenize input endMarker) enabled).after n).cursor =
        ((fresh M (tokenize input endMarker) enabled).shiftedWithin n).length ∧
      tokenize input endMarker =
        (fresh M (tokenize input endMarker) enabled).shiftedWithin n ++ endMarker :: unread ∧
      (endMarker ∉ words input →
        (fresh M (tokenize input endMarker) enabled).shiftedWithin n = words input ∧
          unread = []) := by
  obtain ⟨n, -, hsettles⟩ := exists_settlesAfter_of_run? rfl haccepted
  obtain ⟨hcursor, unread, hsplit⟩ := hsettles.exists_unread hcolumn
  refine ⟨n, unread, hsettles, hcursor, hsplit, fun hword => ?_⟩
  -- the last token is the only end marker, so there is one way to split the tokens there
  have hend : words input ++ endMarker :: [] =
      (fresh M (tokenize input endMarker) enabled).shiftedWithin n ++ endMarker :: unread := hsplit
  obtain ⟨hwords, -, hunread⟩ :=
    (List.append_cons_inj_of_notMem hword List.not_mem_nil).1 hend
  exact ⟨hwords.symm, hunread.symm⟩

/-- The words a and b are read before the input is accepted. -/
theorem accepted_at_end_marker_optionalLetter :
    optionalLetter.AcceptsOnlyAt "$" ∧ "$" ∉ words " a  b " ∧
    (fresh optionalLetter (tokenize " a  b " "$") true).run? 5 = some .accepted ∧
    ∃ n, (fresh optionalLetter (tokenize " a  b " "$") true).SettlesAfter n .accepted ∧
      (fresh optionalLetter (tokenize " a  b " "$") true).shiftedWithin n = ["a", "b"] := by
  have hcolumn : optionalLetter.AcceptsOnlyAt "$" := by decide
  have hwords : words " a  b " = ["a", "b"] := by decide
  have hword : "$" ∉ words " a  b " := by decide
  have haccepted : (fresh optionalLetter (tokenize " a  b " "$") true).run? 5 = some .accepted := by
    decide
  obtain ⟨n, unread, hsettles, -, -, hall⟩ :=
    accepted_at_end_marker optionalLetter " a  b " "$" true hcolumn haccepted
  refine ⟨hcolumn, hword, haccepted, n, hsettles, ?_⟩
  rw [(hall hword).1, hwords]

/-- With the end marker among the words, the input is accepted in front of a word that is never
    read. -/
theorem accepted_before_end :
    optionalLetter.AcceptsOnlyAt "$" ∧ words "b $ b" = ["b", "$", "b"] ∧
    (fresh optionalLetter (tokenize "b $ b" "$") true).run? 4 = some .accepted ∧
    (fresh optionalLetter (tokenize "b $ b" "$") true).SettlesAfter 3 .accepted ∧
    ((fresh optionalLetter (tokenize "b $ b" "$") true).after 3).cursor = 1 ∧
    1 ≠ (words "b $ b").length := by
  refine ⟨by decide, by decide, by decide, ⟨by decide, by decide⟩, by decide, by decide⟩

end Machine

end ShiftReduce
