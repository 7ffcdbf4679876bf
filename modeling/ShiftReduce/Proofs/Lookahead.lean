import ShiftReduce.Proofs.Locality
import ShiftReduce.Proofs.PastLabels

/-!
# One token of lookahead

A step looks at the token under the cursor and at no other. So a run does not depend on the tokens
behind its cursor, and more tokens behind the input make a difference only when the cursor has come
to the end of the input.

Results:
* `Machine.after_append`: a run that has no verdict yet is at the same point with more tokens behind
  the input.
* `Machine.traceRow_append`: and so is the line of its history.
* `Machine.SettlesAfter.cursor_lt`: a verdict other than that the input is used up is settled in
  front of the end of the input.
* `Machine.run_append`: what becomes of a run when tokens are added.
-/

namespace ShiftReduce

namespace Machine

variable {m : Machine} {M : Model} {ts us : List Symbol} {enabled : Bool} {n k : Nat} {v : Verdict}

/-! ## The token under the cursor -/

theorem lookahead_of_next {t : Transition} (h : m.step.2 = .next t) :
    ∃ token, m.lookahead = some token := by
  have hadvance : m.Advance m.step.1 t := step_eq_next_iff.1 (Prod.ext rfl h)
  generalize m.step.1 = m' at hadvance
  cases hadvance with
  | shift hconsults => exact ⟨_, hconsults.lookahead⟩
  | reduce hconsults => exact ⟨_, hconsults.lookahead⟩

theorem cursor_lt_of_lookahead {token : Symbol}
    (h : ((fresh M ts enabled).after n).lookahead = some token) :
    ((fresh M ts enabled).after n).cursor < ts.length := by
  have hlookahead : ts[((fresh M ts enabled).after n).cursor]? = some token := by
    rwa [lookahead, tokens_after] at h
  exact (List.getElem?_eq_some_iff.1 hlookahead).1

/-- A run that has no verdict yet has not come to the end of the input before. -/
theorem cursor_lt_of_running (hrunning : ((fresh M ts enabled).after n).verdict = none)
    (hkn : k < n) : ((fresh M ts enabled).after k).cursor < ts.length := by
  obtain ⟨t, ht⟩ := running_after_succ_iff.1 (running_of_le (Nat.succ_le_of_lt hkn) hrunning)
  obtain ⟨token, htoken⟩ := lookahead_of_next ht
  exact cursor_lt_of_lookahead htoken

/-- The step that finds the input used up is taken at its end, and reports this position. -/
theorem SettlesAfter.exhausted {position : Nat}
    (h : (fresh M ts enabled).SettlesAfter n (.fatal (.inputExhausted position))) :
    position = ts.length ∧ ((fresh M ts enabled).after n).cursor = ts.length ∧
      ((fresh M ts enabled).after (n + 1)).stack = ((fresh M ts enabled).after n).stack := by
  obtain ⟨s, hstop, hm'⟩ := (step_eq_halt_iff h.running).1 (Prod.ext rfl h.halts)
  have hstack : ((fresh M ts enabled).after (n + 1)).stack = s := (congrArg Machine.stack hm' :)
  have hcursor := cursor_after_fresh_le M ts enabled n
  cases hstop with
  | inputExhausted _ hlookahead =>
    rw [lookahead, tokens_after] at hlookahead
    have hend := List.getElem?_eq_none_iff.1 hlookahead
    have heq := Nat.le_antisymm hcursor hend
    exact ⟨heq, heq, hstack⟩

/-- Any other verdict is settled in front of the end of the input. -/
theorem SettlesAfter.cursor_lt (h : (fresh M ts enabled).SettlesAfter n v)
    (hv : ∀ position, v ≠ .fatal (.inputExhausted position)) :
    ((fresh M ts enabled).after n).cursor < ts.length := by
  cases hlookahead : ((fresh M ts enabled).after n).lookahead with
  | some token => exact cursor_lt_of_lookahead hlookahead
  | none =>
    have hstop := (Stop.inputExhausted h.running hlookahead).step_eq
    have hhalt := h.halts
    rw [hstop] at hhalt
    cases hhalt
    exact absurd rfl (hv _)

/-! ## More tokens behind the input -/

/-- As long as the cursor is in front of the end of the input, more tokens behind the input make no
    difference to what a step is told. -/
theorem answersLike_append (us : List Symbol) (h : m.cursor < m.tokens.length) :
    m.AnswersLike id m.model (m.tokens ++ us) m.useOverrides where
  lookahead _ := List.getElem?_append_left h
  action _ _ _ := (Lookup.relabel_id _).symm
  production _ _ := rfl
  goto _ _ _ _ _ _ := rfl

theorem answersLike_append_after (us : List Symbol)
    (h : ((fresh M ts enabled).after n).cursor < ts.length) :
    ((fresh M ts enabled).after n).AnswersLike id M (ts ++ us) enabled := by
  have hcursor : ((fresh M ts enabled).after n).cursor <
      ((fresh M ts enabled).after n).tokens.length := by
    rw [tokens_after]
    exact h
  have hanswers := answersLike_append us hcursor
  rwa [model_after, tokens_after, useOverrides_after] at hanswers

/-- For as long as the cursor is in front of the end of the input, the run is at the same point with
    more tokens behind the input. -/
theorem after_append_of_cursor (us : List Symbol)
    (h : ∀ k, k < n → ((fresh M ts enabled).after k).cursor < ts.length) :
    (fresh M (ts ++ us) enabled).after n =
      ((fresh M ts enabled).after n).transfer M (ts ++ us) enabled :=
  after_transfer (m := fresh M ts enabled) fun k hk => answersLike_append_after us (h k hk)

/-- A run that has no verdict yet is at the same point with more tokens behind the input. -/
theorem after_append (us : List Symbol) (h : ((fresh M ts enabled).after n).verdict = none) :
    (fresh M (ts ++ us) enabled).after n =
      ((fresh M ts enabled).after n).transfer M (ts ++ us) enabled :=
  after_append_of_cursor us fun _ hk => cursor_lt_of_running h hk

/-- In front of the end of the input, a run makes the same step with more tokens behind the input,
    from the same point to the same point. -/
theorem step_append (us : List Symbol) (h : ((fresh M ts enabled).after n).cursor < ts.length) :
    ((fresh M ts enabled).after n).SamePoint ((fresh M (ts ++ us) enabled).after n) ∧
      ((fresh M (ts ++ us) enabled).after n).step.2 = ((fresh M ts enabled).after n).step.2 ∧
      ((fresh M ts enabled).after (n + 1)).SamePoint
        ((fresh M (ts ++ us) enabled).after (n + 1)) := by
  have hbefore : ∀ k, k ≤ n → ((fresh M ts enabled).after k).cursor < ts.length := by
    intro k hk
    exact Nat.lt_of_le_of_lt (cursor_after_mono _ hk) h
  have hn := after_append_of_cursor us fun k hk => hbefore k (Nat.le_of_lt hk)
  have hsucc := after_append_of_cursor (n := n + 1) us fun k hk => hbefore k (Nat.le_of_lt_succ hk)
  rw [hn, hsucc, step_transfer (answersLike_append_after us h), Step.relabel_id]
  exact ⟨samePoint_transfer _ _ _ _, rfl, samePoint_transfer _ _ _ _⟩

/-- The line of the history is the same with more tokens behind the input. -/
theorem traceRow_append (us : List Symbol)
    (h : ((fresh M ts enabled).after n).cursor < ts.length) (index : Nat) :
    ((fresh M (ts ++ us) enabled).after n).traceRow index =
      ((fresh M ts enabled).after n).traceRow index := by
  obtain ⟨⟨hstack, hcursor, -⟩, hstep, -⟩ := step_append us h
  have hlookahead : ((fresh M (ts ++ us) enabled).after n).lookahead =
      ((fresh M ts enabled).after n).lookahead := by
    rw [Machine.lookahead, Machine.lookahead, tokens_after, tokens_after, ← hcursor]
    exact List.getElem?_append_left h
  simp only [traceRow, state, hstack, hcursor, hstep, hlookahead]

/-! ## Verdicts with more tokens behind the input -/

/-- A verdict that is settled in front of the end of the input is settled by the same step with more
    tokens behind the input, and the history is the same. -/
theorem SettlesAfter.append (us : List Symbol) (h : (fresh M ts enabled).SettlesAfter n v)
    (hcursor : ((fresh M ts enabled).after n).cursor < ts.length) :
    (fresh M (ts ++ us) enabled).SettlesAfter n v ∧
      (fresh M (ts ++ us) enabled).traceRows 0 (n + 1) =
        (fresh M ts enabled).traceRows 0 (n + 1) := by
  obtain ⟨hpoint, hstep, -⟩ := step_append us hcursor
  refine ⟨⟨hpoint.verdict ▸ h.running, hstep.trans h.halts⟩, ?_⟩
  refine List.map_congr_left fun k hk => traceRow_append us ?_ k
  have hkn : k ≤ n := by
    rw [List.mem_range'_1] at hk
    omega
  exact Nat.lt_of_le_of_lt (cursor_after_mono _ hkn) hcursor

/-- **One token of lookahead.** For as long as the cursor is in front of the end of the input `ts`,
    the runs over `ts` and over `ts ++ us` are at the same point and make the same step to the same
    point. If the run over `ts` is settled, and not because the input is used up, the run over
    `ts ++ us` is settled by the same step with the same verdict and the same history. If it is
    settled because the input is used up, then at its end, and before that step the run over
    `ts ++ us` has the very stack that the run over `ts` is left with, and the cursor at the end of
    `ts`. -/
theorem run_append (M : Model) (ts us : List Symbol) (enabled : Bool) :
    (∀ n, ((fresh M ts enabled).after n).cursor < ts.length →
      ((fresh M ts enabled).after n).SamePoint ((fresh M (ts ++ us) enabled).after n) ∧
      ((fresh M (ts ++ us) enabled).after n).step.2 = ((fresh M ts enabled).after n).step.2 ∧
      ((fresh M ts enabled).after (n + 1)).SamePoint
        ((fresh M (ts ++ us) enabled).after (n + 1))) ∧
    (∀ n v, (fresh M ts enabled).SettlesAfter n v →
      (∀ position, v ≠ .fatal (.inputExhausted position)) →
      (fresh M (ts ++ us) enabled).SettlesAfter n v ∧
      ∃ trace, ∀ fuel, n < fuel → (fresh M ts enabled).runTraced? fuel = some (v, trace) ∧
        (fresh M (ts ++ us) enabled).runTraced? fuel = some (v, trace)) ∧
    ∀ n position, (fresh M ts enabled).SettlesAfter n (.fatal (.inputExhausted position)) →
      position = ts.length ∧
      ((fresh M (ts ++ us) enabled).after n).stack = ((fresh M ts enabled).after (n + 1)).stack ∧
      ((fresh M (ts ++ us) enabled).after n).cursor = ts.length ∧
      ((fresh M (ts ++ us) enabled).after n).verdict = none := by
  refine ⟨fun n hn => step_append us hn, fun n v hsettles hv => ?_, fun n position hsettles => ?_⟩
  · obtain ⟨hsettles', hrows⟩ := hsettles.append us (hsettles.cursor_lt hv)
    refine ⟨hsettles', _, fun fuel hfuel => ⟨hsettles.runTraced?_eq hfuel, ?_⟩⟩
    rw [hsettles'.runTraced?_eq hfuel, hrows]
  · obtain ⟨hposition, hcursor, hstack⟩ := hsettles.exhausted
    rw [after_append us hsettles.running, hstack]
    exact ⟨hposition, rfl, hcursor, hsettles.running⟩

/-- The tokens b $ are accepted whatever follows them. The token b alone is not enough, and before
    the step that finds out about this there is a b on the stack, with and without the end marker
    behind it. -/
theorem run_append_optionalLetter :
    ((fresh optionalLetter ["b", "$"] true).SettlesAfter 3 .accepted ∧
      (fresh optionalLetter ["b", "$", "b", "b"] true).SettlesAfter 3 .accepted) ∧
    (fresh optionalLetter ["b"] true).SettlesAfter 2 (.fatal (.inputExhausted 1)) ∧
    ((fresh optionalLetter ["b", "$"] true).after 2).stack =
      ((fresh optionalLetter ["b"] true).after 3).stack ∧
    ((fresh optionalLetter ["b", "$"] true).after 2).cursor = 1 := by
  have haccepted : (fresh optionalLetter ["b", "$"] true).SettlesAfter 3 .accepted :=
    ⟨by decide, by decide⟩
  have hexhausted : (fresh optionalLetter ["b"] true).SettlesAfter 2
      (.fatal (.inputExhausted 1)) := ⟨by decide, by decide⟩
  have hmore := (run_append optionalLetter ["b", "$"] ["b", "b"] true).2.1 3 .accepted haccepted
    (by simp)
  have hend := (run_append optionalLetter ["b"] ["$"] true).2.2 2 1 hexhausted
  exact ⟨⟨haccepted, hmore.1⟩, hexhausted, hend.2.1, hend.2.2.1⟩

end Machine

end ShiftReduce
