import ShiftReduce.Proofs.Run

/-!
# The mark of progress

The tokens are shown with a mark in front of the one under the cursor, or behind it when the next
step accepts. Where the mark goes is found out by a look-up of its own, which does not ask for the
verdict. It comes to the same as the next step, unless a transition was missing: then the stack is
not the one that the verdict was settled on, and the state that is left on top may accept.

* `Machine.markIndex`: where the mark belongs, judged by the next step.
* `Machine.LostBeforeAccept`: the one way in which the mark goes astray.

Results:
* `Machine.acceptsNext_iff_step`: while there is no verdict, the look-up and the step agree.
* `Machine.acceptsNext_after_iff`: with a verdict they still do, unless a transition was missing.
* `Machine.progress_marks_next_action`: where the mark is at each point of a run.
-/

namespace ShiftReduce

/-! ## Marks -/

/-- An item that is put into a list stands between the items in front of it and the others. -/
theorem insertIdx_eq_take_append_drop {α : Type} (item : α) (items : List α) {i : Nat}
    (hi : i ≤ items.length) : items.insertIdx i item = items.take i ++ item :: items.drop i := by
  induction items generalizing i with
  | nil =>
    obtain rfl : i = 0 := by simpa using hi
    rfl
  | cons head rest ih =>
    cases i with
    | zero => rfl
    | succ i =>
      rw [List.insertIdx_succ_cons, ih (by simpa using hi)]
      rfl

/-- The tokens with a mark in front of token number `i`. -/
def marked (tokens : List Symbol) (i : Nat) : String := " ".intercalate (tokens.insertIdx i "•")

namespace Machine

/-- Where the mark belongs: behind the token under the cursor if the next step accepts, and in
    front of it otherwise. -/
def markIndex (m : Machine) : Nat := if m.step.2 = .halt .accepted then m.cursor + 1 else m.cursor

/-- The run has ended for want of a transition, and the state that is left on top accepts the token
    under the cursor. -/
structure LostBeforeAccept (m : Machine) : Prop where
  /-- The verdict is that a transition is missing. -/
  lost : ∃ state symbol, m.verdict = some (.fatal (.missingGoto state symbol))
  /-- There is an acceptance in force where the run would go on. -/
  accepts : ∃ token source, m.lookahead = some token ∧
    m.model.lookupAction m.state token m.useOverrides = .found .accept source

variable {m : Machine} {s : Stack} {v : Verdict}

/-! ## The look-up and the step -/

theorem acceptsNext_iff : m.acceptsNext = true ↔ ∃ token source, m.lookahead = some token ∧
    m.model.lookupAction m.state token m.useOverrides = .found .accept source := by
  rw [acceptsNext]
  cases m.lookahead with
  | none => simp
  | some token =>
    simp only [Option.some.injEq, exists_and_left, exists_eq_left']
    split
    · rename_i source hfound
      exact iff_of_true rfl ⟨source, hfound⟩
    · rename_i hother
      apply iff_of_false Bool.false_ne_true
      rintro ⟨source, hfound⟩
      exact hother source hfound

/-- While there is no verdict, the look-up finds an acceptance when the step accepts. -/
theorem acceptsNext_iff_step (hrunning : m.verdict = none) :
    m.acceptsNext = true ↔ m.step.2 = .halt .accepted := by
  rw [acceptsNext_iff]
  constructor
  · rintro ⟨token, source, htoken, hfound⟩
    have hstop : m.Stop m.stack .accepted := .accept ⟨hrunning, htoken, hfound⟩
    rw [hstop.step_eq]
  · intro hstep
    obtain ⟨s, hstop, -⟩ := (step_eq_halt_iff hrunning).1 (Prod.ext rfl hstep)
    cases hstop with
    | accept hconsults => exact ⟨_, _, hconsults.lookahead, hconsults.found⟩

/-- The step that settles a verdict leaves the look-up as it was, unless a transition is missing. -/
theorem Stop.acceptsNext_iff (h : m.Stop s v)
    (hv : ∀ state symbol, v ≠ .fatal (.missingGoto state symbol)) :
    { m with stack := s, verdict := some v }.acceptsNext = true ↔ v = .accepted := by
  obtain rfl : s = m.stack := h.stack_eq hv
  show m.acceptsNext = true ↔ _
  rw [acceptsNext_iff_step h.running, h.step_eq]
  exact ⟨fun h => by cases h; rfl, fun h => by rw [h]⟩

/-- In a run, the look-up finds an acceptance when the next step accepts, be it for the first time
    or once more, unless a transition was missing. -/
theorem acceptsNext_after_iff (hrunning : m.verdict = none) {n : Nat}
    (hv : ∀ state symbol, (m.after n).verdict ≠ some (.fatal (.missingGoto state symbol))) :
    (m.after n).acceptsNext = true ↔ (m.after n).step.2 = .halt .accepted := by
  have hsettled : ∀ v, (m.after n).verdict = some v →
      (∀ state symbol, v ≠ .fatal (.missingGoto state symbol)) →
      ((m.after n).acceptsNext = true ↔ v = .accepted) := by
    refine after_invariant (m := m) (P := fun m => ∀ v, m.verdict = some v →
      (∀ state symbol, v ≠ .fatal (.missingGoto state symbol)) →
      (m.acceptsNext = true ↔ v = .accepted)) ?_ ?_ ?_ n
    · intro m m' t _ hadvance v hverdict
      rw [hadvance.running_after] at hverdict
      cases hverdict
    · intro m s v _ hstop v' hverdict hv'
      cases hverdict
      exact hstop.acceptsNext_iff hv'
    · intro v hverdict
      rw [hrunning] at hverdict
      cases hverdict
  cases hverdict : (m.after n).verdict with
  | none => exact acceptsNext_iff_step hverdict
  | some v =>
    have hlost : ∀ state symbol, v ≠ .fatal (.missingGoto state symbol) := by
      intro state symbol heq
      exact hv state symbol (heq ▸ hverdict)
    rw [hsettled v hverdict hlost, step_of_settled hverdict]
    exact ⟨fun h => by rw [h], fun h => by cases h; rfl⟩

/-! ## Where the mark is -/

theorem progress_eq_marked {tokens : List Symbol} {i : Nat} (htokens : m.tokens = tokens)
    (hi : i ≤ tokens.length) (hmark : (if m.acceptsNext then m.cursor + 1 else m.cursor) = i) :
    m.progress = marked tokens i := by
  subst htokens hmark
  rw [marked, insertIdx_eq_take_append_drop _ _ hi]
  rfl

/-- If the look-up finds an acceptance, there is a token behind which the mark can go. -/
theorem cursor_lt_of_acceptsNext (h : m.acceptsNext = true) : m.cursor < m.tokens.length := by
  obtain ⟨token, -, htoken, -⟩ := acceptsNext_iff.1 h
  exact (List.getElem?_eq_some_iff.1 htoken).1

/-- **The mark shows what is next.** At each point of a run, with overrides in force or not, the
    cursor is within the tokens and the mark is shown among them where it belongs: behind the token
    under the cursor if the next step accepts, and in front of it otherwise. There is one exception.
    When the run has ended because a transition was missing, and the state that is left on top
    accepts the token under the cursor, then the mark belongs in front of this token and is shown
    behind it. -/
theorem progress_marks_next_action (M : Model) (tokens : List Symbol) (enabled : Bool) (n : Nat) :
    ((fresh M tokens enabled).after n).cursor ≤ tokens.length ∧
    ((fresh M tokens enabled).after n).markIndex ≤ tokens.length ∧
    (¬((fresh M tokens enabled).after n).LostBeforeAccept →
      ((fresh M tokens enabled).after n).progress =
        marked tokens ((fresh M tokens enabled).after n).markIndex) ∧
    (((fresh M tokens enabled).after n).LostBeforeAccept →
      ((fresh M tokens enabled).after n).markIndex = ((fresh M tokens enabled).after n).cursor ∧
      ((fresh M tokens enabled).after n).progress =
        marked tokens (((fresh M tokens enabled).after n).cursor + 1)) := by
  have hrunning : (fresh M tokens enabled).verdict = none := rfl
  have hagrees := @acceptsNext_after_iff _ hrunning n
  have hcursor := cursor_after_fresh_le M tokens enabled n
  have htokens : ((fresh M tokens enabled).after n).tokens = tokens := tokens_after _ n
  generalize (fresh M tokens enabled).after n = m at hagrees hcursor htokens
  by_cases hlost : ∃ state symbol, m.verdict = some (.fatal (.missingGoto state symbol))
  · -- the next step says again that a transition is missing
    obtain ⟨state, symbol, hverdict⟩ := hlost
    have hindex : m.markIndex = m.cursor := by
      rw [markIndex, step_of_settled hverdict]
      exact if_neg (by simp)
    rw [hindex]
    refine ⟨hcursor, hcursor, fun hnot => ?_, fun h => ⟨rfl, ?_⟩⟩
    · apply progress_eq_marked htokens hcursor
      apply if_neg
      intro haccepts
      exact hnot ⟨⟨state, symbol, hverdict⟩, acceptsNext_iff.1 haccepts⟩
    · have haccepts : m.acceptsNext = true := acceptsNext_iff.2 h.accepts
      have hlt := cursor_lt_of_acceptsNext haccepts
      rw [htokens] at hlt
      exact progress_eq_marked htokens hlt (if_pos haccepts)
  · have hiff := hagrees fun state symbol hverdict => hlost ⟨state, symbol, hverdict⟩
    have hindex : (if m.acceptsNext then m.cursor + 1 else m.cursor) = m.markIndex := by
      rw [markIndex]
      simp only [hiff]
    have hle : m.markIndex ≤ tokens.length := by
      rw [← hindex, ← htokens]
      split
      · rename_i haccepts
        exact cursor_lt_of_acceptsNext haccepts
      · rw [htokens]
        exact hcursor
    exact ⟨hcursor, hle, fun _ => progress_eq_marked htokens hle hindex,
      fun h => absurd h.lost hlost⟩

/-- A model of one production, in which the start state accepts the end marker and has no transition
    on the left side of the production. -/
def acceptsNothing : Model where
  table := Table.ofCells [
    (⟨⟨"1"⟩, "a"⟩, .single (.shift ⟨"2"⟩)),
    (⟨⟨"1"⟩, "$"⟩, .single .accept),
    (⟨⟨"2"⟩, "$"⟩, .single (.reduce ⟨"0"⟩))]
  productions := SortedMap.ofList [(⟨"0"⟩, ⟨"S", ["a"]⟩)]

/-- Over $ the mark goes behind the end marker when the input is accepted. Over a $ it goes there as
    well, though the run has ended for want of a transition. -/
theorem progress_marks_next_action_acceptsNothing :
    ¬((fresh acceptsNothing ["$"] false).after 1).LostBeforeAccept ∧
    ((fresh acceptsNothing ["$"] false).after 1).markIndex = 1 ∧
    ((fresh acceptsNothing ["$"] false).after 1).progress = marked ["$"] 1 ∧
    ((fresh acceptsNothing ["a", "$"] true).after 3).LostBeforeAccept ∧
    ((fresh acceptsNothing ["a", "$"] true).after 3).markIndex = 1 ∧
    ((fresh acceptsNothing ["a", "$"] true).after 3).progress = marked ["a", "$"] 2 := by
  have haccepted : ((fresh acceptsNothing ["$"] false).after 1).verdict = some .accepted := by
    decide
  have hfound : ¬((fresh acceptsNothing ["$"] false).after 1).LostBeforeAccept := by
    rintro ⟨⟨state, symbol, hlost⟩, -⟩
    rw [haccepted] at hlost
    cases hlost
  have hlost : ((fresh acceptsNothing ["a", "$"] true).after 3).LostBeforeAccept :=
    ⟨⟨⟨"1"⟩, "S", by decide⟩, ⟨"$", .primary, by decide, by decide⟩⟩
  have hcursor : ((fresh acceptsNothing ["a", "$"] true).after 3).cursor = 1 := by decide
  have hindex : ((fresh acceptsNothing ["$"] false).after 1).markIndex = 1 := by decide
  obtain ⟨-, -, hmark, -⟩ := progress_marks_next_action acceptsNothing ["$"] false 1
  obtain ⟨-, -, -, hastray⟩ := progress_marks_next_action acceptsNothing ["a", "$"] true 3
  refine ⟨hfound, hindex, ?_, hlost, (hastray hlost).1.trans hcursor, ?_⟩
  · rw [hmark hfound, hindex]
  · rw [(hastray hlost).2, hcursor]

/-- Over a $ each step after the reduction says that a transition is missing, and the mark, which
    belongs in front of the end marker, is shown behind it. -/
theorem mark_behind_lost_transition :
    ((fresh acceptsNothing ["a", "$"] true).after 2).step.2 =
      .halt (.fatal (.missingGoto ⟨"1"⟩ "S")) ∧
    ((fresh acceptsNothing ["a", "$"] true).after 2).cursor = 1 ∧
    ((fresh acceptsNothing ["a", "$"] true).after 2).progress = "a $ •" ∧
    ((fresh acceptsNothing ["a", "$"] true).after 2).progress ≠
      marked ["a", "$"] ((fresh acceptsNothing ["a", "$"] true).after 2).markIndex := by
  refine ⟨by decide, by decide, by decide, by decide⟩

end Machine

end ShiftReduce
