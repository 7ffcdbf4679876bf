import ShiftReduce.Proofs.EndMarker
import ShiftReduce.Proofs.Halting

/-!
# Inputs that are never read to their end

If no action consumes the end marker, a run over tokens with the end marker behind them cannot get
past it. It always has a token under the cursor, and so it is never exhausted. An end marker among
the other tokens, a conflict that has a shift of it among its candidates and shifts of other symbols
that serve as transitions after reductions do not matter.

* `Model.NeverShifts`: no action consumes a symbol.
* `Verdict.Within`: a verdict that speaks of places inside the input only.
* `Machine.StaysInside`: what holds of a machine that a caller has brought to any point.

Results:
* `Machine.Advance.cursor_lt`: no step goes past the end marker.
* `Machine.Stop.within`: a step that has a token under the cursor settles a verdict of this kind.
* `Machine.end_marker_is_not_passed`: both for all that a caller can do.
-/

namespace ShiftReduce

/-! ## Columns without shifts -/

namespace Model

/-- Single actions in the column of `X`, in either table, do not consume the token. -/
def NeverShifts (M : Model) (X : Symbol) : Prop :=
  ∀ s action, M.Offers s X action → action.shiftTarget? = none

theorem neverShifts_iff {M : Model} {X : Symbol} :
    M.NeverShifts X ↔ ∀ e ∈ M.actions, e.1.symbol = X → e.2.shiftTarget? = none := by
  constructor
  · rintro h ⟨⟨s, t⟩, a⟩ he rfl
    exact h s a (mem_actions.1 he)
  · intro h s a hoffers
    exact h (⟨s, X⟩, a) (mem_actions.2 hoffers) rfl

instance {M : Model} {X : Symbol} : Decidable (M.NeverShifts X) :=
  decidable_of_iff _ neverShifts_iff.symm

end Model

theorem getLast?_tokenize (input : String) (endMarker : Symbol) :
    (tokenize input endMarker).getLast? = some endMarker :=
  List.getLast?_concat

/-- The verdict is not that `tokens` ran out, and the position of a syntax error is that of the
    token that it names. -/
structure Verdict.Within (v : Verdict) (tokens : List Symbol) : Prop where
  /-- The tokens did not run out. -/
  notExhausted (position : Nat) : v ≠ .fatal (.inputExhausted position)
  /-- The token of a syntax error is at its position. -/
  position {state : StateId} {token : Symbol} {position : Nat}
    (h : v = .rejected (.syntaxError state token position)) : tokens[position]? = some token

namespace Machine

variable {m m' : Machine} {M : Model} {tokens : List Symbol} {X : Symbol}

/-! ## Single steps -/

/-- The end marker is not consumed, so the cursor does not get behind it. -/
theorem Advance.cursor_lt {t : Transition} (h : m.Advance m' t) (hcolumn : m.model.NeverShifts X)
    (hend : m.tokens.getLast? = some X) (hlt : m.cursor < m.tokens.length) :
    m'.cursor < m'.tokens.length := by
  cases h with
  | reduce => exact hlt
  | @shift token action source destination hconsults htarget =>
    show m.cursor + 1 < m.tokens.length
    by_contra hpast
    -- the token that is consumed would be the last one
    have hlast : m.tokens.length - 1 = m.cursor := by omega
    have htoken : token = X := by
      have hlookahead : m.tokens[m.cursor]? = some token := hconsults.lookahead
      rw [List.getLast?_eq_getElem?, hlast, hlookahead] at hend
      exact Option.some.inj hend
    subst htoken
    have hnone := hcolumn _ _ (Model.offers_of_lookupAction hconsults.found)
    rw [htarget] at hnone
    cases hnone

theorem Stop.within {s : Stack} {v : Verdict} (h : m.Stop s v)
    (hlt : m.cursor < m.tokens.length) : v.Within m.tokens := by
  have hlookahead : m.lookahead ≠ none := by
    rw [lookahead, Ne, List.getElem?_eq_none_iff]
    omega
  constructor
  · rintro position rfl
    cases h with
    | inputExhausted _ hnone => exact hlookahead hnone
  · rintro state token position rfl
    cases h with
    | syntaxError _ htoken => exact htoken

/-! ## Whole sessions -/

/-- A machine that was started over `tokens` is inside of them after `ops`, and so is all that it
    says. -/
structure StaysInside (M : Model) (tokens : List Symbol) (ops : List Operation) : Prop where
  /-- The cursor is not behind the last token. -/
  cursor : ((start M tokens).session ops).cursor < tokens.length
  /-- There is a token under the cursor. -/
  lookahead : ∃ token, ((start M tokens).session ops).lookahead = some token
  /-- The verdicts on the way are about places inside the input. -/
  outcomes {v : Verdict} (h : .halt v ∈ (start M tokens).outcomes ops) : v.Within tokens
  /-- So is the verdict that the machine has, if it has one. -/
  verdict {v : Verdict} (h : ((start M tokens).session ops).verdict = some v) : v.Within tokens
  /-- So is the verdict that a run from here on comes to. -/
  run {fuel : Nat} {v : Verdict} (h : ((start M tokens).session ops).run? fuel = some v) :
    v.Within tokens

theorem cursor_session_lt (hcolumn : M.NeverShifts X) (hend : tokens.getLast? = some X)
    (ops : List Operation) : ((start M tokens).session ops).cursor < tokens.length := by
  have hpos : 0 < tokens.length := by
    rw [List.length_pos_iff]
    rintro rfl
    cases hend
  obtain ⟨hrun, hlt⟩ := session_invariant
    (P := fun m => m.IsRunOf M tokens ∧ m.cursor < m.tokens.length)
    (fun m m' t ⟨hrun, hlt⟩ h =>
      ⟨h.isRunOf hrun, h.cursor_lt (hrun.model ▸ hcolumn) (hrun.tokens ▸ hend) hlt⟩)
    (fun m s v hm _ => ⟨⟨hm.1.model, hm.1.tokens⟩, hm.2⟩)
    (fun m enabled hm => ⟨⟨hm.1.model, hm.1.tokens⟩, hm.2⟩)
    ⟨isRunOf_start M tokens, hpos⟩ ops
  rwa [hrun.tokens] at hlt

theorem staysInside (hcolumn : M.NeverShifts X) (hend : tokens.getLast? = some X)
    (ops : List Operation) : StaysInside M tokens ops := by
  have hstop : ∀ {ops : List Operation} {s : Stack} {v : Verdict},
      ((start M tokens).session ops).Stop s v → v.Within tokens := by
    intro ops s v h
    have hrun := isRunOf_session M tokens ops
    have hwithin := h.within (hrun.tokens.symm ▸ cursor_session_lt hcolumn hend ops)
    rwa [hrun.tokens] at hwithin
  have houtcomes : ∀ {ops : List Operation} {v : Verdict},
      .halt v ∈ (start M tokens).outcomes ops → v.Within tokens := by
    intro ops v h
    obtain ⟨done, s, -, h⟩ := exists_stop_of_halt rfl h
    exact hstop h
  constructor
  · exact cursor_session_lt hcolumn hend ops
  · have hlookahead := List.getElem?_eq_getElem (cursor_session_lt hcolumn hend ops)
    refine ⟨_, Eq.trans ?_ hlookahead⟩
    rw [lookahead, (isRunOf_session M tokens ops).tokens]
  · exact houtcomes
  · intro v h
    obtain ⟨done, s, -, h⟩ := exists_stop_of_verdict rfl h
    exact hstop h
  · intro fuel v h
    obtain ⟨n, hn⟩ := exists_halt_of_run? h
    have hlast : .halt v ∈
        (start M tokens).outcomes (ops ++ List.replicate n .step ++ [.step]) := by
      refine mem_outcomes_iff.2 ⟨ops ++ List.replicate n .step, [], rfl, ?_⟩
      rw [session_append, ← after_eq_session, hn]
    exact houtcomes hlast

/-- **The end marker is not passed.** Let no action consume the end marker. Whatever steps and
    switches a caller makes over tokens that end in it, there is a token under the cursor. No
    verdict says that the tokens ran out, and a syntax error is where the token is that it names.
    The words of an input with the end marker behind them are such tokens. -/
theorem end_marker_is_not_passed (M : Model) {endMarker : Symbol}
    (hcolumn : M.NeverShifts endMarker) (ops : List Operation) :
    (∀ tokens, tokens.getLast? = some endMarker → StaysInside M tokens ops) ∧
    ∀ input, StaysInside M (tokenize input endMarker) ops :=
  ⟨fun _ hend => staysInside hcolumn hend ops,
    fun input => staysInside hcolumn (getLast?_tokenize input endMarker) ops⟩

/-- `optionalLetter` with a conflict at the end marker, of which one candidate is to consume it. -/
def contestedEnd : Model :=
  { optionalLetter with
    table := optionalLetter.table.insertConflict ⟨"2"⟩ "$" [.shift ⟨"4"⟩, .reduce ⟨"2"⟩] }

/-- Over a $ b $ the conflict is met at the first end marker. Over a b $ b $ that end marker is
    under the cursor after a reduction for which a shift of S serves as transition. Over a b b $
    there is a syntax error at the second b. -/
theorem end_marker_is_not_passed_contestedEnd :
    contestedEnd.NeverShifts "$" ∧ ["a", "$", "b", "$"].getLast? = some "$" ∧
    ((start contestedEnd ["a", "$", "b", "$"]).session
      [.step, .switch false, .step, .step]).cursor < 4 ∧
    ((start contestedEnd ["a", "$", "b", "$"]).session [.step, .switch false, .step]).verdict =
      some (.rejected (.conflict ⟨"2"⟩ "$")) ∧
    ((start contestedEnd (tokenize "a b $ b" "$")).session
      [.step, .step, .step, .step]).lookahead = some "$" ∧
    .halt (.rejected (.syntaxError ⟨"4"⟩ "b" 2)) ∈
      (start contestedEnd (tokenize "a b b" "$")).outcomes [.step, .step, .step, .step] ∧
    (tokenize "a b b" "$")[2]? = some "b" := by
  have hcolumn : contestedEnd.NeverShifts "$" := by decide
  have hend : ["a", "$", "b", "$"].getLast? = some "$" := by decide
  have hsyntax : Step.halt (.rejected (.syntaxError ⟨"4"⟩ "b" 2)) ∈
      (start contestedEnd (tokenize "a b b" "$")).outcomes [.step, .step, .step, .step] := by decide
  obtain ⟨hlist, -⟩ := end_marker_is_not_passed contestedEnd hcolumn
    [.step, .switch false, .step, .step]
  obtain ⟨-, hwords⟩ := end_marker_is_not_passed contestedEnd hcolumn [.step, .step, .step, .step]
  exact ⟨hcolumn, hend, (hlist _ hend).cursor, by decide, by decide, hsyntax,
    ((hwords "a b b").outcomes hsyntax).position rfl⟩

end Machine

end ShiftReduce
