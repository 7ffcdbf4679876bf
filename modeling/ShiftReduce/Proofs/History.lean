import ShiftReduce.Proofs.Locality
import ShiftReduce.Proofs.PastLabels

/-!
# Stepping, running and recording

A caller can step a machine by hand, run it to its verdict, or run it and keep a history. The three
agree: they come to the same verdict after the same number of steps, and the history shows, line by
line, the machine that the caller would have seen before each step.

Results:
* `Machine.map_fst_runTraced?`: with or without a history, a run comes to the same verdict within
  the same number of steps.
* `Machine.HaltsAfter.run?_eq`: the verdict is found if there are more steps than those that go on.
* `Trace.Records`: a history shows the run of a machine.
* `Machine.run_and_history`: what running and recording come to, from any point that a caller can
  bring a machine to.
-/

namespace ShiftReduce

/-! ## What a history shows -/

namespace Machine

/-- The step of `m` finds an override cell in force. -/
def FindsOverride (m : Machine) : Prop :=
  ∃ token cell, m.lookahead = some token ∧
    m.model.overrideCell? m.useOverrides m.state token = some cell

end Machine

/-- The note at the end of a line about a transition. -/
def Source.note : Source → String
  | .primary => ""
  | .override => " [override]"

/-- The line is about the machine `m` before step number `i`. -/
structure TraceRow.Shows (row : TraceRow) (m : Machine) (i : Nat) : Prop where
  /-- The line has the number of the step. -/
  index : row.index = i
  /-- The state is the one on top of the stack. -/
  state : row.state = m.state
  /-- The token is the one under the cursor, if any. -/
  lookahead : row.lookahead = m.lookahead
  /-- The position is the cursor. -/
  position : row.position = m.cursor
  /-- The stack is shown from bottom to top. -/
  stack : row.stack = m.stack.items

/-- The history shows the run of `m`, of which `n` steps go on and the next one halts with the
    verdict `v`. -/
structure Trace.Records (trace : Trace) (m : Machine) (n : Nat) (v : Verdict) : Prop where
  /-- There is a line for each step that goes on, and one for the step that halts. -/
  size : trace.size = n + 1
  /-- Each line shows the machine before its step. -/
  shows {i : Nat} {row : TraceRow} (hrow : trace.rows[i]? = some row) : row.Shows (m.after i) i
  /-- Lines of steps that go on say what the transition was, with a note if and only if the step
      found an override cell in force. -/
  transition {i : Nat} {row : TraceRow} (hrow : trace.rows[i]? = some row) (hi : i < n) :
    ∃ t, (m.after i).step.2 = .next t ∧ row.action = t.text ∧
      ((m.after i).FindsOverride →
        row.action = (t.relabel fun _ => .primary).text ++ " [override]") ∧
      (¬(m.after i).FindsOverride → row.action = (t.relabel fun _ => .primary).text)
  /-- The line of a shift names the token and the state that the run goes to. -/
  shiftText {i : Nat} {row : TraceRow} {s d : StateId} {X : Symbol} {source : Source}
    (hrow : trace.rows[i]? = some row) (hstep : (m.after i).step.2 = .next (.shift s X d source)) :
    row.action = "shift '" ++ X ++ "', go to state " ++ d.text ++ source.note
  /-- The line of a reduction names the rule, its left side and the state that the run goes to. -/
  reduceText {i : Nat} {row : TraceRow} {s d : StateId} {rule : RuleId} {A : Symbol} {popped : Nat}
    {source : Source} (hrow : trace.rows[i]? = some row)
    (hstep : (m.after i).step.2 = .next (.reduce s rule A popped d source)) :
    row.action =
      "reduce by rule " ++ rule.text ++ " (" ++ A ++ "), go to state " ++ d.text ++ source.note
  /-- The last line says what the verdict was. -/
  last {row : TraceRow} (hrow : trace.rows[n]? = some row) :
    row.action =
      match v with
      | .accepted => "accept"
      | .rejected reason => "reject: " ++ reason.kind
      | .fatal fault => "fatal: " ++ fault.kind
  /-- Positions never decrease. -/
  forward {i j : Nat} {row row' : TraceRow} (hij : i ≤ j) (hrow : trace.rows[i]? = some row)
    (hrow' : trace.rows[j]? = some row') : row.position ≤ row'.position
  /-- After a shift the position is greater by one. -/
  shift {i : Nat} {row row' : TraceRow} {s d : StateId} {X : Symbol} {source : Source}
    (hrow : trace.rows[i]? = some row) (hrow' : trace.rows[i + 1]? = some row')
    (hstep : (m.after i).step.2 = .next (.shift s X d source)) : row'.position = row.position + 1
  /-- After a reduction it is the same. -/
  reduce {i : Nat} {row row' : TraceRow} {s d : StateId} {rule : RuleId} {A : Symbol}
    {popped : Nat} {source : Source} (hrow : trace.rows[i]? = some row)
    (hrow' : trace.rows[i + 1]? = some row')
    (hstep : (m.after i).step.2 = .next (.reduce s rule A popped d source)) :
    row'.position = row.position

/-! ## Texts of transitions -/

/-- The text of a transition ends in a note if it is labelled with the override table. -/
theorem Transition.text_eq (t : Transition) :
    t.text = (t.relabel fun _ => .primary).text ++ t.source.note := by
  cases t with
  | shift s X d source => cases source <;> simp [text, relabel, Transition.source, Source.note]
  | reduce s rule A popped d source =>
    cases source <;> simp [text, relabel, Transition.source, Source.note]

namespace Machine

variable {m m' : Machine} {t : Transition} {v : Verdict} {i n fuel : Nat}

theorem Consults.source_eq_override_iff {token : Symbol} {action : Action} {source : Source}
    (h : m.Consults token action source) : source = .override ↔ m.FindsOverride := by
  have hfound := Model.lookupAction_eq_found_iff.1 h.found
  constructor
  · rintro rfl
    obtain ⟨-, hcell⟩ | ⟨hsource, -⟩ := hfound
    · exact ⟨token, _, h.lookahead, hcell⟩
    · cases hsource
  · rintro ⟨token', cell, htoken', hcell'⟩
    obtain rfl : token = token' := Option.some.inj (h.lookahead.symm.trans htoken')
    obtain ⟨hsource, -⟩ | ⟨-, hnone, -⟩ := hfound
    · exact hsource
    · rw [hnone] at hcell'
      cases hcell'

/-- The label says override if and only if the step finds an override cell in force. -/
theorem Advance.source_eq_override_iff (h : m.Advance m' t) :
    t.source = .override ↔ m.FindsOverride := by
  cases h with
  | shift hconsults => exact hconsults.source_eq_override_iff
  | reduce hconsults => exact hconsults.source_eq_override_iff

/-! ## The same verdict -/

theorem map_fst_traceFrom? (fuel index : Nat) (m : Machine) :
    (traceFrom? fuel index m).map Prod.fst = m.run? fuel := by
  induction fuel generalizing index m with
  | zero => rfl
  | succ fuel ih =>
    rw [traceFrom?, run?]
    rcases m.step with ⟨m', t | v⟩
    · show ((traceFrom? fuel (index + 1) m').map _).map Prod.fst = m'.run? fuel
      rw [← ih (index + 1) m', Option.map_map]
      rfl
    · rfl

/-- With or without a history, a run comes to the same verdict within the same number of steps. -/
theorem map_fst_runTraced? (fuel : Nat) (m : Machine) :
    (m.runTraced? fuel).map Prod.fst = m.run? fuel := by
  rw [runTraced?, Option.map_map]
  exact map_fst_traceFrom? fuel 0 m

theorem HaltsAfter.tail (h : m.HaltsAfter (n + 1) v) : m.step.1.HaltsAfter n v where
  goesOn i hi := by
    rw [← after_succ_left]
    exact h.goesOn (i + 1) (Nat.succ_lt_succ hi)
  halts := by
    rw [← after_succ_left]
    exact h.halts

/-- The verdict is found by the step after those that go on, and not before. -/
theorem HaltsAfter.run?_eq (h : m.HaltsAfter n v) (fuel : Nat) :
    m.run? fuel = if n < fuel then some v else none := by
  induction fuel generalizing m n with
  | zero => rfl
  | succ fuel ih =>
    rw [run?]
    cases n with
    | zero =>
      have hstep : m.step = (m.step.1, .halt v) := Prod.ext rfl h.halts
      rw [hstep, if_pos (Nat.succ_pos fuel)]
    | succ n =>
      obtain ⟨t, ht⟩ := h.goesOn 0 (Nat.succ_pos n)
      have hstep : m.step = (m.step.1, .next t) := Prod.ext rfl ht
      rw [hstep]
      show m.step.1.run? fuel = _
      rw [ih h.tail]
      simp only [Nat.succ_lt_succ_iff]

theorem HaltsAfter.runTraced?_eq_ite (h : m.HaltsAfter n v) (fuel : Nat) :
    m.runTraced? fuel = if n < fuel then some (v, ⟨m.traceRows 0 (n + 1)⟩) else none := by
  split_ifs with hfuel
  · exact h.runTraced?_eq hfuel
  · have hnone := h.run?_eq fuel
    rw [if_neg hfuel, ← map_fst_runTraced?] at hnone
    exact Option.map_eq_none_iff.1 hnone

/-- A verdict that is found is settled by one of the steps that are allowed. -/
theorem exists_settlesAfter_of_run? (hrunning : m.verdict = none) (h : m.run? fuel = some v) :
    ∃ n, n < fuel ∧ m.SettlesAfter n v := by
  rcases runsForever_or_settles hrunning with hforever | ⟨n, v', hsettles⟩
  · rw [(runsForever_iff_run? hrunning).1 hforever fuel] at h
    cases h
  · rw [hsettles.haltsAfter.run?_eq] at h
    split_ifs at h with hn
    cases h
    exact ⟨n, hn, hsettles⟩

/-- A run comes to one verdict only. -/
theorem SettlesAfter.unique {n' : Nat} {v' : Verdict} (h : m.SettlesAfter n v)
    (h' : m.SettlesAfter n' v') : v = v' := by
  have hrun : m.run? (n + n' + 1) = some v := by
    rw [h.haltsAfter.run?_eq, if_pos (by omega)]
  have hrun' : m.run? (n + n' + 1) = some v' := by
    rw [h'.haltsAfter.run?_eq, if_pos (by omega)]
  exact Option.some.inj (hrun.symm.trans hrun')

/-! ## The lines of the history -/

theorem getElem?_traceRows {row : TraceRow} :
    (m.traceRows 0 n)[i]? = some row ↔ i < n ∧ row = (m.after i).traceRow i := by
  rw [traceRows, List.getElem?_map]
  by_cases hi : i < n
  · rw [List.getElem?_range' hi]
    simp [hi, eq_comm]
  · have hnone : (List.range' 0 n)[i]? = none := by
      rw [List.getElem?_eq_none_iff, List.length_range']
      omega
    rw [hnone]
    simp [hi]

/-- A step that goes on either consumes a token or leaves the cursor where it is. -/
theorem Advance.cursor_eq (h : m.Advance m' t) :
    m'.cursor =
      match t with
      | .shift _ _ _ _ => m.cursor + 1
      | .reduce _ _ _ _ _ _ => m.cursor := by
  cases h <;> rfl

theorem action_traceRow_of_next (ht : m.step.2 = .next t) : (m.traceRow i).action = t.text := by
  show m.step.2.label = t.text
  rw [ht]
  rfl

theorem HaltsAfter.records (h : m.HaltsAfter n v) :
    Trace.Records ⟨m.traceRows 0 (n + 1)⟩ m n v where
  size := by
    rw [Trace.size, traceRows, List.length_map, List.length_range']
  shows {i row} hrow := by
    obtain ⟨-, rfl⟩ := getElem?_traceRows.1 hrow
    exact ⟨rfl, rfl, rfl, rfl, rfl⟩
  transition {i row} hrow hi := by
    obtain ⟨-, rfl⟩ := getElem?_traceRows.1 hrow
    obtain ⟨t, ht⟩ := h.goesOn i hi
    have hsource := (advance_after ht).source_eq_override_iff
    have haction : ((m.after i).traceRow i).action = t.text := action_traceRow_of_next ht
    refine ⟨t, ht, haction, fun hfinds => ?_, fun hfinds => ?_⟩
    · rw [haction, t.text_eq, hsource.2 hfinds, Source.note]
    · have hprimary : t.source = .primary := by
        cases ht' : t.source with
        | primary => rfl
        | override => exact absurd (hsource.1 ht') hfinds
      rw [haction, t.text_eq, hprimary]
      exact String.append_empty
  shiftText {i row s d X source} hrow hstep := by
    obtain ⟨-, rfl⟩ := getElem?_traceRows.1 hrow
    rw [action_traceRow_of_next hstep, Transition.text_eq, Transition.source]
    rfl
  reduceText {i row s d rule A popped source} hrow hstep := by
    obtain ⟨-, rfl⟩ := getElem?_traceRows.1 hrow
    rw [action_traceRow_of_next hstep, Transition.text_eq, Transition.source]
    rfl
  last {row} hrow := by
    obtain ⟨-, rfl⟩ := getElem?_traceRows.1 hrow
    show (m.after n).step.2.label = _
    rw [h.halts]
    cases v <;> rfl
  forward {i j row row'} hij hrow hrow' := by
    obtain ⟨-, rfl⟩ := getElem?_traceRows.1 hrow
    obtain ⟨-, rfl⟩ := getElem?_traceRows.1 hrow'
    exact cursor_after_mono m hij
  shift {i row row' s d X source} hrow hrow' hstep := by
    obtain ⟨-, rfl⟩ := getElem?_traceRows.1 hrow
    obtain ⟨-, rfl⟩ := getElem?_traceRows.1 hrow'
    exact (advance_after hstep).cursor_eq
  reduce {i row row' s d rule A popped source} hrow hrow' hstep := by
    obtain ⟨-, rfl⟩ := getElem?_traceRows.1 hrow
    obtain ⟨-, rfl⟩ := getElem?_traceRows.1 hrow'
    exact (advance_after hstep).cursor_eq

/-- **Stepping, running and recording agree.** Let a caller bring a machine to any point by steps
    and switches, and let `n` steps from there go on and the next one halt with the verdict `v`.
    Then a run finds this verdict when it is allowed more than `n` steps, and none when it is not. A
    run with a history finds the same, and the history shows the run. -/
theorem run_and_history (M : Model) (tokens : List Symbol) (ops : List Operation) {n : Nat}
    {v : Verdict} (h : ((start M tokens).session ops).HaltsAfter n v) :
    (∀ fuel, ((start M tokens).session ops).run? fuel = if n < fuel then some v else none) ∧
    ∃ trace, trace.Records ((start M tokens).session ops) n v ∧
      ∀ fuel, ((start M tokens).session ops).runTraced? fuel =
        if n < fuel then some (v, trace) else none :=
  ⟨h.run?_eq, _, h.records, h.runTraced?_eq_ite⟩

/-- In the middle of a run over a b $, with overrides switched off, two more steps go on before the
    input is accepted. A machine that has come to its verdict comes to it again at once. -/
theorem run_and_history_optionalLetter :
    ((start optionalLetter ["a", "b", "$"]).session [.step, .switch false, .step]).HaltsAfter 2
      .accepted ∧
    ((start optionalLetter ["a", "b", "$"]).session [.step, .switch false, .step]).run? 3 =
      some .accepted ∧
    ((start optionalLetter ["b", "b"]).session [.switch false, .step, .switch true]).HaltsAfter 0
      (.rejected (.conflict ⟨"1"⟩ "b")) ∧
    ∃ trace : Trace, trace.size = 1 ∧
      ((start optionalLetter ["b", "b"]).session
        [.switch false, .step, .switch true]).runTraced? 1 =
          some (.rejected (.conflict ⟨"1"⟩ "b"), trace) := by
  have hmiddle : ((start optionalLetter ["a", "b", "$"]).session
      [.step, .switch false, .step]).HaltsAfter 2 .accepted := by
    refine ⟨fun i hi => ?_, by decide⟩
    match i, hi with
    | 0, _ => exact ⟨.shift ⟨"3"⟩ "b" ⟨"4"⟩ .primary, by decide⟩
    | 1, _ => exact ⟨.reduce ⟨"4"⟩ ⟨"1"⟩ "S" 4 ⟨"5"⟩ .primary, by decide⟩
  have hhalted : ((start optionalLetter ["b", "b"]).session
      [.switch false, .step, .switch true]).HaltsAfter 0 (.rejected (.conflict ⟨"1"⟩ "b")) :=
    ⟨fun i hi => absurd hi (Nat.not_lt_zero i), by decide⟩
  obtain ⟨hrun, -⟩ := run_and_history optionalLetter _ _ hmiddle
  obtain ⟨-, trace, hrecords, htraced⟩ := run_and_history optionalLetter _ _ hhalted
  exact ⟨hmiddle, hrun 3, hhalted, trace, hrecords.size, htraced 1⟩

end Machine

end ShiftReduce
