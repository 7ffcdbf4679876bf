import ShiftReduce.Proofs.Session
import ShiftReduce.Trace

/-!
# Runs

A run steps a machine over and over and leaves the override setting as it is. Either every step of
it goes on, or it is settled by the step after some number of steps that went on.

Results:
* `Machine.after_eq_session`: a run is a session, so that what holds throughout a session holds of
  a run.
* `Machine.runsForever_iff`: a run goes on for ever if no verdict is ever settled.
* `Machine.runsForever_or_settles`: there is no third way.
* `Machine.runsForever_iff_run?`: a run goes on for ever if no number of steps is enough to find a
  verdict.
* `Machine.HaltsAfter.runTraced?_eq`: the history of a run that halts shows the machine before each
  of its steps.
-/

namespace ShiftReduce

namespace Machine

/-! ## Machines along a run -/

/-- The machine before its first step, with overrides switched on or off for the whole run. -/
def fresh (M : Model) (tokens : List Symbol) (enabled : Bool) : Machine :=
  (start M tokens).setOverrides enabled

/-- The machine after a number of steps. -/
def after (m : Machine) : Nat → Machine
  | 0 => m
  | n + 1 => (m.after n).step.1

variable {m m' : Machine} {t : Transition} {v : Verdict} {i j n : Nat}

@[simp] theorem after_zero (m : Machine) : m.after 0 = m := rfl

theorem after_succ (m : Machine) (n : Nat) : m.after (n + 1) = (m.after n).step.1 := rfl

theorem after_add (m : Machine) (i n : Nat) : m.after (i + n) = (m.after i).after n := by
  induction n with
  | zero => rfl
  | succ n ih => rw [← Nat.add_assoc, after_succ, ih, after_succ]

theorem after_succ_left (m : Machine) (n : Nat) : m.after (n + 1) = m.step.1.after n := by
  rw [Nat.add_comm, after_add]
  rfl

/-- A run is a session that consists of steps. -/
theorem after_eq_session (m : Machine) (n : Nat) :
    m.after n = m.session (List.replicate n .step) := by
  induction n with
  | zero => rfl
  | succ n ih => rw [after_succ, ih, List.replicate_succ', session_append]; rfl

theorem after_fresh (M : Model) (tokens : List Symbol) (enabled : Bool) (n : Nat) :
    (fresh M tokens enabled).after n =
      (start M tokens).session (.switch enabled :: List.replicate n .step) :=
  after_eq_session _ n

/-! ## What a run leaves alone -/

/-- What every way to step preserves holds throughout a run. -/
theorem after_invariant {P : Machine → Prop} (hadvance : ∀ m m' t, P m → m.Advance m' t → P m')
    (hstop : ∀ m s v, P m → m.Stop s v → P { m with stack := s, verdict := some v }) (h : P m)
    (n : Nat) : P (m.after n) := by
  induction n with
  | zero => exact h
  | succ n ih => exact step_invariant hadvance hstop ih

/-- The model, the tokens and the override setting stay as they are. -/
theorem after_keeps (m : Machine) (n : Nat) :
    (m.after n).model = m.model ∧ (m.after n).tokens = m.tokens ∧
      (m.after n).useOverrides = m.useOverrides := by
  refine after_invariant (P := fun m' => m'.model = m.model ∧ m'.tokens = m.tokens ∧
    m'.useOverrides = m.useOverrides) ?_ ?_ ⟨rfl, rfl, rfl⟩ n
  · intro m₁ m₂ t hm h
    cases h <;> exact hm
  · exact fun m₁ s v hm _ => hm

@[simp] theorem model_after (m : Machine) (n : Nat) : (m.after n).model = m.model :=
  (after_keeps m n).1

@[simp] theorem tokens_after (m : Machine) (n : Nat) : (m.after n).tokens = m.tokens :=
  (after_keeps m n).2.1

@[simp] theorem useOverrides_after (m : Machine) (n : Nat) :
    (m.after n).useOverrides = m.useOverrides :=
  (after_keeps m n).2.2

theorem Advance.cursor_le (h : m.Advance m' t) : m.cursor ≤ m'.cursor := by
  cases h with
  | shift => exact Nat.le_succ m.cursor
  | reduce => exact Nat.le_refl m.cursor

/-- The cursor never goes back. -/
theorem cursor_le_after (m : Machine) (n : Nat) : m.cursor ≤ (m.after n).cursor :=
  after_invariant (P := fun m' => m.cursor ≤ m'.cursor)
    (fun _ _ _ hm h => Nat.le_trans hm h.cursor_le) (fun _ _ _ hm _ => hm) (Nat.le_refl _) n

theorem cursor_after_mono (m : Machine) (hij : i ≤ j) :
    (m.after i).cursor ≤ (m.after j).cursor := by
  obtain ⟨n, rfl⟩ := Nat.exists_eq_add_of_le hij
  rw [after_add]
  exact cursor_le_after _ n

theorem cursor_after_fresh_le (M : Model) (tokens : List Symbol) (enabled : Bool) (n : Nat) :
    ((fresh M tokens enabled).after n).cursor ≤ tokens.length := by
  rw [after_fresh]
  exact cursor_session_le M tokens _

/-! ## How a run goes on and how it is settled -/

/-- Every step of the run goes on. -/
def RunsForever (m : Machine) : Prop := ∀ n, ∃ t, (m.after n).step.2 = .next t

/-- The first `n` steps go on, and the next step settles the verdict `v`. -/
structure SettlesAfter (m : Machine) (n : Nat) (v : Verdict) : Prop where
  /-- No verdict is settled by the first steps. -/
  running : (m.after n).verdict = none
  /-- The next step settles it. -/
  halts : (m.after n).step.2 = .halt v

theorem advance_after (h : (m.after n).step.2 = .next t) :
    (m.after n).Advance (m.after (n + 1)) t :=
  step_eq_next_iff.1 (Prod.ext rfl h)

theorem after_of_settled (h : m.verdict = some v) (n : Nat) : m.after n = m := by
  induction n with
  | zero => rfl
  | succ n ih => rw [after_succ, ih, step_of_settled h]

/-- A verdict stays, so there is none before a point at which there is none. -/
theorem running_of_le (hij : i ≤ j) (h : (m.after j).verdict = none) :
    (m.after i).verdict = none := by
  obtain ⟨n, rfl⟩ := Nat.exists_eq_add_of_le hij
  cases hverdict : (m.after i).verdict with
  | none => rfl
  | some v =>
    rw [after_add, after_of_settled hverdict, hverdict] at h
    cases h

theorem running_after_succ_iff :
    (m.after (n + 1)).verdict = none ↔ ∃ t, (m.after n).step.2 = .next t := by
  constructor
  · intro h
    have hrunning : (m.after n).verdict = none := running_of_le (Nat.le_succ n) h
    rcases advance_or_stop hrunning with ⟨m', t, hadvance⟩ | ⟨s, v, hstop⟩
    · exact ⟨t, by rw [hadvance.step_eq]⟩
    · rw [after_succ, hstop.step_eq] at h
      cases h
  · rintro ⟨t, ht⟩
    exact (advance_after ht).running_after

theorem runsForever_iff : m.RunsForever ↔ ∀ n, (m.after n).verdict = none := by
  constructor
  · intro h n
    exact running_of_le (Nat.le_succ n) (running_after_succ_iff.2 (h n))
  · intro h n
    exact running_after_succ_iff.1 (h (n + 1))

/-- If there is no verdict however far one goes, there is none at all. -/
theorem runsForever_of_unbounded (h : ∀ n, ∃ j, n ≤ j ∧ (m.after j).verdict = none) :
    m.RunsForever := by
  refine runsForever_iff.2 fun n => ?_
  obtain ⟨j, hnj, hj⟩ := h n
  exact running_of_le hnj hj

/-- A run goes on for ever or is settled by some step. -/
theorem runsForever_or_settles (hrunning : m.verdict = none) :
    m.RunsForever ∨ ∃ n v, m.SettlesAfter n v := by
  by_cases hsettles : ∃ n v, m.SettlesAfter n v
  · exact .inr hsettles
  · refine .inl (runsForever_iff.2 fun n => ?_)
    induction n with
    | zero => exact hrunning
    | succ n ih =>
      cases hstep : (m.after n).step.2 with
      | next t => exact running_after_succ_iff.2 ⟨t, hstep⟩
      | halt v => exact absurd ⟨n, v, ih, hstep⟩ hsettles

/-! ## Verdicts within a number of steps -/

/-- No verdict is found within a number of steps if none is settled by these steps. -/
theorem run?_eq_none_iff (hrunning : m.verdict = none) (fuel : Nat) :
    m.run? fuel = none ↔ (m.after fuel).verdict = none := by
  induction fuel generalizing m with
  | zero => exact iff_of_true rfl hrunning
  | succ fuel ih =>
    rw [after_succ_left]
    rcases advance_or_stop hrunning with ⟨m', t, hadvance⟩ | ⟨s, v, hstop⟩
    · rw [run?, hadvance.step_eq]
      exact ih hadvance.running_after
    · rw [run?, hstop.step_eq, after_of_settled rfl]

/-- A verdict that is found is said by some step of the run. -/
theorem exists_halt_of_run? {fuel : Nat} {v : Verdict} (h : m.run? fuel = some v) :
    ∃ n, (m.after n).step.2 = .halt v := by
  induction fuel generalizing m with
  | zero => cases h
  | succ fuel ih =>
    rw [run?] at h
    rcases hstep : m.step with ⟨m', t | v'⟩
    · rw [hstep] at h
      obtain ⟨n, hn⟩ := ih h
      refine ⟨n + 1, ?_⟩
      rw [after_succ_left, hstep]
      exact hn
    · rw [hstep] at h
      cases h
      exact ⟨0, by rw [after_zero, hstep]⟩

/-- A run goes on for ever if no number of steps is enough to find a verdict. -/
theorem runsForever_iff_run? (hrunning : m.verdict = none) :
    m.RunsForever ↔ ∀ fuel, m.run? fuel = none := by
  rw [runsForever_iff]
  exact forall_congr' fun n => (run?_eq_none_iff hrunning n).symm

/-! ## Histories of runs that halt -/

/-- The first `n` steps go on, and the next step halts with the verdict `v`. A machine that has its
    verdict already halts after no step. -/
structure HaltsAfter (m : Machine) (n : Nat) (v : Verdict) : Prop where
  /-- The first steps go on. -/
  goesOn : ∀ i, i < n → ∃ t, (m.after i).step.2 = .next t
  /-- The next step halts. -/
  halts : (m.after n).step.2 = .halt v

theorem SettlesAfter.haltsAfter (h : m.SettlesAfter n v) : m.HaltsAfter n v where
  goesOn _ hi := running_after_succ_iff.1 (running_of_le (Nat.succ_le_of_lt hi) h.running)
  halts := h.halts

/-- The lines number `first, first + 1, ..` of the history, `count` of them. -/
def traceRows (m : Machine) (first count : Nat) : List TraceRow :=
  (List.range' first count).map fun k => (m.after k).traceRow k

theorem HaltsAfter.traceFrom?_eq (h : m.HaltsAfter n v) (hin : i ≤ n) {fuel : Nat}
    (hfuel : n < i + fuel) :
    traceFrom? fuel i (m.after i) = some (v, m.traceRows i (n + 1 - i)) := by
  induction fuel generalizing i with
  | zero => omega
  | succ fuel ih =>
    rcases Nat.lt_or_eq_of_le hin with hlt | rfl
    · -- the step goes on, and the lines after the first one are those of the rest of the run
      obtain ⟨t, ht⟩ := h.goesOn i hlt
      have hstep : (m.after i).step = (m.after (i + 1), .next t) := Prod.ext rfl ht
      have hcount : n + 1 - i = (n + 1 - (i + 1)) + 1 := by omega
      rw [traceFrom?, hstep, hcount, traceRows, List.range'_succ]
      simp only [ih hlt (by omega), Option.map_some, List.map_cons]
      rfl
    · have hstep : (m.after i).step = ((m.after i).step.1, .halt v) := Prod.ext rfl h.halts
      have hcount : i + 1 - i = 1 := by omega
      rw [traceFrom?, hstep, hcount]
      rfl

/-- The history of a run shows the machine before each step, the one that halts included. -/
theorem HaltsAfter.runTraced?_eq (h : m.HaltsAfter n v) {fuel : Nat} (hfuel : n < fuel) :
    m.runTraced? fuel = some (v, ⟨m.traceRows 0 (n + 1)⟩) := by
  have hrows : traceFrom? fuel 0 m = some (v, m.traceRows 0 (n + 1)) :=
    h.traceFrom?_eq (Nat.zero_le n) (by omega)
  rw [runTraced?, hrows]
  rfl

theorem SettlesAfter.runTraced?_eq (h : m.SettlesAfter n v) {fuel : Nat} (hfuel : n < fuel) :
    m.runTraced? fuel = some (v, ⟨m.traceRows 0 (n + 1)⟩) :=
  h.haltsAfter.runTraced?_eq hfuel

end Machine

end ShiftReduce
