import Mathlib.Data.Finite.Prod
import Mathlib.Order.Lattice.Nat
import Mathlib.Order.Preorder.Finite
import Mathlib.Order.WellFounded
import ShiftReduce.Proofs.PastLabels
import ShiftReduce.Proofs.Run
import ShiftReduce.Proofs.StackStates

/-!
# Runs that never end

A reduction looks at the states on the stack and not at the symbols, and only at those down to the
state that it uncovers. So if nothing but reductions lead from one point of a run to a later one,
the two states on top are the same at both, and what is below them is never uncovered, then the same
reductions follow again, on a stack that may have grown, and again after that.

Conversely a run that never ends consumes its last token at some point. The points after it at
which the stack is as low as it will ever be again are infinitely many, and two of them have the
same two states on top.

Results:
* `Machine.Repeats`: two points of a run between which it goes round once.
* `Machine.Repeats.next`: a run that has gone round once goes round again.
* `Machine.RunsForever.exists_repeats`: a run that never ends goes round.
* `Machine.runsForever_iff_repeats`: the runs that never end are those that go round.
-/

namespace ShiftReduce

/-! ## Finitely many states -/

/-- The states that a run can come to: the start state and the destinations of the edges. -/
def Model.destinations (M : Model) : List StateId := M.startState :: M.edges.map (·.2)

/-- The states that can be on top of a stack: the topmost one, and the one beneath it if there is a
    pair. -/
def Model.topStates (M : Model) : Set (StateId × Option StateId) :=
  {q | q ∈ M.destinations} ×ˢ insert none (some '' {q | q ∈ M.destinations})

theorem Model.finite_topStates (M : Model) : M.topStates.Finite :=
  (List.finite_toSet M.destinations).prod (((List.finite_toSet M.destinations).image some).insert _)

theorem Stack.Linked.mem_destinations {M : Model} {s : Stack} (h : s.Linked M.Edge)
    (hbottom : s.bottom = M.startState) {i : Nat} {q : StateId} (hq : s.states[i]? = some q) :
    q ∈ M.destinations := by
  induction h generalizing i with
  | initial b =>
    obtain rfl := hbottom
    have hmem := List.mem_of_getElem? hq
    rw [List.mem_singleton.1 hmem]
    exact List.mem_cons_self
  | @push s X d hlinked hedge ih =>
    rw [states_push] at hq
    cases i with
    | zero =>
      cases hq
      exact List.mem_cons_of_mem _ (List.mem_map_of_mem (f := (·.2)) (Model.mem_edges.2 hedge))
    | succ i => exact ih hbottom hq

namespace Machine

variable {m m' : Machine} {exposed : Stack} {i j k : Nat}

/-! ## Reductions and what they uncover -/

/-- The step of `m` is a reduction, and what it takes off leaves the stack `exposed`. -/
def Uncovers (m : Machine) (exposed : Stack) : Prop :=
  ∃ state rule lhs popped goto source,
    m.step.2 = .next (.reduce state rule lhs popped goto source) ∧
      m.stack.pop? (popped / 2) = some exposed

theorem Uncovers.exists_advance (h : m.Uncovers exposed) :
    ∃ token action source rule production destination,
      m.Consults token action source ∧ action.reduceRule? = some rule ∧
      m.model.productions.get? rule = some production ∧
      m.stack.pop? production.arity = some exposed ∧
      m.model.lookupGoto exposed.top production.lhs = .ok destination ∧
      m.step.1 = { m with stack := exposed.push production.lhs destination } := by
  obtain ⟨state, rule, lhs, popped, goto, source, hstep, hexposed⟩ := h
  have hadvance : m.Advance m.step.1 _ := step_eq_next_iff.1 (Prod.ext rfl hstep)
  generalize hm' : m.step.1 = m' at hadvance
  cases hadvance with
  | reduce hconsults hrule hproduction hpop hgoto =>
    rw [Nat.mul_div_cancel_left _ Nat.two_pos, hpop] at hexposed
    cases hexposed
    exact ⟨_, _, _, _, _, _, hconsults, hrule, hproduction, hpop, hgoto, rfl⟩

theorem uncovers_of_reduce {token : Symbol} {action : Action} {source : Source} {rule : RuleId}
    {production : Production} {destination : StateId} (hconsults : m.Consults token action source)
    (hrule : action.reduceRule? = some rule)
    (hproduction : m.model.productions.get? rule = some production)
    (hpop : m.stack.pop? production.arity = some exposed)
    (hgoto : m.model.lookupGoto exposed.top production.lhs = .ok destination) :
    m.Uncovers exposed ∧
      m.step.1 = { m with stack := exposed.push production.lhs destination } := by
  have hstep := (Advance.reduce hconsults hrule hproduction hpop hgoto).step_eq
  rw [hstep]
  refine ⟨⟨_, _, _, _, _, _, congrArg Prod.snd hstep, ?_⟩, rfl⟩
  rw [Nat.mul_div_cancel_left _ Nat.two_pos]
  exact hpop

theorem Uncovers.running (h : m.Uncovers exposed) : m.verdict = none := by
  obtain ⟨_, _, _, _, _, _, hconsults, -⟩ := h.exists_advance
  exact hconsults.running

/-- A reduction changes the stack only, and leaves one pair more than it uncovers. -/
theorem Uncovers.step_eq (h : m.Uncovers exposed) :
    m.step.1 = { m with stack := m.step.1.stack } ∧
      m.step.1.stack.pairs.length = exposed.pairs.length + 1 := by
  obtain ⟨_, _, _, _, _, _, _, _, _, _, _, hstep⟩ := h.exists_advance
  rw [hstep]
  exact ⟨rfl, rfl⟩

/-- A step that goes on and leaves the cursor is a reduction. -/
theorem exists_uncovers_of_cursor_eq {t : Transition} (hstep : m.step.2 = .next t)
    (hcursor : m.step.1.cursor = m.cursor) : ∃ exposed, m.Uncovers exposed := by
  have hadvance : m.Advance m.step.1 t := step_eq_next_iff.1 (Prod.ext rfl hstep)
  generalize m.step.1 = m' at hadvance hcursor
  cases hadvance with
  | shift => exact absurd hcursor (Nat.succ_ne_self m.cursor)
  | reduce hconsults hrule hproduction hpop hgoto =>
    exact ⟨_, (uncovers_of_reduce hconsults hrule hproduction hpop hgoto).1⟩

/-- `m'` is `m` but for its stack, which agrees with that of `m` above some height. -/
structure Mirrors (b b' : Nat) (m m' : Machine) : Prop where
  /-- Everything but the stack is the same. -/
  rest : m' = { m with stack := m'.stack }
  /-- The stacks agree. -/
  stack : m.stack.AgreeAbove b b' m'.stack

/-- Where the stacks agree above a height, the same reduction is next, if it uncovers nothing below
    that height, and the stacks agree again after it. -/
theorem Mirrors.step {b b' : Nat} (h : m.Mirrors b b' m') (huncovers : m.Uncovers exposed)
    (hb : b ≤ exposed.pairs.length) :
    (∃ exposed', m'.Uncovers exposed' ∧ b' ≤ exposed'.pairs.length) ∧
      Mirrors b b' m.step.1 m'.step.1 := by
  obtain ⟨hrest, hstack⟩ := h
  generalize m'.stack = s' at hrest hstack
  subst hrest
  obtain ⟨token, action, source, rule, production, destination, hconsults, hrule, hproduction,
    hpop, hgoto, hstep⟩ := huncovers.exists_advance
  obtain ⟨exposed', hpop', htop, hb', hagree⟩ := hstack.pop hpop hb
  have hconsults' : Consults { m with stack := s' } token action source := by
    refine ⟨hconsults.running, hconsults.lookahead, ?_⟩
    show m.model.lookupAction s'.top token m.useOverrides = .found action source
    rw [← hstack.top_eq]
    exact hconsults.found
  obtain ⟨huncovers', hstep'⟩ :=
    uncovers_of_reduce hconsults' hrule hproduction hpop' (htop ▸ hgoto)
  refine ⟨⟨exposed', huncovers', hb'⟩, ?_⟩
  rw [hstep, hstep']
  exact ⟨rfl, hagree _ _⟩

/-! ## Going round -/

/-- The run of `m` goes round once between the points `i` and `j`. -/
structure Repeats (m : Machine) (i j : Nat) : Prop where
  /-- One point is before the other. -/
  lt : i < j
  /-- Between them there are reductions only, and none of them uncovers a stack that is lower by
      more than one pair than the stack at the first point. -/
  reduces : ∀ k, i ≤ k → k < j → ∃ exposed, (m.after k).Uncovers exposed ∧
    (m.after i).stack.pairs.length - 1 ≤ exposed.pairs.length
  /-- The first stack holds a pair. -/
  pairs_left : (m.after i).stack.pairs ≠ []
  /-- The second stack holds a pair. -/
  pairs_right : (m.after j).stack.pairs ≠ []
  /-- The states on top are the same. -/
  top : (m.after i).state = (m.after j).state
  /-- The states directly beneath the pairs on top are the same. -/
  beneath : (m.after i).stack.beneath? = (m.after j).stack.beneath?

/-- Only the stack changes from point to point. -/
theorem Repeats.after_eq (h : m.Repeats i j) (hik : i ≤ k) (hkj : k ≤ j) :
    m.after k = { m.after i with stack := (m.after k).stack } := by
  induction k, hik using Nat.le_induction with
  | base => rfl
  | succ k hik ih =>
    obtain ⟨exposed, huncovers, -⟩ := h.reduces k hik hkj
    calc m.after (k + 1) = { m.after k with stack := (m.after (k + 1)).stack } :=
          huncovers.step_eq.1
      _ = { m.after i with stack := (m.after (k + 1)).stack } := by
          rw [ih (Nat.le_of_succ_le hkj)]

/-- The run from the second point on mirrors the run from the first point on. -/
theorem Repeats.mirrors (h : m.Repeats i j) (hk : i + k ≤ j) :
    (m.after (i + k)).Mirrors ((m.after i).stack.pairs.length - 1)
      ((m.after j).stack.pairs.length - 1) (m.after (j + k)) := by
  induction k with
  | zero =>
    exact ⟨h.after_eq (Nat.le_of_lt h.lt) (Nat.le_refl j),
      Stack.agreeAbove_of_beneath h.pairs_left h.pairs_right h.top h.beneath⟩
  | succ k ih =>
    obtain ⟨exposed, huncovers, hb⟩ := h.reduces (i + k) (Nat.le_add_right i k) (by omega)
    exact ((ih (by omega)).step huncovers hb).2

/-- A run that has gone round once goes round again. -/
theorem Repeats.next (h : m.Repeats i j) : m.Repeats j (j + (j - i)) := by
  have hlt := h.lt
  have hround : (m.after j).Mirrors ((m.after i).stack.pairs.length - 1)
      ((m.after j).stack.pairs.length - 1) (m.after (j + (j - i))) := by
    have hmirrors := h.mirrors (k := j - i) (by omega)
    rwa [Nat.add_sub_cancel' (Nat.le_of_lt hlt)] at hmirrors
  have hheight := hround.stack.height
  have hhigher := hround.stack.lt
  refine ⟨by omega, fun k hjk hk => ?_, h.pairs_right, ?_, hround.stack.top_eq,
    hround.stack.beneath_eq⟩
  · obtain ⟨k, rfl⟩ := Nat.exists_eq_add_of_le hjk
    obtain ⟨exposed, huncovers, hb⟩ := h.reduces (i + k) (Nat.le_add_right i k) (by omega)
    exact ((h.mirrors (by omega)).step huncovers hb).1
  · refine List.ne_nil_of_length_pos ?_
    omega

/-- A run that has gone round once never ends. -/
theorem Repeats.runsForever (h : m.Repeats i j) : m.RunsForever := by
  have hlater : ∀ n, ∃ i j, n ≤ j ∧ m.Repeats i j := by
    intro n
    induction n with
    | zero => exact ⟨i, j, Nat.zero_le j, h⟩
    | succ n ih =>
      obtain ⟨i, j, hnj, hrepeats⟩ := ih
      have hlt := hrepeats.lt
      exact ⟨j, j + (j - i), by omega, hrepeats.next⟩
  refine runsForever_of_unbounded fun n => ?_
  obtain ⟨i, j, hnj, hrepeats⟩ := hlater n
  obtain ⟨exposed, huncovers, -⟩ := hrepeats.next.reduces j (Nat.le_refl j) hrepeats.next.lt
  exact ⟨j, hnj, huncovers.running⟩

/-! ## Runs that never end go round -/

/-- The height of the stack after a number of steps. -/
def heightAfter (m : Machine) (n : Nat) : Nat := (m.after n).stack.pairs.length

/-- The points behind `K` at which the stack is as low as it will ever be again. -/
def lowPoints (m : Machine) (K : Nat) : Set Nat :=
  {i | K < i ∧ ∀ n, i ≤ n → m.heightAfter i ≤ m.heightAfter n}

theorem infinite_lowPoints (m : Machine) (K : Nat) : (m.lowPoints K).Infinite := by
  refine Set.infinite_of_forall_exists_gt fun a => ?_
  -- the lowest point of those that come after both bounds
  have hnonempty : (Set.Ioi (max K a)).Nonempty := ⟨max K a + 1, Nat.lt_succ_self _⟩
  have hlater : max K a < Function.argminOn m.heightAfter (Set.Ioi (max K a)) hnonempty :=
    Function.argminOn_mem m.heightAfter _ hnonempty
  refine ⟨_, ⟨lt_of_le_of_lt (le_max_left K a) hlater, fun n hn => ?_⟩,
    lt_of_le_of_lt (le_max_right K a) hlater⟩
  exact Function.argminOn_le m.heightAfter _ (Set.mem_Ioi.2 (lt_of_lt_of_le hlater hn))

variable {M : Model} {tokens : List Symbol} {enabled : Bool}

/-- There is a point behind which the cursor does not move any more. -/
theorem exists_last_cursor (M : Model) (tokens : List Symbol) (enabled : Bool) :
    ∃ K, ∀ n, ((fresh M tokens enabled).after n).cursor ≤
      ((fresh M tokens enabled).after K).cursor := by
  have hbounded : BddAbove (Set.range fun n => ((fresh M tokens enabled).after n).cursor) :=
    ⟨tokens.length, Set.forall_mem_range.2 (cursor_after_fresh_le M tokens enabled)⟩
  obtain ⟨K, hK⟩ := Nat.sSup_mem (Set.range_nonempty _) hbounded
  exact ⟨K, fun n => (le_csSup hbounded ⟨n, rfl⟩).trans_eq hK.symm⟩

/-- From some point on, a run that never ends does nothing but reduce. -/
theorem RunsForever.exists_reductions_only (h : (fresh M tokens enabled).RunsForever) :
    ∃ K, ∀ n, K ≤ n → ∃ exposed, ((fresh M tokens enabled).after n).Uncovers exposed := by
  obtain ⟨K, hK⟩ := exists_last_cursor M tokens enabled
  refine ⟨K, fun n hn => ?_⟩
  obtain ⟨t, ht⟩ := h n
  refine exists_uncovers_of_cursor_eq ht ?_
  rw [← after_succ]
  have hlast := hK (n + 1)
  have hbefore := cursor_after_mono (fresh M tokens enabled) hn
  have hstep := cursor_after_mono (fresh M tokens enabled) (Nat.le_succ n)
  exact Nat.le_antisymm (Nat.le_trans hlast hbefore) hstep

/-- The states on top of the stack of a run, the topmost one and the one beneath it. -/
theorem topStates_mem (M : Model) (tokens : List Symbol) (enabled : Bool) (n : Nat) :
    (((fresh M tokens enabled).after n).state,
      ((fresh M tokens enabled).after n).stack.beneath?) ∈ M.topStates := by
  rw [after_fresh]
  have hpath := onPath_session M tokens (.switch enabled :: List.replicate n .step)
  have hmodel := (isRunOf_session M tokens (.switch enabled :: List.replicate n .step)).model
  generalize (start M tokens).session (.switch enabled :: List.replicate n .step) = m at *
  subst hmodel
  refine Set.mem_prod.2 ⟨?_, ?_⟩
  · exact hpath.linked.mem_destinations hpath.bottom m.stack.states_zero
  · cases hbeneath : m.stack.beneath? with
    | none => exact Set.mem_insert _ _
    | some q =>
      rw [Stack.beneath?_eq_states] at hbeneath
      have hq := hpath.linked.mem_destinations hpath.bottom hbeneath
      exact Set.mem_insert_of_mem _ (Set.mem_image_of_mem some hq)

/-- A run that never ends goes round. -/
theorem RunsForever.exists_repeats (h : (fresh M tokens enabled).RunsForever) :
    ∃ i j, (fresh M tokens enabled).Repeats i j := by
  obtain ⟨K, hK⟩ := h.exists_reductions_only
  have hheight : ∀ n, K ≤ n → ∃ exposed, ((fresh M tokens enabled).after n).Uncovers exposed ∧
      (fresh M tokens enabled).heightAfter (n + 1) = exposed.pairs.length + 1 := by
    intro n hn
    obtain ⟨exposed, huncovers⟩ := hK n hn
    exact ⟨exposed, huncovers, huncovers.step_eq.2⟩
  -- of infinitely many low points, two have the same states on top
  obtain ⟨i, ⟨hKi, hlow⟩, j, ⟨hKj, -⟩, hij, heq⟩ :=
    (infinite_lowPoints (fresh M tokens enabled) K).exists_lt_map_eq_of_mapsTo
      (fun n _ => topStates_mem M tokens enabled n) M.finite_topStates
  have hpairs : ∀ n, K < n → ((fresh M tokens enabled).after n).stack.pairs ≠ [] := by
    intro n hn
    obtain ⟨n, rfl⟩ := Nat.exists_eq_succ_of_ne_zero (Nat.ne_zero_of_lt hn)
    obtain ⟨exposed, -, hexposed⟩ := hheight n (by omega)
    have hpos : 0 < (fresh M tokens enabled).heightAfter (n + 1) := hexposed ▸ Nat.succ_pos _
    exact List.ne_nil_of_length_pos hpos
  obtain ⟨htop, hbeneath⟩ := Prod.mk.inj heq
  refine ⟨i, j, hij, fun k hik hkj => ?_, hpairs i hKi, hpairs j hKj, htop, hbeneath⟩
  obtain ⟨exposed, huncovers, hexposed⟩ := hheight k (by omega)
  have hlowest := hlow (k + 1) (by omega)
  refine ⟨exposed, huncovers, ?_⟩
  show (fresh M tokens enabled).heightAfter i - 1 ≤ exposed.pairs.length
  omega

/-! ## The characterisation -/

/-- **The runs that never end.** No verdict is ever found if and only if the run goes round once. If
    it does, every step goes on, and if it never does, some step settles a verdict. -/
theorem runsForever_iff_repeats (M : Model) (tokens : List Symbol) (enabled : Bool) :
    ((∀ fuel, (fresh M tokens enabled).run? fuel = none) ↔
      ∃ i j, (fresh M tokens enabled).Repeats i j) ∧
    ((∃ i j, (fresh M tokens enabled).Repeats i j) → (fresh M tokens enabled).RunsForever) ∧
    ((¬ ∃ i j, (fresh M tokens enabled).Repeats i j) →
      ∃ n v, (fresh M tokens enabled).SettlesAfter n v) := by
  have hrunning : (fresh M tokens enabled).verdict = none := rfl
  have hrepeats : (∃ i j, (fresh M tokens enabled).Repeats i j) →
      (fresh M tokens enabled).RunsForever := by
    rintro ⟨i, j, hij⟩
    exact hij.runsForever
  refine ⟨?_, hrepeats, fun hnone => ?_⟩
  · rw [← runsForever_iff_run? hrunning]
    exact ⟨RunsForever.exists_repeats, hrepeats⟩
  · rcases runsForever_or_settles hrunning with hforever | hsettles
    · exact absurd hforever.exists_repeats hnone
    · exact hsettles

/-- A model that puts one empty S after another onto the stack. -/
def growing : Model where
  table := Table.ofCells [
    (⟨⟨"1"⟩, "$"⟩, .single (.reduce ⟨"0"⟩)),
    (⟨⟨"1"⟩, "S"⟩, .single (.goto ⟨"1"⟩))]
  productions := SortedMap.ofList [(⟨"0"⟩, ⟨"S", []⟩)]

/-- The run of `growing` goes round between its points 1 and 2, although its stack grows, so that it
    never ends. The run of `optionalLetter` over b $ ends, so that it never goes round. -/
theorem runsForever_growing :
    (fresh growing ["$"] true).Repeats 1 2 ∧
    ((fresh growing ["$"] true).after 1).stack ≠ ((fresh growing ["$"] true).after 2).stack ∧
    (∀ fuel, (fresh growing ["$"] true).run? fuel = none) ∧
    ∀ i j, ¬(fresh optionalLetter ["b", "$"] true).Repeats i j := by
  have hrepeats : (fresh growing ["$"] true).Repeats 1 2 := by
    refine ⟨by decide, fun k hk hk' => ?_, by decide, by decide, by decide, by decide⟩
    obtain rfl : k = 1 := by omega
    exact ⟨⟨⟨"1"⟩, [("S", ⟨"1"⟩)]⟩, ⟨⟨"1"⟩, ⟨"0"⟩, "S", 0, ⟨"1"⟩, .primary, by decide, by decide⟩,
      by decide⟩
  refine ⟨hrepeats, by decide, ?_, fun i j h => ?_⟩
  · exact (runsForever_iff_repeats growing ["$"] true).1.2 ⟨1, 2, hrepeats⟩
  · have hnone := (runsForever_iff_repeats optionalLetter ["b", "$"] true).1.2 ⟨i, j, h⟩ 4
    have haccepted : (fresh optionalLetter ["b", "$"] true).run? 4 = some .accepted := by decide
    rw [haccepted] at hnone
    cases hnone

end Machine

end ShiftReduce
