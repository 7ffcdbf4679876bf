import ShiftReduce.Proofs.Stack

/-!
# The states on a stack

The automaton looks at the states on its stack and never at the symbols. Two stacks with the same
states on top, down to some height, are alike to everything that takes no pair off below that
height.

Results:
* `Stack.states_of_pop?`: taking pairs off drops the topmost states.
* `Stack.agreeAbove_of_beneath`: two stacks with the same two states on top agree above all but the
  pair on top.
* `Stack.AgreeAbove.pop`: what can be taken off the one stack can be taken off the other.
-/

namespace ShiftReduce

namespace Stack

variable {s s' e : Stack} {n b b' : Nat}

/-! ## The states on a stack -/

/-- The states from top to bottom. -/
def states (s : Stack) : List StateId := s.pairs.map (·.2) ++ [s.bottom]

/-- The state directly beneath the pair on top, if there is a pair. -/
def beneath? (s : Stack) : Option StateId := (s.pop? 1).map top

@[simp] theorem states_push (s : Stack) (X : Symbol) (d : StateId) :
    (s.push X d).states = d :: s.states := rfl

@[simp] theorem beneath?_push (s : Stack) (X : Symbol) (d : StateId) :
    (s.push X d).beneath? = some s.top := by
  rw [beneath?, pop?_push_succ, pop?_zero, Option.map_some]

theorem states_zero (s : Stack) : s.states[0]? = some s.top := by
  induction s using push_induction with
  | hinitial b => rfl
  | hpush s X d _ => rfl

theorem states_of_pop? (h : s.pop? n = some e) (i : Nat) : e.states[i]? = s.states[n + i]? := by
  refine pop_induction (P := fun s n => e.states[i]? = s.states[n + i]?) h (by rw [Nat.zero_add]) ?_
  intro s X d n ih
  rw [states_push, Nat.add_right_comm, List.getElem?_cons_succ]
  exact ih

theorem beneath?_eq_states (s : Stack) : s.beneath? = s.states[1]? := by
  induction s using push_induction with
  | hinitial b => rfl
  | hpush s X d _ => rw [beneath?_push, states_push, List.getElem?_cons_succ, states_zero]

theorem length_pairs_of_pop? (h : s.pop? n = some e) :
    e.pairs.length + n = s.pairs.length := by
  obtain ⟨hn, rfl⟩ := pop?_eq_some_iff.1 h
  rw [List.length_drop]
  omega

/-! ## Stacks that agree above some height -/

/-- The stack `s` has as many pairs above its lowest `b` pairs as the stack `s'` has above its
    lowest `b'` pairs, at least one, and the states are the same from the top down to the state on
    which these pairs stand. -/
structure AgreeAbove (b b' : Nat) (s s' : Stack) : Prop where
  /-- There is a pair above the lowest ones. -/
  lt : b < s.pairs.length
  /-- There are equally many of them. -/
  height : s.pairs.length + b' = s'.pairs.length + b
  /-- The states are the same. -/
  states : ∀ n, n + b ≤ s.pairs.length → s.states[n]? = s'.states[n]?

theorem AgreeAbove.top_eq (h : AgreeAbove b b' s s') : s.top = s'.top := by
  have hzero := h.states 0 (by have := h.lt; omega)
  rw [states_zero, states_zero] at hzero
  exact Option.some.inj hzero

theorem AgreeAbove.beneath_eq (h : AgreeAbove b b' s s') : s.beneath? = s'.beneath? := by
  rw [beneath?_eq_states, beneath?_eq_states]
  exact h.states 1 (by have := h.lt; omega)

/-- Two stacks with the same two states on top agree above all but the pair on top. -/
theorem agreeAbove_of_beneath (hs : s.pairs ≠ []) (hs' : s'.pairs ≠ []) (htop : s.top = s'.top)
    (hbeneath : s.beneath? = s'.beneath?) :
    AgreeAbove (s.pairs.length - 1) (s'.pairs.length - 1) s s' := by
  have hlength : 0 < s.pairs.length := List.length_pos_iff.2 hs
  have hlength' : 0 < s'.pairs.length := List.length_pos_iff.2 hs'
  refine ⟨by omega, by omega, fun n hn => ?_⟩
  have hcases : n = 0 ∨ n = 1 := by omega
  rcases hcases with rfl | rfl
  · rw [states_zero, states_zero, htop]
  · rw [← beneath?_eq_states, ← beneath?_eq_states, hbeneath]

/-- What can be taken off the one stack without touching the lowest pairs can be taken off the
    other. It uncovers the same state, and with the same state on top the stacks agree again. -/
theorem AgreeAbove.pop (h : AgreeAbove b b' s s') (hpop : s.pop? n = some e)
    (hb : b ≤ e.pairs.length) :
    ∃ e', s'.pop? n = some e' ∧ e'.top = e.top ∧ b' ≤ e'.pairs.length ∧
      ∀ X d, AgreeAbove b b' (e.push X d) (e'.push X d) := by
  have hheight := h.height
  have hlength : e.pairs.length + n = s.pairs.length := length_pairs_of_pop? hpop
  have hn : n ≤ s'.pairs.length := by omega
  obtain ⟨e', hpop'⟩ : ∃ e', s'.pop? n = some e' := ⟨_, pop?_eq_some_iff.2 ⟨hn, rfl⟩⟩
  have hlength' : e'.pairs.length + n = s'.pairs.length := length_pairs_of_pop? hpop'
  have hstates : ∀ i, i + b ≤ e.pairs.length → e.states[i]? = e'.states[i]? := by
    intro i hi
    rw [states_of_pop? hpop, states_of_pop? hpop']
    exact h.states (n + i) (by omega)
  refine ⟨e', hpop', ?_, by omega, fun X d => ⟨?_, ?_, ?_⟩⟩
  · have hzero := hstates 0 (by omega)
    rw [states_zero, states_zero] at hzero
    exact (Option.some.inj hzero).symm
  · show b < e.pairs.length + 1
    omega
  · show e.pairs.length + 1 + b' = e'.pairs.length + 1 + b
    omega
  · intro i hi
    have hi' : i + b ≤ e.pairs.length + 1 := hi
    cases i with
    | zero => rfl
    | succ i =>
      rw [states_push, states_push, List.getElem?_cons_succ, List.getElem?_cons_succ]
      exact hstates i (by omega)

end Stack

end ShiftReduce
