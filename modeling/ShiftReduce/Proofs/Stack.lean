import Mathlib.Tactic.Common
import ShiftReduce.Stack

/-!
# Laws of stacks

A stack is a bottom state with pairs pushed on top of it. Its symbols and its flat list of items are
known once they are known for a push, and taking pairs off drops the last of them.

Results:
* `Stack.push_induction`, `Stack.pop_induction`: every stack is pushed together from its bottom, and
  taking pairs off undoes pushes.
* `Stack.pop?_eq_some_iff`, `Stack.pop?_eq_none_iff`: when pairs can be taken off.
* `Stack.symbols_of_pop?`, `Stack.items_of_pop?`: what is left when pairs are taken off.
* `Stack.isState_items`: the items of a stack alternate, with states at both ends.
-/

namespace ShiftReduce

namespace Stack

variable {s s' : Stack} {n : Nat}

/-! ## Pushing -/

/-- Every stack is pushed together from its bottom. -/
theorem push_induction {P : Stack → Prop} (hinitial : ∀ b, P (initial b))
    (hpush : ∀ s X d, P s → P (s.push X d)) (s : Stack) : P s := by
  obtain ⟨b, pairs⟩ := s
  induction pairs with
  | nil => exact hinitial b
  | cons pair pairs ih => exact hpush ⟨b, pairs⟩ pair.1 pair.2 ih

theorem push_inj {X X' : Symbol} {d d' : StateId} :
    s.push X d = s'.push X' d' ↔ s = s' ∧ X = X' ∧ d = d' := by
  cases s
  cases s'
  simp only [push, Stack.mk.injEq, List.cons.injEq, Prod.mk.injEq]
  tauto

/-- The symbols from bottom to top. -/
def symbols (s : Stack) : List Symbol := s.pairs.reverse.map (·.1)

@[simp] theorem symbols_push (s : Stack) (X : Symbol) (d : StateId) :
    (s.push X d).symbols = s.symbols ++ [X] := by
  simp [symbols, push]

@[simp] theorem length_symbols (s : Stack) : s.symbols.length = s.pairs.length := by
  simp [symbols]

@[simp] theorem top_initial (b : StateId) : (initial b).top = b := rfl

@[simp] theorem top_push (s : Stack) (X : Symbol) (d : StateId) : (s.push X d).top = d := rfl

@[simp] theorem bottom_push (s : Stack) (X : Symbol) (d : StateId) :
    (s.push X d).bottom = s.bottom := rfl

@[simp] theorem items_initial (b : StateId) : (initial b).items = [.state b] := rfl

@[simp] theorem items_push (s : Stack) (X : Symbol) (d : StateId) :
    (s.push X d).items = s.items ++ [.symbol X, .state d] := by
  simp [items, push]

@[simp] theorem size_push (s : Stack) (X : Symbol) (d : StateId) :
    (s.push X d).size = s.size + 2 := by
  simp only [size, push, List.length_cons]
  omega

theorem length_items (s : Stack) : s.items.length = s.size := by
  induction s using push_induction with
  | hinitial b => rfl
  | hpush s X d ih => simp [ih]

/-! ## Taking pairs off -/

theorem pop?_eq_some_iff :
    s.pop? n = some s' ↔ n ≤ s.pairs.length ∧ s' = ⟨s.bottom, s.pairs.drop n⟩ := by
  unfold pop?
  split_ifs with h
  · simp [h, eq_comm]
  · simp [h]

theorem pop?_eq_none_iff : s.pop? n = none ↔ s.pairs.length < n := by
  unfold pop?
  split_ifs with h
  · simp [h]
  · simpa using h

theorem bottom_of_pop? (h : s.pop? n = some s') : s'.bottom = s.bottom := by
  obtain ⟨-, rfl⟩ := pop?_eq_some_iff.1 h
  rfl

@[simp] theorem pop?_zero (s : Stack) : s.pop? 0 = some s := by
  simp [pop?]

theorem pop?_initial_succ (b : StateId) (n : Nat) : (initial b).pop? (n + 1) = none := by
  simp [pop?, initial]

theorem pop?_push_succ (s : Stack) (X : Symbol) (d : StateId) (n : Nat) :
    (s.push X d).pop? (n + 1) = s.pop? n := by
  simp [pop?, push]

/-- Taking pairs off undoes pushes one by one. -/
theorem pop_induction {P : Stack → Nat → Prop} (h : s.pop? n = some s') (hzero : P s' 0)
    (hsucc : ∀ s X d n, P s n → P (s.push X d) (n + 1)) : P s n := by
  induction s using push_induction generalizing n with
  | hinitial b =>
    cases n with
    | zero =>
      rw [pop?_zero] at h
      cases h
      exact hzero
    | succ n =>
      rw [pop?_initial_succ] at h
      cases h
  | hpush s X d ih =>
    cases n with
    | zero =>
      rw [pop?_zero] at h
      cases h
      exact hzero
    | succ n =>
      rw [pop?_push_succ] at h
      exact hsucc s X d n (ih h)

/-- The symbols that are taken off are the last ones. -/
theorem symbols_of_pop? (h : s.pop? n = some s') :
    ∃ popped, popped.length = n ∧ s.symbols = s'.symbols ++ popped := by
  refine pop_induction (P := fun s n => ∃ popped, popped.length = n ∧
    s.symbols = s'.symbols ++ popped) h ⟨[], rfl, (List.append_nil _).symm⟩ ?_
  rintro s X d n ⟨popped, hlength, hsymbols⟩
  refine ⟨popped ++ [X], by simp [hlength], ?_⟩
  rw [symbols_push, hsymbols, List.append_assoc]

theorem pop?_eq_none_iff_items : s.pop? n = none ↔ s.items.length < 2 * n + 1 := by
  rw [pop?_eq_none_iff, length_items, size]
  omega

theorem exists_pop?_iff_items : (∃ s', s.pop? n = some s') ↔ 2 * n < s.items.length := by
  rw [← Option.isSome_iff_exists, ← Option.ne_none_iff_isSome, Ne, pop?_eq_none_iff_items]
  omega

/-- The items that are taken off are the last ones, two for each pair. -/
theorem items_of_pop? (h : s.pop? n = some s') :
    s'.items = s.items.take (s.items.length - 2 * n) := by
  have hsplit : ∃ popped, popped.length = 2 * n ∧ s.items = s'.items ++ popped := by
    refine pop_induction (P := fun s n => ∃ popped, popped.length = 2 * n ∧
      s.items = s'.items ++ popped) h ⟨[], rfl, (List.append_nil _).symm⟩ ?_
    rintro s X d n ⟨popped, hlength, hitems⟩
    refine ⟨popped ++ [.symbol X, .state d], ?_, ?_⟩
    · simp only [List.length_append, hlength, List.length_cons, List.length_nil]
      omega
    · rw [items_push, hitems, List.append_assoc]
  obtain ⟨popped, hlength, hitems⟩ := hsplit
  rw [hitems, List.length_append, hlength, Nat.add_sub_cancel, List.take_left]

/-! ## Alternation -/

end Stack

/-- Whether an item is a state. -/
def StackItem.isState : StackItem → Bool
  | .state _ => true
  | .symbol _ => false

namespace Stack

theorem head?_items (s : Stack) : s.items.head? = some (.state s.bottom) := rfl

theorem getLast?_items (s : Stack) : s.items.getLast? = some (.state s.top) := by
  induction s using push_induction with
  | hinitial b => rfl
  | hpush s X d _ => simp

theorem size_mod_two (s : Stack) : s.size % 2 = 1 := by
  unfold size
  omega

/-- The items are states at even places and symbols at odd places. -/
theorem isState_items (s : Stack) {i : Nat} {item : StackItem} (h : s.items[i]? = some item) :
    item.isState = decide (i % 2 = 0) := by
  induction s using push_induction with
  | hinitial b =>
    rw [items_initial, List.getElem?_singleton] at h
    split_ifs at h with hi
    cases h
    simp [StackItem.isState, hi]
  | hpush s X d ih =>
    have hodd := s.size_mod_two
    rw [items_push, List.getElem?_append] at h
    split_ifs at h with hi
    · exact ih h
    · rw [length_items] at hi h
      obtain ⟨j, rfl⟩ := Nat.exists_eq_add_of_le (Nat.le_of_not_lt hi)
      rw [Nat.add_sub_cancel_left] at h
      rcases j with _ | _ | j
      · cases h
        simp [StackItem.isState, hodd]
      · cases h
        have : (s.size + (0 + 1)) % 2 = 0 := by omega
        simp only [StackItem.isState, this, decide_true]
      · cases h

end Stack

end ShiftReduce
