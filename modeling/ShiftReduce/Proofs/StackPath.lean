import ShiftReduce.Proofs.Stack

/-!
# Stacks as paths

A relation `E s X d` between a state, a symbol and a state draws the edges of a graph. A stack whose
pairs were all pushed along edges is a path from its bottom to its top.

Results:
* `Stack.Linked.exists_chain_of_pop`: what is taken off a linked stack spells a chain of edges from
  the exposed state to the state that was on top.
* `Stack.linked_iff_items`: a stack is linked if and only if whatever stands on it as a state, a
  symbol and a state, one on top of the other, is an edge.
-/

namespace ShiftReduce

/-! ## Chains of edges -/

/-- A chain of edges from one state to another that spells a sequence of symbols. -/
inductive Chain (E : StateId → Symbol → StateId → Prop) : StateId → List Symbol → StateId → Prop
  /-- No edge leads from a state to itself. -/
  | nil (s : StateId) : Chain E s [] s
  /-- One more edge at the end. -/
  | snoc {p s d : StateId} {α : List Symbol} {X : Symbol} (hchain : Chain E p α s)
      (hedge : E s X d) : Chain E p (α ++ [X]) d

theorem chain_nil_iff {E : StateId → Symbol → StateId → Prop} {p s : StateId} :
    Chain E p [] s ↔ p = s := by
  constructor
  · intro h
    generalize hα : ([] : List Symbol) = α at h
    cases h with
    | nil => rfl
    | snoc => simp at hα
  · rintro rfl
    exact .nil p

theorem chain_concat_iff {E : StateId → Symbol → StateId → Prop} {p d : StateId} {α : List Symbol}
    {X : Symbol} : Chain E p (α ++ [X]) d ↔ ∃ s, Chain E p α s ∧ E s X d := by
  constructor
  · intro h
    generalize hβ : α ++ [X] = β at h
    cases h with
    | nil => simp at hβ
    | snoc hchain hedge =>
      obtain ⟨rfl, hX⟩ := List.append_inj' hβ rfl
      obtain rfl := List.singleton_inj.1 hX
      exact ⟨_, hchain, hedge⟩
  · rintro ⟨s, hchain, hedge⟩
    exact hchain.snoc hedge

namespace Stack

/-! ## Linked stacks -/

variable {s s' : Stack} {n : Nat}

/-- Every pair of the stack was pushed along an edge. -/
inductive Linked (E : StateId → Symbol → StateId → Prop) : Stack → Prop
  /-- There is a state and no pair. -/
  | initial (b : StateId) : Linked E (Stack.initial b)
  /-- One more pair along an edge out of the state on top. -/
  | push {s : Stack} {X : Symbol} {d : StateId} (hlinked : Linked E s) (hedge : E s.top X d) :
      Linked E (s.push X d)

variable {E : StateId → Symbol → StateId → Prop}

theorem linked_push_iff {X : Symbol} {d : StateId} :
    (s.push X d).Linked E ↔ s.Linked E ∧ E s.top X d := by
  constructor
  · intro h
    generalize hr : s.push X d = r at h
    cases h with
    | initial b => cases hr
    | push hlinked hedge =>
      obtain ⟨rfl, rfl, rfl⟩ := push_inj.1 hr
      exact ⟨hlinked, hedge⟩
  · rintro ⟨hlinked, hedge⟩
    exact hlinked.push hedge

theorem Linked.pop (h : s.Linked E) (hpop : s.pop? n = some s') : s'.Linked E := by
  revert h
  refine pop_induction (P := fun s _ => s.Linked E → s'.Linked E) hpop id ?_
  exact fun s X d n ih h => ih (linked_push_iff.1 h).1

/-- What is taken off a linked stack spells a chain of edges from the exposed state to the state
    that was on top. -/
theorem Linked.exists_chain_of_pop (h : s.Linked E) (hpop : s.pop? n = some s') :
    ∃ α, α.length = n ∧ s.symbols = s'.symbols ++ α ∧ Chain E s'.top α s.top := by
  revert h
  refine pop_induction (P := fun s n => s.Linked E → ∃ α, α.length = n ∧
    s.symbols = s'.symbols ++ α ∧ Chain E s'.top α s.top) hpop ?_ ?_
  · exact fun _ => ⟨[], rfl, (List.append_nil _).symm, .nil _⟩
  · intro s X d n ih h
    obtain ⟨hlinked, hedge⟩ := linked_push_iff.1 h
    obtain ⟨α, hlength, hsymbols, hchain⟩ := ih hlinked
    refine ⟨α ++ [X], by simp [hlength], ?_, hchain.snoc hedge⟩
    rw [symbols_push, hsymbols, List.append_assoc]

/-- A linked stack spells a chain of edges from its bottom to its top. -/
theorem Linked.chain (h : s.Linked E) : Chain E s.bottom s.symbols s.top := by
  induction h with
  | initial b => exact .nil b
  | push _ hedge ih =>
    rw [symbols_push]
    exact ih.snoc hedge

theorem Linked.mono {E' : StateId → Symbol → StateId → Prop} (h : s.Linked E)
    (hE : ∀ p X d, E p X d → E' p X d) : s.Linked E' := by
  induction h with
  | initial b => exact .initial b
  | push _ hedge ih => exact ih.push (hE _ _ _ hedge)

/-! ## Edges among the items -/

/-- A push adds one triple of a state, a symbol and a state to those that stand on a stack. -/
theorem items_push_infix_iff {p d e : StateId} {X Y : Symbol} :
    [.state p, .symbol Y, .state e] <:+: (s.push X d).items ↔
      (p = s.top ∧ Y = X ∧ e = d) ∨ [.state p, .symbol Y, .state e] <:+: s.items := by
  have hsplit : (s.push X d).items = s.items ++ [.symbol X] ++ [.state d] := by
    rw [items_push, List.append_assoc]
    rfl
  -- a triple that is new takes in the last item; the item before that is a symbol
  have hlast : [.state p, .symbol Y, .state e] <:+ s.items ++ [.symbol X] ++ [.state d] ↔
      p = s.top ∧ Y = X ∧ e = d := by
    rw [← List.reverse_prefix, List.reverse_concat, List.reverse_concat]
    simp only [List.reverse_cons, List.reverse_nil, List.nil_append, List.cons_append,
      List.cons_prefix_cons, List.singleton_prefix_iff_head?_eq_some, List.head?_reverse,
      getLast?_items, StackItem.state.injEq, StackItem.symbol.injEq, Option.some.injEq]
    tauto
  have hmiddle : ¬[.state p, .symbol Y, .state e] <:+ s.items ++ [.symbol X] := by
    rw [← List.reverse_prefix, List.reverse_concat]
    simp
  rw [hsplit, List.infix_concat_iff, hlast, List.infix_concat_iff, or_iff_right hmiddle]

/-- A stack is linked if and only if every state, symbol and state that stand on it one on top of
    the other are an edge. -/
theorem linked_iff_items :
    s.Linked E ↔ ∀ p X d, [.state p, .symbol X, .state d] <:+: s.items → E p X d := by
  induction s using push_induction with
  | hinitial b =>
    refine iff_of_true (.initial b) fun p X d h => ?_
    have hlength := h.length_le
    simp at hlength
  | hpush s X d ih =>
    rw [linked_push_iff, ih]
    constructor
    · rintro ⟨hbelow, hedge⟩ p Y e h
      rcases items_push_infix_iff.1 h with ⟨rfl, rfl, rfl⟩ | h
      · exact hedge
      · exact hbelow p Y e h
    · intro h
      constructor
      · intro p Y e hinfix
        exact h p Y e (items_push_infix_iff.2 (.inr hinfix))
      · exact h s.top X d (items_push_infix_iff.2 (.inl ⟨rfl, rfl, rfl⟩))

end Stack

end ShiftReduce
