import Mathlib.Data.Finset.Option
import Mathlib.Data.Finset.Prod
import Mathlib.Order.Interval.Finset.Nat
import ShiftReduce.Proofs.Recurrence

/-!
# A bound on the steps of runs that end

If every production has a symbol on its right, a reduction never makes the stack higher. Then a run
makes headway with all its steps but one kind: a reduction by a production with a single symbol on
its right leaves the height of the stack as it is. Headway is bounded by the number of tokens. So a
run that is long enough reduces to the same left side twice without any headway in between, and has
gone round.

Results:
* `Machine.Advance.headway`: which steps make headway.
* `Machine.repeats_of_unit_block`: a run goes round if it reduces to the same left side twice
  without headway in between.
* `Machine.runsForever_of_step_bound`: a run that is not settled within the bound never ends.
-/

namespace ShiftReduce

/-! ## Unit reductions -/

namespace Model

/-- Every production has a symbol on its right. -/
def EpsilonFree (M : Model) : Prop :=
  ∀ rule p, M.productions.get? rule = some p → p.rhs ≠ []

/-- The left sides of the productions, in the order of the rules. -/
def leftSides (M : Model) : List Symbol := M.productions.entries.map (·.2.lhs)

theorem epsilonFree_iff {M : Model} :
    M.EpsilonFree ↔ ∀ e ∈ M.productions.entries, e.2.rhs ≠ [] := by
  constructor
  · intro h e he
    exact h e.1 e.2 (SortedMap.get?_eq_some_iff.2 he)
  · intro h rule p hp
    exact h (rule, p) (SortedMap.get?_eq_some_iff.1 hp)

instance (M : Model) : Decidable M.EpsilonFree := decidable_of_iff _ epsilonFree_iff.symm

theorem mem_leftSides {M : Model} {rule : RuleId} {p : Production}
    (h : M.productions.get? rule = some p) : p.lhs ∈ M.leftSides :=
  List.mem_map_of_mem (f := (·.2.lhs)) (SortedMap.get?_eq_some_iff.1 h)

theorem length_leftSides (M : Model) : M.leftSides.length = M.productions.size :=
  List.length_map _

end Model

/-- The left side that a reduction yields in the place of a single symbol. -/
def Transition.unit? : Transition → Option Symbol
  | .shift _ _ _ _ => none
  | .reduce _ _ lhs popped _ _ => if popped = 2 then some lhs else none

/-- The left side of a step that is a unit reduction. -/
def Step.unit? : Step → Option Symbol
  | .next t => t.unit?
  | .halt _ => none

namespace Machine

variable {M : Model} {m m' : Machine} {t : Transition} {A : Symbol} {i j k : Nat}

theorem Advance.pairs_ne_nil (h : m.Advance m' t) : m'.stack.pairs ≠ [] := by
  cases h with
  | shift => exact List.cons_ne_nil _ _
  | reduce => exact List.cons_ne_nil _ _

/-- A unit reduction puts its left side in the place of the pair on top. Where it goes depends on
    the left side and the state beneath only. -/
theorem Advance.of_unit (h : m.Advance m' t) (hunit : t.unit? = some A) :
    ∃ exposed, m.Uncovers exposed ∧ m.stack.pairs.length = exposed.pairs.length + 1 ∧
      m'.stack.pairs.length = exposed.pairs.length + 1 ∧
      m.stack.beneath? = some exposed.top ∧ m'.stack.beneath? = some exposed.top ∧
      m.model.lookupGoto exposed.top A = .ok m'.state ∧ A ∈ m.model.leftSides := by
  cases h with
  | shift => cases hunit
  | @reduce token action source rule production exposed destination hconsults hrule hproduction hpop
      hgoto =>
    rw [Transition.unit?] at hunit
    split_ifs at hunit with hpopped
    cases hunit
    have harity : production.arity = 1 := by omega
    have huncovers := (uncovers_of_reduce hconsults hrule hproduction hpop hgoto).1
    rw [harity] at hpop
    refine ⟨exposed, huncovers, (Stack.length_pairs_of_pop? hpop).symm, rfl, ?_,
      Stack.beneath?_push _ _ _, hgoto, Model.mem_leftSides hproduction⟩
    rw [Stack.beneath?, hpop, Option.map_some]

/-! ## Headway -/

/-- Two for each token that was consumed, less one for each pair on the stack. -/
def headway (m : Machine) : Nat := 2 * m.cursor - m.stack.pairs.length

/-- Without productions that are empty on the right, the stack never holds more pairs than tokens
    were consumed, and every step but a unit reduction makes headway. -/
theorem Advance.headway (hε : m.model.EpsilonFree) (h : m.Advance m' t)
    (hle : m.stack.pairs.length ≤ m.cursor) :
    m'.stack.pairs.length ≤ m'.cursor ∧ m.headway ≤ m'.headway ∧
      (t.unit? = none → m.headway < m'.headway) := by
  cases h with
  | shift =>
    simp only [Machine.headway, Stack.push, List.length_cons]
    omega
  | @reduce token action source rule production exposed destination hconsults hrule hproduction
      hpop =>
    have hlength := Stack.length_pairs_of_pop? hpop
    have hpositive : 0 < production.arity := List.length_pos_iff.2 (hε rule production hproduction)
    simp only [Machine.headway, Stack.push, List.length_cons, Transition.unit?]
    refine ⟨by omega, by omega, fun hunit => ?_⟩
    have hpopped : production.arity ≠ 1 := by
      rintro harity
      rw [harity] at hunit
      cases hunit
    omega

theorem Stop.length_pairs_le {s : Stack} {v : Verdict} (h : m.Stop s v) :
    s.pairs.length ≤ m.stack.pairs.length := by
  cases h with
  | missingGoto _ _ _ hpop => exact (Stack.length_pairs_of_pop? hpop) ▸ Nat.le_add_right _ _
  | _ => exact Nat.le_refl _

variable {tokens : List Symbol} {enabled : Bool}

theorem pairs_le_cursor_after (hε : M.EpsilonFree) (n : Nat) :
    ((fresh M tokens enabled).after n).stack.pairs.length ≤
      ((fresh M tokens enabled).after n).cursor := by
  have hinvariant := after_invariant (m := fresh M tokens enabled)
    (P := fun m => m.model = M ∧ m.stack.pairs.length ≤ m.cursor) ?_ ?_ ⟨rfl, Nat.le_refl 0⟩ n
  · exact hinvariant.2
  · rintro m m' t ⟨rfl, hle⟩ h
    have hmodel : m'.model = m.model := by cases h <;> rfl
    exact ⟨hmodel, (h.headway hε hle).1⟩
  · rintro m s v ⟨rfl, hle⟩ h
    exact ⟨rfl, h.length_pairs_le.trans hle⟩

/-- A run makes headway with every step but its unit reductions. -/
theorem headway_step (hε : M.EpsilonFree) {n : Nat}
    (h : ((fresh M tokens enabled).after n).step.2 = .next t) :
    ((fresh M tokens enabled).after n).headway ≤
        ((fresh M tokens enabled).after (n + 1)).headway ∧
      (t.unit? = none → ((fresh M tokens enabled).after n).headway <
        ((fresh M tokens enabled).after (n + 1)).headway) := by
  have hadvance := advance_after h
  have hε' : ((fresh M tokens enabled).after n).model.EpsilonFree := by
    rw [model_after]
    exact hε
  exact (hadvance.headway hε' (pairs_le_cursor_after hε n)).2

theorem headway_mono (hε : M.EpsilonFree) (hij : i ≤ j)
    (hrunning : ((fresh M tokens enabled).after j).verdict = none) :
    ((fresh M tokens enabled).after i).headway ≤ ((fresh M tokens enabled).after j).headway := by
  induction j, hij using Nat.le_induction with
  | base => exact Nat.le_refl _
  | succ n hin ih =>
    obtain ⟨t, ht⟩ := running_after_succ_iff.1 hrunning
    exact (ih (running_of_le (Nat.le_succ n) hrunning)).trans (headway_step hε ht).1

/-- Headway is between one and twice the number of tokens after every step that goes on. -/
theorem headway_mem_Icc (hε : M.EpsilonFree) {n : Nat}
    (hrunning : ((fresh M tokens enabled).after (n + 1)).verdict = none) :
    ((fresh M tokens enabled).after (n + 1)).headway ∈ Finset.Icc 1 (2 * tokens.length) := by
  obtain ⟨t, ht⟩ := running_after_succ_iff.1 hrunning
  have hpairs := List.length_pos_iff.2 (advance_after ht).pairs_ne_nil
  have hle : ((fresh M tokens enabled).after (n + 1)).stack.pairs.length ≤
      ((fresh M tokens enabled).after (n + 1)).cursor := pairs_le_cursor_after hε (n + 1)
  have hcursor := cursor_after_fresh_le M tokens enabled (n + 1)
  rw [Finset.mem_Icc, headway]
  omega

/-! ## The same left side twice without headway -/

/-- Unit reductions keep the height of the stack and the state beneath the pair on top. -/
theorem unit_block (hij : i ≤ j)
    (hunit : ∀ k, i ≤ k → k < j → ∃ t A, (m.after k).step.2 = .next t ∧ t.unit? = some A) :
    (m.after j).stack.pairs.length = (m.after i).stack.pairs.length ∧
      (m.after j).stack.beneath? = (m.after i).stack.beneath? := by
  induction j, hij using Nat.le_induction with
  | base => exact ⟨rfl, rfl⟩
  | succ k hik ih =>
    obtain ⟨hheight, hbeneath⟩ := ih fun l hil hlk => hunit l hil (Nat.lt_succ_of_lt hlk)
    obtain ⟨t, A, ht, hA⟩ := hunit k hik (Nat.lt_succ_self k)
    obtain ⟨exposed, -, hpairs, hpairs', hexposed, hexposed', -⟩ := (advance_after ht).of_unit hA
    rw [hpairs', hexposed', ← hheight, ← hbeneath, hpairs, hexposed]
    exact ⟨rfl, rfl⟩

/-- A run goes round if, between two unit reductions with the same left side, there is nothing but
    unit reductions. -/
theorem repeats_of_unit_block (hij : i < j)
    (hunit : ∀ k, i ≤ k → k ≤ j → ∃ t A, (m.after k).step.2 = .next t ∧ t.unit? = some A)
    (hsame : (m.after i).step.2.unit? = (m.after j).step.2.unit?) :
    m.Repeats (i + 1) (j + 1) := by
  obtain ⟨t, A, ht, hA⟩ := hunit i (Nat.le_refl i) (Nat.le_of_lt hij)
  obtain ⟨u, B, hu, hB⟩ := hunit j (Nat.le_of_lt hij) (Nat.le_refl j)
  have hAB : A = B := by
    rw [ht, hu] at hsame
    exact Option.some.inj (hA.symm.trans (hsame.trans hB))
  subst hAB
  have hblock := fun k (hik : i + 1 ≤ k) (hkj : k ≤ j + 1) =>
    unit_block (m := m) hik fun l hl hlk => hunit l (by omega) (by omega)
  obtain ⟨_, -, -, -, -, hbeneath, hgoto, -⟩ := (advance_after ht).of_unit hA
  obtain ⟨_, -, -, -, -, hbeneath', hgoto', -⟩ := (advance_after hu).of_unit hB
  have hround := (hblock (j + 1) (by omega) (Nat.le_refl _)).2
  refine ⟨by omega, fun k hik hkj => ?_, (advance_after ht).pairs_ne_nil,
    (advance_after hu).pairs_ne_nil, ?_, hround.symm⟩
  · obtain ⟨w, C, hw, hC⟩ := hunit k (by omega) (by omega)
    obtain ⟨exposed, huncovers, hpairs, -⟩ := (advance_after hw).of_unit hC
    have hheight := (hblock k hik (Nat.le_of_lt hkj)).1
    exact ⟨exposed, huncovers, by omega⟩
  · -- both reductions look up the same left side in the same state
    rw [hbeneath, hbeneath'] at hround
    rw [model_after, ← Option.some.inj hround] at hgoto
    rw [model_after] at hgoto'
    exact Except.ok.inj (hgoto.symm.trans hgoto')

/-- Two steps with the same headway after them and the same left side, or none, are the ends of a
    block of unit reductions. -/
theorem repeats_of_headway_eq (hε : M.EpsilonFree) (hij : i < j)
    (hrunning : ((fresh M tokens enabled).after (j + 1)).verdict = none)
    (hheadway : ((fresh M tokens enabled).after (i + 1)).headway =
      ((fresh M tokens enabled).after (j + 1)).headway)
    (hsame : ((fresh M tokens enabled).after i).step.2.unit? =
      ((fresh M tokens enabled).after j).step.2.unit?) :
    (fresh M tokens enabled).Repeats (i + 1) (j + 1) := by
  have hflat : ∀ k, i < k → k ≤ j →
      ∃ t A, ((fresh M tokens enabled).after k).step.2 = .next t ∧ t.unit? = some A := by
    intro k hik hkj
    have hrunning' : ((fresh M tokens enabled).after (k + 1)).verdict = none :=
      running_of_le (by omega) hrunning
    obtain ⟨t, ht⟩ := running_after_succ_iff.1 hrunning'
    cases hA : t.unit? with
    | some A => exact ⟨t, A, ht, hA⟩
    | none =>
      -- the step would make headway, which is not lost again
      have hlt := (headway_step hε ht).2 hA
      have hbefore := headway_mono hε hik (running_of_le (Nat.le_succ k) hrunning')
      have hafter := headway_mono hε (Nat.succ_le_succ hkj) hrunning
      simp only [Nat.succ_eq_add_one] at hbefore hafter
      omega
  refine repeats_of_unit_block hij (fun k hik hkj => ?_) hsame
  rcases Nat.lt_or_eq_of_le hik with hlt | rfl
  · exact hflat k hlt hkj
  · -- the first step has the same left side as the last one
    obtain ⟨u, B, hu, hB⟩ := hflat j hij (Nat.le_refl j)
    obtain ⟨t, ht⟩ := running_after_succ_iff.1
      (running_of_le (Nat.succ_le_succ (Nat.le_of_lt hij)) hrunning)
    rw [ht, hu] at hsame
    exact ⟨t, B, ht, hsame.trans hB⟩

/-! ## The bound -/

/-- What a step can lead to: some headway, and a left side if it is a unit reduction. -/
def trails (M : Model) (tokens : List Symbol) : Finset (Nat × Option Symbol) :=
  Finset.Icc 1 (2 * tokens.length) ×ˢ Finset.insertNone M.leftSides.toFinset

theorem card_trails_le (M : Model) (tokens : List Symbol) :
    (trails M tokens).card ≤ 2 * tokens.length * (M.productions.size + 1) := by
  have hleftSides : M.leftSides.toFinset.card ≤ M.productions.size :=
    M.length_leftSides ▸ List.toFinset_card_le M.leftSides
  rw [trails, Finset.card_product, Nat.card_Icc, Nat.add_sub_cancel, Finset.card_insertNone]
  exact Nat.mul_le_mul_left _ (Nat.succ_le_succ hleftSides)

theorem trail_mem (hε : M.EpsilonFree) {n : Nat}
    (hrunning : ((fresh M tokens enabled).after (n + 1)).verdict = none) :
    (((fresh M tokens enabled).after (n + 1)).headway,
      ((fresh M tokens enabled).after n).step.2.unit?) ∈ trails M tokens := by
  refine Finset.mem_product.2 ⟨headway_mem_Icc hε hrunning, Finset.mem_insertNone.2 ?_⟩
  intro A hA
  obtain ⟨t, ht⟩ := running_after_succ_iff.1 hrunning
  have hunit : t.unit? = some A := by
    simp only [ht] at hA
    exact hA
  obtain ⟨_, -, -, -, -, -, -, hmem⟩ := (advance_after ht).of_unit hunit
  rw [model_after] at hmem
  exact List.mem_toFinset.2 hmem

/-- **A run that is not settled within the bound never ends.** Let every production have a symbol on
    its right. If no verdict is settled by `2 * n * (P + 1) + 1` steps over `n` tokens with `P`
    productions, then every step goes on. -/
theorem runsForever_of_step_bound (hε : M.EpsilonFree) (tokens : List Symbol) (enabled : Bool)
    (h : ((fresh M tokens enabled).after
      (2 * tokens.length * (M.productions.size + 1) + 1)).verdict = none) :
    (fresh M tokens enabled).RunsForever := by
  have hrunning : ∀ k ∈ Finset.range (2 * tokens.length * (M.productions.size + 1) + 1),
      ((fresh M tokens enabled).after (k + 1)).verdict = none := by
    intro k hk
    exact running_of_le (Nat.succ_le_of_lt (Finset.mem_range.1 hk)) h
  -- there are more steps than things that a step can lead to
  have hcard : (trails M tokens).card <
      (Finset.range (2 * tokens.length * (M.productions.size + 1) + 1)).card := by
    rw [Finset.card_range]
    exact Nat.lt_succ_of_le (card_trails_le M tokens)
  obtain ⟨i, hi, j, hj, hne, heq⟩ := Finset.exists_ne_map_eq_of_card_lt_of_maps_to hcard
    fun k hk => trail_mem hε (hrunning k hk)
  wlog hij : i < j generalizing i j
  · exact this j hj i hi hne.symm heq.symm (by omega)
  obtain ⟨hheadway, hsame⟩ := Prod.mk.inj heq
  exact (repeats_of_headway_eq hε hij (hrunning j hj) hheadway hsame).runsForever

/-- A model with two productions, S → a and S → S. -/
def selfLoop : Model where
  table := Table.ofCells [
    (⟨⟨"1"⟩, "a"⟩, .single (.shift ⟨"2"⟩)),
    (⟨⟨"1"⟩, "S"⟩, .single (.goto ⟨"3"⟩)),
    (⟨⟨"2"⟩, "$"⟩, .single (.reduce ⟨"0"⟩)),
    (⟨⟨"3"⟩, "$"⟩, .single (.mergedReduce ⟨"1"⟩))]
  productions := SortedMap.ofList [(⟨"0"⟩, ⟨"S", ["a"]⟩), (⟨"1"⟩, ⟨"S", ["S"]⟩)]

/-- No verdict is settled by thirteen steps over the tokens a $, and so none ever will be. -/
theorem runsForever_selfLoop :
    selfLoop.EpsilonFree ∧ ((fresh selfLoop ["a", "$"] true).after 13).verdict = none ∧
      (fresh selfLoop ["a", "$"] true).RunsForever := by
  have hε : selfLoop.EpsilonFree := by decide
  have hrunning : ((fresh selfLoop ["a", "$"] true).after 13).verdict = none := by decide
  exact ⟨hε, hrunning, runsForever_of_step_bound hε ["a", "$"] true hrunning⟩

end Machine

end ShiftReduce
