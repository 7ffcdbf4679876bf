import ShiftReduce.Proofs.Session
import ShiftReduce.Proofs.Stack

/-!
# Runs as parse forests

Whatever the tables hold, a run builds a forest: a shift plants a leaf, and a reduction puts the
last trees under a new root. No token is lost, doubled or moved, and the forest, visited in
postorder, is the history of the run.

Results:
* `ParseTree.Fits`: the trees that are built from productions of a model.
* `Machine.exists_forest`: the forest of a run that goes on.
-/

namespace ShiftReduce

/-! ## Trees and forests -/

/-- An ordered tree with tokens at its leaves and rules at its inner nodes. -/
inductive ParseTree where
  /-- A token. -/
  | leaf (token : Symbol)
  /-- A rule with the symbol that it yields and the trees that it consumes, leftmost first. -/
  | node (rule : RuleId) (symbol : Symbol) (children : List ParseTree)

/-- Trees side by side, leftmost first. -/
abbrev ParseForest := List ParseTree

/-- A visit to a node of a forest. -/
inductive Visit where
  /-- A leaf is a token that is shifted. -/
  | shift (token : Symbol)
  /-- An inner node is a reduction. `popped` counts the stack elements that it takes off. -/
  | reduce (rule : RuleId) (lhs : Symbol) (popped : Nat)
deriving DecidableEq, Repr

/-- The symbol at the root. -/
def ParseTree.symbol : ParseTree → Symbol
  | leaf token => token
  | node _ symbol _ => symbol

mutual

/-- The tokens at the leaves, from left to right. -/
def ParseTree.leaves : ParseTree → List Symbol
  | .leaf token => [token]
  | .node _ _ children => ParseForest.leaves children

/-- The tokens at the leaves of all trees, from left to right. -/
def ParseForest.leaves : ParseForest → List Symbol
  | [] => []
  | t :: ts => t.leaves ++ ParseForest.leaves ts

end

mutual

/-- The visits of a walk that comes to every node after its children. -/
def ParseTree.postorder : ParseTree → List Visit
  | .leaf token => [.shift token]
  | .node rule symbol children =>
    ParseForest.postorder children ++ [.reduce rule symbol (2 * children.length)]

/-- The visits of a walk through all trees, from left to right. -/
def ParseForest.postorder : ParseForest → List Visit
  | [] => []
  | t :: ts => t.postorder ++ ParseForest.postorder ts

end

/-- Every inner node carries a rule of the model, the symbol on the left of its production, and as
    many children as there are symbols on the right. -/
inductive ParseTree.Fits (M : Model) : ParseTree → Prop
  /-- Any token may stand at a leaf. -/
  | leaf (token : Symbol) : Fits M (.leaf token)
  /-- An inner node is built by a production of the model. -/
  | node {rule : RuleId} {p : Production} {children : List ParseTree}
      (hproduction : M.productions.get? rule = some p)
      (hlength : children.length = p.rhs.length) (hchildren : ∀ t ∈ children, Fits M t) :
      Fits M (.node rule p.lhs children)

namespace ParseForest

theorem leaves_append (ts us : ParseForest) : leaves (ts ++ us) = leaves ts ++ leaves us := by
  induction ts with
  | nil => rfl
  | cons t ts ih => rw [List.cons_append, leaves, ih, leaves, List.append_assoc]

theorem postorder_append (ts us : ParseForest) :
    postorder (ts ++ us) = postorder ts ++ postorder us := by
  induction ts with
  | nil => rfl
  | cons t ts ih => rw [List.cons_append, postorder, ih, postorder, List.append_assoc]

theorem leaves_concat (ts : ParseForest) (t : ParseTree) :
    leaves (ts ++ [t]) = leaves ts ++ t.leaves := by
  rw [leaves_append, leaves, leaves, List.append_nil]

theorem postorder_concat (ts : ParseForest) (t : ParseTree) :
    postorder (ts ++ [t]) = postorder ts ++ t.postorder := by
  rw [postorder_append, postorder, postorder, List.append_nil]

end ParseForest

/-! ## The forest of a run -/

/-- A transition as the visit to a node of a forest. -/
def Transition.visit : Transition → Visit
  | .shift _ token _ _ => .shift token
  | .reduce _ rule lhs popped _ _ => .reduce rule lhs popped

namespace Machine

variable {M : Model} {tokens : List Symbol} {m m' : Machine} {history : List Transition}

/-- The forest that a machine has built in the course of a history. -/
structure Grows (m : Machine) (history : List Transition) (forest : ParseForest) : Prop where
  /-- The roots are the symbols on the stack. -/
  roots : forest.map ParseTree.symbol = m.stack.symbols
  /-- The leaves are the tokens in front of the cursor. -/
  leaves : ParseForest.leaves forest = m.tokens.take m.cursor
  /-- The trees are built from productions of the model. -/
  fits : ∀ t ∈ forest, t.Fits m.model
  /-- A walk through the forest is the history. -/
  postorder : ParseForest.postorder forest = history.map Transition.visit

theorem Grows.shift {forest : ParseForest} (h : m.Grows history forest) {token : Symbol}
    (htoken : m.lookahead = some token) (state destination : StateId) (source : Source) :
    Grows { m with stack := m.stack.push token destination, cursor := m.cursor + 1 }
      (history ++ [.shift state token destination source]) (forest ++ [.leaf token]) where
  roots := by simp [h.roots, ParseTree.symbol]
  leaves := by
    rw [ParseForest.leaves_concat, h.leaves]
    exact (take_cursor_succ htoken).symm
  fits := by
    intro t ht
    rcases List.mem_append.1 ht with ht | ht
    · exact h.fits t ht
    · obtain rfl := List.mem_singleton.1 ht
      exact .leaf token
  postorder := by
    rw [ParseForest.postorder_concat, h.postorder, List.map_append]
    rfl

/-- The trees over what a reduction takes off become the children of a new root. -/
theorem Grows.reduce {forest : ParseForest} (h : m.Grows history forest) {rule : RuleId}
    {p : Production} {exposed : Stack} (hproduction : m.model.productions.get? rule = some p)
    (hpop : m.stack.pop? p.arity = some exposed) (state goto : StateId) (source : Source) :
    ∃ forest', Grows { m with stack := exposed.push p.lhs goto }
      (history ++ [.reduce state rule p.lhs (2 * p.arity) goto source]) forest' := by
  -- the roots over the popped symbols are the last ones, one for each pair
  obtain ⟨popped, hlength, hsymbols⟩ := Stack.symbols_of_pop? hpop
  obtain ⟨kept, children, rfl, hkept, hchildren⟩ :=
    List.map_eq_append_iff.1 (h.roots.trans hsymbols)
  have hcount : children.length = p.arity := by
    rw [← hlength, ← hchildren, List.length_map]
  refine ⟨kept ++ [.node rule p.lhs children], ?_, ?_, ?_, ?_⟩
  · simp [hkept, ParseTree.symbol]
  · rw [ParseForest.leaves_concat, ParseTree.leaves, ← ParseForest.leaves_append]
    exact h.leaves
  · intro t ht
    rcases List.mem_append.1 ht with ht | ht
    · exact h.fits t (List.mem_append_left _ ht)
    · obtain rfl := List.mem_singleton.1 ht
      exact .node hproduction hcount fun t ht => h.fits t (List.mem_append_right _ ht)
  · rw [ParseForest.postorder_concat, ParseTree.postorder, ← List.append_assoc,
      ← ParseForest.postorder_append, h.postorder, List.map_append, hcount]
    rfl

theorem Grows.advance {forest : ParseForest} (h : m.Grows history forest) {t : Transition}
    (hstep : m.Advance m' t) : ∃ forest', m'.Grows (history ++ [t]) forest' := by
  cases hstep with
  | shift hconsults => exact ⟨_, h.shift hconsults.lookahead _ _ _⟩
  | reduce _ _ hproduction hpop => exact h.reduce hproduction hpop _ _ _

/-- **Every run builds a forest**, whatever the tables hold and wherever overrides are switched. As
    long as all steps go on, there are trees over the tokens in front of the cursor whose roots are
    the symbols on the stack, built from productions of the model, and a postorder walk through them
    is the history of the run. -/
theorem exists_forest (M : Model) (tokens : List Symbol) (ops : List Operation)
    (history : List Transition) (h : (start M tokens).outcomes ops = history.map .next) :
    ∃ forest : ParseForest,
      forest.map ParseTree.symbol = ((start M tokens).session ops).stack.symbols ∧
      forest.leaves = tokens.take ((start M tokens).session ops).cursor ∧
      (∀ t ∈ forest, t.Fits M) ∧
      forest.postorder = history.map Transition.visit := by
  have hgrows : ∃ forest, ((start M tokens).session ops).Grows history forest := by
    refine history_induction (P := fun m history => ∃ forest, m.Grows history forest) ?_ ?_ ?_ h
    · exact ⟨[], rfl, rfl, List.forall_mem_nil _, rfl⟩
    · rintro m history enabled ⟨forest, hm⟩
      exact ⟨forest, hm.roots, hm.leaves, hm.fits, hm.postorder⟩
    · rintro m m' t history - ⟨forest, hm⟩ hstep
      exact hm.advance hstep
  obtain ⟨forest, hforest⟩ := hgrows
  have hrun := isRunOf_session M tokens ops
  have hleaves := hforest.leaves
  have hfits := hforest.fits
  rw [hrun.tokens] at hleaves
  rw [hrun.model] at hfits
  exact ⟨forest, hforest.roots, hleaves, hfits, hforest.postorder⟩

/-- A model whose only production has nothing to do with what its reduction takes off. -/
def mismatched : Model where
  table := Table.ofCells [
    (⟨⟨"1"⟩, "a"⟩, .single (.shift ⟨"2"⟩)),
    (⟨⟨"2"⟩, "b"⟩, .single (.mergedShift ⟨"3"⟩)),
    (⟨⟨"3"⟩, "$"⟩, .single (.reduce ⟨"7"⟩)),
    (⟨⟨"1"⟩, "S"⟩, .single (.goto ⟨"3"⟩))]
  productions := SortedMap.ofList [(⟨"7"⟩, ⟨"S", ["x", "y"]⟩)]

/-- The tokens a b are read as x y all the same. -/
theorem exists_forest_of_mismatched :
    (start mismatched ["a", "b", "$"]).outcomes [.step, .switch false, .step, .step] =
      [.shift ⟨"1"⟩ "a" ⟨"2"⟩ .primary, .shift ⟨"2"⟩ "b" ⟨"3"⟩ .primary,
        .reduce ⟨"3"⟩ ⟨"7"⟩ "S" 4 ⟨"3"⟩ .primary].map .next ∧
    ∃ forest : ParseForest, forest.map ParseTree.symbol = ["S"] ∧ forest.leaves = ["a", "b"] ∧
      (∀ t ∈ forest, t.Fits mismatched) ∧
      forest.postorder = [.shift "a", .shift "b", .reduce ⟨"7"⟩ "S" 4] := by
  have hhistory : (start mismatched ["a", "b", "$"]).outcomes
        [.step, .switch false, .step, .step] =
      [.shift ⟨"1"⟩ "a" ⟨"2"⟩ .primary, .shift ⟨"2"⟩ "b" ⟨"3"⟩ .primary,
        .reduce ⟨"3"⟩ ⟨"7"⟩ "S" 4 ⟨"3"⟩ .primary].map .next := by decide
  exact ⟨hhistory, exists_forest mismatched ["a", "b", "$"] _ _ hhistory⟩

end Machine

end ShiftReduce
