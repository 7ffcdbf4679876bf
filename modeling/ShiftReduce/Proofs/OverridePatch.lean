import ShiftReduce.Proofs.InternalFaults
import ShiftReduce.Proofs.Locality

/-!
# Overrides as a patch

An override cell stands in the place of the primary cell at its site when an action is looked up,
and has no say in transitions after reductions. So, where no override cell is in the column of a
left side, overrides in force are a patch of the primary table. Overrides that are not in force are
no overrides.

Results:
* `Model.lookupAction_patched`, `Model.lookupGoto_patched`: the answers of the patched model.
* `Machine.patched_run`: the runs with overrides and the runs of the patched model.
-/

namespace ShiftReduce

namespace Model

/-! ## The patched model -/

/-- The model whose primary table has every cell of the override table inserted, and which has no
    override table. -/
def patched (M : Model) : Model :=
  { M with table := M.table.insertAll (M.overrides.elim [] Table.cells), overrides := none }

/-- The model without its override table. -/
def withoutOverrides (M : Model) : Model := { M with overrides := none }

/-- The cells of the override table are single actions, and none of them is in the column of a left
    side. -/
structure Patchable (M : Model) : Prop where
  /-- No cell of the override table holds a list of candidates. -/
  single {o : Table} {s : StateId} {X : Symbol} {c : Cell} (ho : M.overrides = some o)
    (h : o.get? s X = some c) : c.isConflict = false
  /-- No cell of the override table is in the column of a left side. -/
  column {o : Table} {s : StateId} {X : Symbol} {c : Cell} (ho : M.overrides = some o)
    (h : o.get? s X = some c) {rule : RuleId} {p : Production}
    (hp : M.productions.get? rule = some p) : p.lhs ≠ X

variable {M : Model} {s : StateId} {X : Symbol}

theorem patchable_iff :
    M.Patchable ↔ ∀ o ∈ M.overrides, ∀ c ∈ o.cells, c.2.isConflict = false ∧
      ∀ e ∈ M.productions.entries, e.2.lhs ≠ c.1.symbol := by
  constructor
  · intro h o ho c hc
    have hget := Table.get?_eq_some_iff.2 hc
    exact ⟨h.single ho hget, fun e he => h.column ho hget (SortedMap.get?_eq_some_iff.2 he)⟩
  · intro h
    refine ⟨fun {o s X c} ho hget => ?_, fun {o s X c} ho hget {rule p} hp => ?_⟩
    · exact (h o ho (⟨s, X⟩, c) (Table.get?_eq_some_iff.1 hget)).1
    · exact (h o ho (⟨s, X⟩, c) (Table.get?_eq_some_iff.1 hget)).2 (rule, p)
        (SortedMap.get?_eq_some_iff.1 hp)

instance : Decidable M.Patchable := decidable_of_iff _ patchable_iff.symm

/-- The patched table has the override cell where there is one. -/
theorem get?_patched (M : Model) (s : StateId) (X : Symbol) :
    M.patched.table.get? s X = (M.overrideCell? true s X).or (M.table.get? s X) := by
  rw [patched, overrideCell?, if_pos rfl]
  cases M.overrides with
  | none => rfl
  | some o => exact Table.get?_insertAll o.map.entries_distinct M.table s X

theorem overrideCell?_false (M : Model) (s : StateId) (X : Symbol) :
    M.overrideCell? false s X = none := rfl

theorem overrideCell?_of_none (h : M.overrides = none) (enabled : Bool) :
    M.overrideCell? enabled s X = none := by
  cases enabled with
  | false => rfl
  | true => rw [overrideCell?, if_pos rfl, h, Option.bind_none]

/-- What to do is the same, but all of it is found in the primary table. -/
theorem lookupAction_patched (h : M.Patchable) (enabled : Bool) :
    M.patched.lookupAction s X enabled =
      (M.lookupAction s X true).relabel fun _ => .primary := by
  rw [lookupAction, overrideCell?_of_none rfl, lookupAction, get?_patched]
  cases hcell : M.overrideCell? true s X with
  | none => rcases hprimary : M.table.get? s X with _ | _ | _ <;> simp [Lookup.relabel]
  | some c =>
    obtain ⟨-, o, ho, hget⟩ := overrideCell?_eq_some_iff.1 hcell
    have hsingle := h.single ho hget
    cases c with
    | single action => rfl
    | conflict candidates => cases hsingle

/-- Transitions after reductions are the same. -/
theorem lookupGoto_patched (h : M.Patchable) {rule : RuleId} {p : Production}
    (hp : M.productions.get? rule = some p) :
    M.patched.lookupGoto s p.lhs = M.lookupGoto s p.lhs := by
  have hnone : M.overrideCell? true s p.lhs = none := by
    cases hcell : M.overrideCell? true s p.lhs with
    | none => rfl
    | some c =>
      obtain ⟨-, o, ho, hget⟩ := overrideCell?_eq_some_iff.1 hcell
      exact absurd rfl (h.column ho hget hp)
  rw [lookupGoto, get?_patched, hnone, Option.none_or, lookupGoto]

/-- Overrides that are not in force are no overrides. -/
theorem lookupAction_withoutOverrides (enabled : Bool) :
    M.withoutOverrides.lookupAction s X enabled = M.lookupAction s X false := by
  rw [lookupAction, overrideCell?_of_none rfl, lookupAction, overrideCell?_false]
  rfl

end Model

namespace Machine

variable {m : Machine}

/-! ## Runs with and without overrides -/

theorem answersLike_patched (h : m.model.Patchable) (henabled : m.useOverrides = true)
    (enabled : Bool) :
    m.AnswersLike (fun _ => .primary) m.model.patched m.tokens enabled where
  lookahead _ := rfl
  action token _ _ := by
    rw [henabled]
    exact Model.lookupAction_patched h enabled
  production _ _ := rfl
  goto _ _ _ _ hp _ := Model.lookupGoto_patched h hp

theorem answersLike_withoutOverrides (hdisabled : m.useOverrides = false) (enabled : Bool) :
    m.AnswersLike id m.model.withoutOverrides m.tokens enabled where
  lookahead _ := rfl
  action token _ _ := by
    rw [hdisabled, Lookup.relabel_id]
    exact Model.lookupAction_withoutOverrides enabled
  production _ _ := rfl
  goto _ _ _ _ _ _ := rfl

/-- **Overrides are a patch of the table.** Let the cells of the override table be single actions
    outside the columns of left sides. Then a run with overrides in force and a run of the patched
    model are at the same point after any number of steps, and their next steps are the same, but
    for the label of the table. Without any condition, a run with overrides switched off and a run
    of the model without its override table are at the same point, and their next steps are the
    same, labels included. -/
theorem patched_run (M : Model) (tokens : List Symbol) :
    (M.Patchable → ∀ enabled n,
      ((fresh M tokens true).after n).SamePoint ((fresh M.patched tokens enabled).after n) ∧
      ((fresh M.patched tokens enabled).after n).step.2 =
        ((fresh M tokens true).after n).step.2.relabel fun _ => .primary) ∧
    ∀ enabled n,
      ((fresh M tokens false).after n).SamePoint
        ((fresh M.withoutOverrides tokens enabled).after n) ∧
      ((fresh M.withoutOverrides tokens enabled).after n).step.2 =
        ((fresh M tokens false).after n).step.2 := by
  constructor
  · intro hpatchable enabled n
    have hanswers : ∀ k, ((fresh M tokens true).after k).AnswersLike (fun _ => .primary) M.patched
        tokens enabled := by
      intro k
      have hk := answersLike_patched (m := (fresh M tokens true).after k)
        (by rw [model_after]; exact hpatchable) (useOverrides_after _ k) enabled
      rwa [model_after, tokens_after] at hk
    exact run_transfer hanswers n
  · intro enabled n
    have hanswers : ∀ k, ((fresh M tokens false).after k).AnswersLike id M.withoutOverrides
        tokens enabled := by
      intro k
      have hk := answersLike_withoutOverrides (m := (fresh M tokens false).after k)
        (useOverrides_after _ k) enabled
      rwa [model_after, tokens_after] at hk
    have hrun := run_transfer hanswers n
    rwa [Step.relabel_id] at hrun

/-- The conflict at the letter b is settled by the override, and by the patch in its place. -/
theorem patched_run_optionalLetter :
    optionalLetter.Patchable ∧
    (fresh optionalLetter ["b", "$"] true).step.2 =
      .next (.reduce ⟨"1"⟩ ⟨"0"⟩ "A" 0 ⟨"3"⟩ .override) ∧
    (fresh optionalLetter.patched ["b", "$"] false).step.2 =
      .next (.reduce ⟨"1"⟩ ⟨"0"⟩ "A" 0 ⟨"3"⟩ .primary) ∧
    ∀ enabled n,
      ((fresh optionalLetter ["b", "$"] true).after n).SamePoint
        ((fresh optionalLetter.patched ["b", "$"] enabled).after n) := by
  have hpatchable : optionalLetter.Patchable := by decide
  have hstep : (fresh optionalLetter ["b", "$"] true).step.2 =
      .next (.reduce ⟨"1"⟩ ⟨"0"⟩ "A" 0 ⟨"3"⟩ .override) := by decide
  have hruns := (patched_run optionalLetter ["b", "$"]).1 hpatchable
  refine ⟨hpatchable, hstep, ?_, fun enabled n => (hruns enabled n).1⟩
  have hfirst := (hruns false 0).2
  simp only [after_zero, hstep] at hfirst
  exact hfirst

end Machine

end ShiftReduce
