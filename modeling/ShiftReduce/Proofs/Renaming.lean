import Mathlib.Logic.Embedding.Basic
import ShiftReduce.Proofs.Lookup

/-!
# Renamed models

States, rules and symbols are opaque names: a model may be rewritten with other names, as long as
different names stay different. Renaming changes the order of the names, and with it the order of
the cells, so that a renamed table is sorted anew.

* `Renaming`: new names for states, rules and symbols.
* `SortedMap.mapEntries`: a map with other keys and values.
* `Model.rename`: a model with other names.

Results:
* `SortedMap.get?_mapEntries`: a look-up at a new key finds what was at the old one, whatever the
  order of the keys.
* `Model.lookupAction_rename`, `Model.lookupGoto_rename`, `Model.lookupProduction_rename`: a renamed
  model gives renamed answers.
-/

namespace ShiftReduce

/-! ## Maps with other keys -/

section MapEntries

variable {κ β κ' β' : Type} [DecidableEq κ] [DecidableEq κ']

namespace SortedMap

variable [LT κ] [KeyOrder κ] [LT κ'] [DecidableLT κ'] [KeyOrder κ']

/-- The map with `f` applied to the keys and `g` to the values, sorted anew. -/
def mapEntries (m : SortedMap κ β) (f : κ → κ') (g : β → β') : SortedMap κ' β' :=
  ofList (m.entries.map (Prod.map f g))

/-- If different keys stay different, a look-up at a new key finds what was at the old one. -/
theorem get?_mapEntries {f : κ → κ'} (hf : Function.Injective f) (g : β → β')
    (m : SortedMap κ β) (key : κ) : (m.mapEntries f g).get? (f key) = (m.get? key).map g := by
  have hdistinct : (m.entries.map (Prod.map f g)).Pairwise (fun a b => a.1 ≠ b.1) := by
    rw [List.pairwise_map]
    exact m.entries_distinct.imp fun hne => hf.ne hne
  rw [mapEntries, ofList, get?_foldl_insert hdistinct, lookupEntry_map hf, get?_empty,
    Option.or_none]
  rfl

end SortedMap

end MapEntries

/-! ## New names -/

/-- New names for states, rules and symbols. Different names stay different. -/
structure Renaming where
  /-- The new names of states. -/
  state : StateId ↪ StateId
  /-- The new names of rules. -/
  rule : RuleId ↪ RuleId
  /-- The new names of symbols. -/
  symbol : Symbol ↪ Symbol

variable (r : Renaming)

/-- The action with other names. The texts of entries that cannot be executed stay as they are. -/
def Action.rename : Action → Action
  | shift destination => shift (r.state destination)
  | reduce rule => reduce (r.rule rule)
  | mergedShift destination => mergedShift (r.state destination)
  | mergedReduce rule => mergedReduce (r.rule rule)
  | goto destination => goto (r.state destination)
  | accept => accept
  | malformed actionType detail => malformed actionType detail
  | unknown actionType => unknown actionType

/-- The cell with other names, in all candidates of a conflict. -/
def Cell.rename : Cell → Cell
  | single action => single (action.rename r)
  | conflict candidates => conflict (candidates.map (·.rename r))

/-- The site with other names of its row and column. -/
def Site.rename (site : Site) : Site := ⟨r.state site.state, r.symbol site.symbol⟩

/-- The table with other names. -/
def Table.rename (t : Table) : Table := ⟨t.map.mapEntries (·.rename r) (·.rename r)⟩

/-- The production with other names. -/
def Production.rename (p : Production) : Production := ⟨r.symbol p.lhs, p.rhs.map r.symbol⟩

/-- The model with other names. -/
def Model.rename (M : Model) : Model where
  table := M.table.rename r
  productions := M.productions.mapEntries r.rule (·.rename r)
  overrides := M.overrides.map (·.rename r)
  startState := r.state M.startState

/-- The fault with other names. Counts and positions stay as they are. -/
def Fault.rename : Fault → Fault
  | missingProduction rule => missingProduction (r.rule rule)
  | missingGoto state symbol => missingGoto (r.state state) (r.symbol symbol)
  | stackUnderflow rule needed available => stackUnderflow (r.rule rule) needed available
  | inputExhausted position => inputExhausted position

/-- The answer with other names. -/
def Lookup.rename : Lookup → Lookup
  | found action source => found (action.rename r) source
  | conflict candidates => conflict (candidates.map (·.rename r))
  | unresolvedOverride candidates => unresolvedOverride (candidates.map (·.rename r))
  | notFound => notFound

variable {r}

theorem Site.rename_injective : Function.Injective (Site.rename r) := by
  rintro ⟨s, X⟩ ⟨s', X'⟩ h
  have hs : s = s' := r.state.injective (congrArg Site.state h)
  have hX : X = X' := r.symbol.injective (congrArg Site.symbol h)
  rw [hs, hX]

theorem Production.arity_rename (p : Production) : (p.rename r).arity = p.arity := by
  simp [arity, rename]

theorem Table.get?_rename (t : Table) (s : StateId) (X : Symbol) :
    (t.rename r).get? (r.state s) (r.symbol X) = (t.get? s X).map (·.rename r) :=
  SortedMap.get?_mapEntries Site.rename_injective _ t.map ⟨s, X⟩

namespace Model

variable (M : Model) (s : StateId) (X : Symbol) (enabled : Bool)

/-! ## Answers of a renamed model -/

theorem overrideCell?_rename :
    (M.rename r).overrideCell? enabled (r.state s) (r.symbol X) =
      (M.overrideCell? enabled s X).map (·.rename r) := by
  cases enabled with
  | false => rfl
  | true =>
    show (M.overrides.map (·.rename r)).bind (fun o => o.get? (r.state s) (r.symbol X)) =
      (M.overrides.bind fun o => o.get? s X).map (·.rename r)
    cases M.overrides with
    | none => rfl
    | some o => exact o.get?_rename s X

theorem lookupAction_rename :
    (M.rename r).lookupAction (r.state s) (r.symbol X) enabled =
      (M.lookupAction s X enabled).rename r := by
  have hprimary : (M.rename r).table.get? (r.state s) (r.symbol X) =
      (M.table.get? s X).map (·.rename r) := M.table.get?_rename s X
  rw [lookupAction, lookupAction, overrideCell?_rename, hprimary]
  rcases M.overrideCell? enabled s X with _ | _ | _
  · rcases M.table.get? s X with _ | _ | _ <;> rfl
  · rfl
  · rfl

/-- A transition is found under new names if and only if it was found under the old ones, and a
    missing one is reported under the new names. -/
theorem lookupGoto_rename :
    (M.rename r).lookupGoto (r.state s) (r.symbol X) =
      ((M.lookupGoto s X).map r.state).mapError (·.rename r) := by
  have hprimary : (M.rename r).table.get? (r.state s) (r.symbol X) =
      (M.table.get? s X).map (·.rename r) := M.table.get?_rename s X
  rw [lookupGoto, lookupGoto, hprimary]
  rcases M.table.get? s X with _ | action | _
  · rfl
  · cases action <;> rfl
  · rfl

theorem lookupProduction_rename (rule : RuleId) :
    (M.rename r).lookupProduction (r.rule rule) =
      ((M.lookupProduction rule).map (·.rename r)).mapError (·.rename r) := by
  have hproduction : (M.rename r).productions.get? (r.rule rule) =
      (M.productions.get? rule).map (·.rename r) :=
    SortedMap.get?_mapEntries r.rule.injective _ M.productions rule
  rw [lookupProduction, lookupProduction, hproduction]
  cases M.productions.get? rule <;> rfl

end Model

end ShiftReduce
