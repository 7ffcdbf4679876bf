import Mathlib.Tactic.Common
import ShiftReduce.Model

/-!
# Look-ups and the cells behind them

Every answer of a look-up is traced back to the cells of the two tables.

Results:
* `SortedMap.get?_eq_some_iff`: a look-up in a finite map finds exactly the entries of the map.
* `SortedMap.get?_foldl_insert`, `SortedMap.size_foldl_insert`: what a look-up finds after several
  insertions, and how many entries there are then.
* `Table.get?_insertAll`: inserted cells hide those that were there before.
* `Model.lookupAction_eq_found_iff` and its companions: the exact condition of each answer to the
  question what to do in a state at a token.
* `Model.lookupGoto_eq_ok_iff`, `Model.lookupGoto_eq_error_iff`: when there is a transition after a
  reduction, and what is reported when there is none.
-/

namespace ShiftReduce

/-! ## Entries of finite maps -/

section Entries

variable {κ β : Type} [LT κ] [DecidableEq κ]

omit [LT κ] in
theorem mem_of_lookupEntry {key : κ} {value : β} {entries : List (κ × β)}
    (h : lookupEntry key entries = some value) : (key, value) ∈ entries := by
  induction entries with
  | nil => cases h
  | cons head rest ih =>
    obtain ⟨k, v⟩ := head
    rw [lookupEntry] at h
    split_ifs at h with hk
    · cases h
      subst hk
      exact List.mem_cons_self
    · exact List.mem_cons_of_mem _ (ih h)

omit [DecidableEq κ] in
/-- Increasing keys are different. -/
theorem distinct_of_sorted [KeyOrder κ] {entries : List (κ × β)}
    (hsorted : entries.Pairwise (fun a b => a.1 < b.1)) :
    entries.Pairwise (fun a b => a.1 ≠ b.1) := by
  refine hsorted.imp fun {a b} hlt heq => ?_
  rw [heq] at hlt
  exact KeyOrder.lt_irrefl b.1 hlt

omit [LT κ] in
/-- If the keys are different, every entry is found. -/
theorem lookupEntry_of_mem {key : κ} {value : β} {entries : List (κ × β)}
    (hdistinct : entries.Pairwise (fun a b => a.1 ≠ b.1)) (h : (key, value) ∈ entries) :
    lookupEntry key entries = some value := by
  induction entries with
  | nil => cases h
  | cons head rest ih =>
    obtain ⟨k, v⟩ := head
    obtain ⟨hhead, hrest⟩ := List.pairwise_cons.1 hdistinct
    rw [lookupEntry]
    rcases List.mem_cons.1 h with h | h
    · cases h
      rw [if_pos rfl]
    · have hne : k ≠ key := hhead _ h
      rw [if_neg hne.symm]
      exact ih hrest h

omit [LT κ] in
theorem lookupEntry_eq_none {key : κ} {entries : List (κ × β)} (h : ∀ e ∈ entries, e.1 ≠ key) :
    lookupEntry key entries = none := by
  cases hvalue : lookupEntry key entries with
  | none => rfl
  | some value => exact absurd rfl (h _ (mem_of_lookupEntry hvalue))

omit [LT κ] in
/-- Under new keys that stay different, and new values, everything is found as before. -/
theorem lookupEntry_map {κ' β' : Type} [DecidableEq κ'] {f : κ → κ'}
    (hf : Function.Injective f) (g : β → β') (key : κ) (entries : List (κ × β)) :
    lookupEntry (f key) (entries.map (Prod.map f g)) = (lookupEntry key entries).map g := by
  induction entries with
  | nil => rfl
  | cons head rest ih =>
    obtain ⟨k, v⟩ := head
    show (if f key = f k then some (g v) else lookupEntry (f key) (rest.map (Prod.map f g))) =
      (if key = k then some v else lookupEntry key rest).map g
    by_cases hk : key = k
    · subst hk
      rw [if_pos rfl, if_pos rfl, Option.map_some]
    · rw [if_neg (hf.ne hk), if_neg hk, ih]

namespace SortedMap

variable [DecidableLT κ] [KeyOrder κ] {m : SortedMap κ β} {key : κ} {value : β}

omit [DecidableEq κ] [DecidableLT κ] in
/-- No two entries have the same key. -/
theorem entries_distinct (m : SortedMap κ β) : m.entries.Pairwise (fun a b => a.1 ≠ b.1) :=
  distinct_of_sorted m.sorted

omit [DecidableLT κ] in
/-- A look-up finds exactly the entries of the map. -/
theorem get?_eq_some_iff : m.get? key = some value ↔ (key, value) ∈ m.entries :=
  ⟨mem_of_lookupEntry, lookupEntry_of_mem m.entries_distinct⟩

/-- Pairs with different keys, inserted one after the other, hide what was there before at their
    keys, and nothing else. -/
theorem get?_foldl_insert {pairs : List (κ × β)}
    (hdistinct : pairs.Pairwise (fun a b => a.1 ≠ b.1)) (m : SortedMap κ β) (key : κ) :
    (pairs.foldl (fun m p => m.insert p.1 p.2) m).get? key =
      (lookupEntry key pairs).or (m.get? key) := by
  induction pairs generalizing m with
  | nil => rfl
  | cons head rest ih =>
    obtain ⟨k, v⟩ := head
    obtain ⟨hhead, hrest⟩ := List.pairwise_cons.1 hdistinct
    rw [List.foldl_cons, ih hrest, lookupEntry]
    by_cases hk : key = k
    · subst hk
      rw [if_pos rfl, lookupEntry_eq_none fun e he => (hhead e he).symm, get?_insert_self]
      rfl
    · rw [if_neg hk, get?_insert_of_ne m hk]

theorem get?_insert_eq_none_iff {other : κ} :
    (m.insert key value).get? other = none ↔ other ≠ key ∧ m.get? other = none := by
  by_cases hother : other = key
  · subst hother
    simp
  · rw [get?_insert_of_ne m hother]
    exact (and_iff_right hother).symm

/-- An insertion at a new key adds one entry. -/
theorem size_insert_of_none (h : m.get? key = none) (value : β) :
    (m.insert key value).size = m.size + 1 := by
  have hentries : ∀ entries : List (κ × β), lookupEntry key entries = none →
      (insertEntry key value entries).length = entries.length + 1 := by
    intro entries hnone
    induction entries with
    | nil => rfl
    | cons head rest ih =>
      obtain ⟨k, v⟩ := head
      rw [lookupEntry] at hnone
      split_ifs at hnone with hk
      rw [insertEntry, if_neg hk]
      split_ifs
      · rfl
      · rw [List.length_cons, ih hnone, List.length_cons]
  exact hentries m.entries h

/-- Pairs with different keys that are all new add one entry each. -/
theorem size_foldl_insert {pairs : List (κ × β)}
    (hdistinct : pairs.Pairwise (fun a b => a.1 ≠ b.1)) (hnew : ∀ p ∈ pairs, m.get? p.1 = none) :
    (pairs.foldl (fun m p => m.insert p.1 p.2) m).size = m.size + pairs.length := by
  induction pairs generalizing m with
  | nil => rfl
  | cons head rest ih =>
    obtain ⟨hhead, hrest⟩ := List.pairwise_cons.1 hdistinct
    have hstill : ∀ p ∈ rest, (m.insert head.1 head.2).get? p.1 = none := by
      intro p hp
      rw [get?_insert_of_ne m (hhead p hp).symm]
      exact hnew p (List.mem_cons_of_mem head hp)
    rw [List.foldl_cons, ih hrest hstill, size_insert_of_none (hnew head List.mem_cons_self),
      List.length_cons]
    omega

end SortedMap

end Entries

/-! ## Cells of tables -/

theorem Table.get?_eq_some_iff {t : Table} {state : StateId} {symbol : Symbol} {cell : Cell} :
    t.get? state symbol = some cell ↔ (⟨state, symbol⟩, cell) ∈ t.cells :=
  SortedMap.get?_eq_some_iff

namespace Table

/-- A row has no cell beside its columns. -/
theorem get?_eq_none_of_columns {t : Table} {s : StateId} {X : Symbol} {columns : List Symbol}
    (hrow : ∀ c ∈ t.cells, c.1.state = s → c.1.symbol ∈ columns) (hX : X ∉ columns) :
    t.get? s X = none := by
  cases hcell : t.get? s X with
  | none => rfl
  | some cell => exact absurd (hrow _ (Table.get?_eq_some_iff.1 hcell) rfl) hX

/-- The table with the cells of a list inserted one after the other. -/
def insertAll (t : Table) (cells : List (Site × Cell)) : Table :=
  cells.foldl (fun t c => t.insert c.1.state c.1.symbol c.2) t

theorem map_insertAll (cells : List (Site × Cell)) (t : Table) :
    (t.insertAll cells).map = cells.foldl (fun m c => m.insert c.1 c.2) t.map := by
  induction cells generalizing t with
  | nil => rfl
  | cons c cells ih => exact ih (t.insert c.1.state c.1.symbol c.2)

/-- Cells at different sites hide those that were there before, and no others. -/
theorem get?_insertAll {cells : List (Site × Cell)}
    (hdistinct : cells.Pairwise (fun a b => a.1 ≠ b.1)) (t : Table) (s : StateId) (X : Symbol) :
    (t.insertAll cells).get? s X = (lookupEntry ⟨s, X⟩ cells).or (t.get? s X) := by
  rw [get?, map_insertAll, SortedMap.get?_foldl_insert hdistinct]
  rfl

/-- A table that is made of cells at different sites has these cells. -/
theorem get?_ofCells {cells : List (Site × Cell)}
    (hdistinct : cells.Pairwise (fun a b => a.1 ≠ b.1)) (s : StateId) (X : Symbol) :
    (ofCells cells).get? s X = lookupEntry ⟨s, X⟩ cells :=
  (get?_insertAll hdistinct empty s X).trans (Option.or_none)

theorem size_ofCells {cells : List (Site × Cell)}
    (hdistinct : cells.Pairwise (fun a b => a.1 ≠ b.1)) : (ofCells cells).size = cells.length := by
  have hmap : (ofCells cells).map = cells.foldl (fun m c => m.insert c.1 c.2) SortedMap.empty :=
    map_insertAll cells empty
  rw [size, hmap, SortedMap.size_foldl_insert hdistinct fun _ _ => rfl]
  exact Nat.zero_add _

end Table

/-! ## Kinds of actions -/

namespace Action

/-- The destination of an action that consumes a token. -/
def shiftTarget? : Action → Option StateId
  | shift destination => some destination
  | mergedShift destination => some destination
  | _ => none

/-- The rule of an action that reduces. -/
def reduceRule? : Action → Option RuleId
  | reduce rule => some rule
  | mergedReduce rule => some rule
  | _ => none

/-- The destination of an action that serves as a transition after a reduction. A merged entry does
    not serve. -/
def gotoTarget? : Action → Option StateId
  | goto destination => some destination
  | shift destination => some destination
  | _ => none

end Action

namespace Model

variable {M : Model} {state : StateId} {token : Symbol} {useOverrides : Bool}

/-! ## Actions on tokens -/

theorem overrideCell?_eq_some_iff {cell : Cell} :
    M.overrideCell? useOverrides state token = some cell ↔
      useOverrides = true ∧ ∃ o, M.overrides = some o ∧ o.get? state token = some cell := by
  unfold overrideCell?
  cases useOverrides <;> simp [Option.bind_eq_some_iff]

theorem lookupAction_eq_found_iff {action : Action} {source : Source} :
    M.lookupAction state token useOverrides = .found action source ↔
      (source = .override ∧ M.overrideCell? useOverrides state token = some (.single action)) ∨
      (source = .primary ∧ M.overrideCell? useOverrides state token = none ∧
        M.table.get? state token = some (.single action)) := by
  unfold lookupAction
  rcases M.overrideCell? useOverrides state token with _ | _ | _
  · rcases M.table.get? state token with _ | _ | _ <;> simp [and_comm, eq_comm]
  · simp [and_comm, eq_comm]
  · simp

theorem lookupAction_eq_notFound_iff :
    M.lookupAction state token useOverrides = .notFound ↔
      M.overrideCell? useOverrides state token = none ∧ M.table.get? state token = none := by
  unfold lookupAction
  rcases M.overrideCell? useOverrides state token with _ | _ | _
  · rcases M.table.get? state token with _ | _ | _ <;> simp
  · simp
  · simp

theorem lookupAction_eq_conflict_iff {candidates : List Action} :
    M.lookupAction state token useOverrides = .conflict candidates ↔
      M.overrideCell? useOverrides state token = none ∧
        M.table.get? state token = some (.conflict candidates) := by
  unfold lookupAction
  rcases M.overrideCell? useOverrides state token with _ | _ | _
  · rcases M.table.get? state token with _ | _ | _ <;> simp
  · simp
  · simp

theorem lookupAction_eq_unresolvedOverride_iff {candidates : List Action} :
    M.lookupAction state token useOverrides = .unresolvedOverride candidates ↔
      M.overrideCell? useOverrides state token = some (.conflict candidates) := by
  unfold lookupAction
  rcases M.overrideCell? useOverrides state token with _ | _ | _
  · rcases M.table.get? state token with _ | _ | _ <;> simp
  · simp
  · simp

/-- One of the tables of `M` holds `action`, and nothing else, in row `state` and column
    `symbol`. -/
def Offers (M : Model) (state : StateId) (symbol : Symbol) (action : Action) : Prop :=
  M.table.get? state symbol = some (.single action) ∨
    ∃ o, M.overrides = some o ∧ o.get? state symbol = some (.single action)

theorem offers_of_lookupAction {action : Action} {source : Source}
    (h : M.lookupAction state token useOverrides = .found action source) :
    M.Offers state token action := by
  rcases lookupAction_eq_found_iff.1 h with ⟨-, hcell⟩ | ⟨-, -, hcell⟩
  · exact .inr (overrideCell?_eq_some_iff.1 hcell).2
  · exact .inl hcell

/-! ## Transitions after a reduction -/

theorem lookupGoto_eq_ok_iff {lhs : Symbol} {destination : StateId} :
    M.lookupGoto state lhs = .ok destination ↔
      ∃ action, M.table.get? state lhs = some (.single action) ∧
        action.gotoTarget? = some destination := by
  unfold lookupGoto
  rcases M.table.get? state lhs with _ | action | _
  · simp
  · cases action <;> simp [Action.gotoTarget?]
  · simp

/-- A transition is missing for one reason only, and the report names the state and the symbol. -/
theorem lookupGoto_eq_error_iff {lhs : Symbol} {fault : Fault} :
    M.lookupGoto state lhs = .error fault ↔
      fault = .missingGoto state lhs ∧
        ∀ action, M.table.get? state lhs = some (.single action) → action.gotoTarget? = none := by
  unfold lookupGoto
  rcases M.table.get? state lhs with _ | action | _
  · simp [eq_comm]
  · cases action <;> simp [Action.gotoTarget?, eq_comm]
  · simp [eq_comm]

theorem isOk_lookupGoto_iff {lhs : Symbol} :
    (M.lookupGoto state lhs).isOk ↔ ∃ d, M.table.get? state lhs = some (.single (.goto d)) ∨
      M.table.get? state lhs = some (.single (.shift d)) := by
  unfold lookupGoto
  rcases M.table.get? state lhs with _ | a | _
  · simp [Except.isOk, Except.toBool]
  · cases a <;> simp [Except.isOk, Except.toBool]
  · simp [Except.isOk, Except.toBool]

theorem exists_lookupGoto_error_iff {lhs : Symbol} :
    (∃ fault, M.lookupGoto state lhs = .error fault) ↔
      ∀ d, M.table.get? state lhs ≠ some (.single (.goto d)) ∧
        M.table.get? state lhs ≠ some (.single (.shift d)) := by
  have herror : (∃ fault, M.lookupGoto state lhs = .error fault) ↔
      ¬ (M.lookupGoto state lhs).isOk := by
    cases M.lookupGoto state lhs <;> simp [Except.isOk, Except.toBool]
  rw [herror, isOk_lookupGoto_iff]
  simp only [not_exists, not_or, Ne]

/-! ## Productions -/

theorem lookupProduction_eq_ok_iff {rule : RuleId} {production : Production} :
    M.lookupProduction rule = .ok production ↔ M.productions.get? rule = some production := by
  unfold lookupProduction
  cases M.productions.get? rule <;> simp

theorem lookupProduction_eq_error_iff {rule : RuleId} {fault : Fault} :
    M.lookupProduction rule = .error fault ↔
      fault = .missingProduction rule ∧ M.productions.get? rule = none := by
  unfold lookupProduction
  cases M.productions.get? rule <;> simp [eq_comm]

end Model

end ShiftReduce
