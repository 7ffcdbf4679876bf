import Mathlib.Algebra.GroupWithZero.Nat
import Mathlib.Data.List.Dedup
import Mathlib.Data.List.Induction
import Mathlib.Data.List.Sort
import ShiftReduce.Proofs.Lookup

/-!
# Tables as finite maps

A table is filled by insertions, of which the last one at a place counts. It lists its cells and its
states in order, each of them once, and nothing else of the insertions can be told from it: tables
with the same cells are the same table. The same cells may be kept row by row, as a map of states to
maps of symbols to cells. That a row is never empty makes the two forms agree in all they answer.

* `Table.Insertion`, `Table.build`: the ways to fill a place, and the table after a list of them.
* `Table.lastAt?`: the cell that was put in a place last.
* `RowTable`: a table kept row by row.

Results:
* `SortedMap.ext_get?`: finite maps with the same answers are the same map.
* `Table.get?_build`: the last insertion at a place is what is found there.
* `Table.states_build`: the states are those of the insertions, in order and once each.
* `RowTable.flatten_build`: the rows, laid end to end, are the table.
* `Table.build_is_canonical`: all that a table shows of the insertions that made it.
-/

namespace ShiftReduce

/-! ## Lists in order -/

section Keys

variable {κ β : Type} [LT κ] [KeyOrder κ]

/-- There is one way to put the same members in the order of their keys. -/
theorem eq_of_keys_sorted {α : Type} {key : α → κ} {l l' : List α}
    (hl : l.Pairwise fun a b => key a < key b) (hl' : l'.Pairwise fun a b => key a < key b)
    (hmem : ∀ a, a ∈ l ↔ a ∈ l') : l = l' := by
  have : Std.Irrefl fun a b : α => key a < key b := ⟨fun a => KeyOrder.lt_irrefl (key a)⟩
  have : Std.Antisymm fun a b : α => key a < key b :=
    ⟨fun a b hab hba => absurd (KeyOrder.lt_trans hab hba) (KeyOrder.lt_irrefl (key a))⟩
  exact hl.eq_of_mem_iff hl' hmem

omit [KeyOrder κ] in
/-- Without repetitions, keys that do not decrease are strictly increasing. -/
theorem pairwise_eraseDups [DecidableEq κ] {keys : List κ}
    (h : keys.Pairwise (fun a b => a < b ∨ a = b)) : keys.eraseDups.Pairwise (· < ·) := by
  match keys with
  | [] => exact List.Pairwise.nil
  | key :: keys =>
    obtain ⟨hhead, hrest⟩ := List.pairwise_cons.1 h
    rw [List.eraseDups_cons, List.pairwise_cons]
    constructor
    · intro other hother
      obtain ⟨hmem, hne⟩ := List.mem_filter.1 (List.mem_eraseDups.1 hother)
      exact (hhead other hmem).resolve_right fun heq => by simp [heq] at hne
    · exact pairwise_eraseDups (hrest.sublist List.filter_sublist)
termination_by keys.length
decreasing_by exact Nat.lt_succ_of_le (List.length_filter_le _ _)

omit [KeyOrder κ] in
theorem insertEntry_ne_nil [DecidableLT κ] [DecidableEq κ] (key : κ) (value : β)
    (entries : List (κ × β)) : insertEntry key value entries ≠ [] := by
  intro h
  have hfound := lookupEntry_insertEntry_self key value entries
  rw [h] at hfound
  cases hfound

namespace SortedMap

variable [DecidableEq κ]

/-- Finite maps with the same answers are the same map. -/
theorem ext_get? {a b : SortedMap κ β} (h : ∀ key, a.get? key = b.get? key) : a = b := by
  refine SortedMap.ext (eq_of_keys_sorted a.sorted b.sorted fun ⟨key, value⟩ => ?_)
  rw [← get?_eq_some_iff, ← get?_eq_some_iff, h key]

theorem mem_keys_iff {m : SortedMap κ β} {key : κ} :
    key ∈ m.keys ↔ ∃ value, m.get? key = some value := by
  simp only [get?_eq_some_iff, keys, List.mem_map, Prod.exists, exists_and_right, exists_eq_right]

variable [DecidableLT κ]

theorem get?_insert (m : SortedMap κ β) (key : κ) (value : β) (other : κ) :
    (m.insert key value).get? other = if other = key then some value else m.get? other := by
  split_ifs with h
  · rw [h, get?_insert_self]
  · exact get?_insert_of_ne m h value

/-- Insertions at different keys may change places. -/
theorem insert_comm (m : SortedMap κ β) {key key' : κ} (hne : key ≠ key') (value value' : β) :
    (m.insert key value).insert key' value' = (m.insert key' value').insert key value := by
  refine ext_get? fun other => ?_
  simp only [get?_insert]
  split_ifs with h' h
  · exact absurd (h.symm.trans h') hne
  all_goals rfl

theorem mem_keys_insert (m : SortedMap κ β) {key other : κ} (value : β) :
    other ∈ (m.insert key value).keys ↔ other = key ∨ other ∈ m.keys := by
  rw [mem_keys_iff, mem_keys_iff, get?_insert]
  by_cases h : other = key <;> simp [h]

end SortedMap

variable [DecidableLT κ] [DecidableEq κ]

theorem mem_sortDistinct_iff {keys : List κ} {key : κ} :
    key ∈ sortDistinct keys ↔ key ∈ keys := by
  induction keys using List.reverseRecOn with
  | nil => rfl
  | append_singleton keys last ih =>
    rw [sortDistinct, SortedMap.ofList] at ih ⊢
    rw [List.map_append, List.foldl_append, List.mem_append, List.mem_singleton, or_comm, ← ih]
    exact SortedMap.mem_keys_insert _ ()

theorem pairwise_sortDistinct (keys : List κ) : (sortDistinct keys).Pairwise (· < ·) :=
  List.pairwise_map.2 (SortedMap.ofList _).sorted

end Keys

/-! ## Filling tables -/

namespace Table

/-- An operation that fills a place of a table, whatever was there before. -/
inductive Insertion where
  /-- Puts a cell there. -/
  | cell (state : StateId) (symbol : Symbol) (cell : Cell)
  /-- Puts a single action there. -/
  | action (state : StateId) (symbol : Symbol) (action : Action)
  /-- Puts a conflict there. -/
  | conflict (state : StateId) (symbol : Symbol) (candidates : List Action)
deriving DecidableEq, Repr

/-- The place that is filled. -/
def Insertion.site : Insertion → Site
  | cell state symbol _ => ⟨state, symbol⟩
  | action state symbol _ => ⟨state, symbol⟩
  | conflict state symbol _ => ⟨state, symbol⟩

/-- What is in the place afterwards. -/
def Insertion.content : Insertion → Cell
  | cell _ _ content => content
  | action _ _ only => .single only
  | conflict _ _ candidates => .conflict candidates

/-- The table after an insertion. -/
def put (t : Table) : Insertion → Table
  | .cell state symbol cell => t.insert state symbol cell
  | .action state symbol action => t.insertAction state symbol action
  | .conflict state symbol candidates => t.insertConflict state symbol candidates

/-- The table after insertions into a table without cells. -/
def build (insertions : List Insertion) : Table := insertions.foldl put empty

/-- What the last insertion at a place has put there, if there was one. -/
def lastAt? (insertions : List Insertion) (site : Site) : Option Cell :=
  ((insertions.filter fun i => i.site = site).getLast?).map Insertion.content

/-- There is one way to insert, which the others are cases of. -/
theorem put_eq (t : Table) (i : Insertion) :
    t.put i = t.insert i.site.state i.site.symbol i.content := by
  cases i <;> rfl

theorem map_put (t : Table) (i : Insertion) : (t.put i).map = t.map.insert i.site i.content := by
  rw [put_eq]
  rfl

theorem get?_put (t : Table) (i : Insertion) (s : StateId) (X : Symbol) :
    (t.put i).get? s X = if i.site = ⟨s, X⟩ then some i.content else t.get? s X := by
  rw [get?, map_put, SortedMap.get?_insert]
  simp only [eq_comm]
  rfl

/-- Tables with the same cells are the same table. -/
theorem ext_get? {t t' : Table} (h : ∀ s X, t.get? s X = t'.get? s X) : t = t' := by
  obtain ⟨m⟩ := t
  obtain ⟨m'⟩ := t'
  exact congrArg Table.mk (SortedMap.ext_get? fun site => h site.state site.symbol)

theorem put_comm (t : Table) {i j : Insertion} (hne : i.site ≠ j.site) :
    (t.put i).put j = (t.put j).put i := by
  suffices h : ((t.put i).put j).map = ((t.put j).put i).map from congrArg Table.mk h
  rw [map_put, map_put, map_put, map_put, SortedMap.insert_comm _ hne]

theorem build_append (before behind : List Insertion) :
    build (before ++ behind) = behind.foldl put (build before) := List.foldl_append

theorem build_concat (insertions : List Insertion) (i : Insertion) :
    build (insertions ++ [i]) = (build insertions).put i := build_append insertions [i]

/-- Of two different places next to each other it does not matter which one is filled first. -/
theorem build_swap {i j : Insertion} (hne : i.site ≠ j.site) (before behind : List Insertion) :
    build (before ++ i :: j :: behind) = build (before ++ j :: i :: behind) := by
  rw [build_append, build_append, List.foldl_cons, List.foldl_cons, put_comm _ hne]
  rfl

theorem lastAt?_concat (insertions : List Insertion) (i : Insertion) (site : Site) :
    lastAt? (insertions ++ [i]) site =
      if i.site = site then some i.content else lastAt? insertions site := by
  rw [lastAt?, List.filter_append]
  split_ifs with h
  · simp [h]
  · simp [h, lastAt?]

/-- The last insertion at a place is what is found there. -/
theorem get?_build (insertions : List Insertion) (s : StateId) (X : Symbol) :
    (build insertions).get? s X = lastAt? insertions ⟨s, X⟩ := by
  induction insertions using List.reverseRecOn with
  | nil => rfl
  | append_singleton insertions i ih =>
    rw [build_concat, get?_put, lastAt?_concat, ih]

/-- Something is in a place if and only if something was ever put there. -/
theorem exists_lastAt?_iff {insertions : List Insertion} {site : Site} :
    (∃ c, lastAt? insertions site = some c) ↔ site ∈ insertions.map Insertion.site := by
  rw [← Option.ne_none_iff_exists', ← not_iff_not]
  simp [lastAt?]

/-! ## What a table shows -/

/-- What `t` shows after `insertions` into a table without cells. -/
structure Shows (t : Table) (insertions : List Insertion) : Prop where
  /-- The last insertion at a place is what is found there. -/
  get? (s : StateId) (X : Symbol) : t.get? s X = lastAt? insertions ⟨s, X⟩
  /-- What is found in a place is listed as its cell, and nothing else is listed. -/
  mem_cells (s : StateId) (X : Symbol) (c : Cell) :
    (⟨s, X⟩, c) ∈ t.cells ↔ t.get? s X = some c
  /-- Cells are listed by state and then by symbol, no place twice. -/
  cells : t.cells.Pairwise fun a b => a.1.state.text < b.1.state.text ∨
    (a.1.state = b.1.state ∧ a.1.symbol < b.1.symbol)
  /-- The size is the number of different places that were filled. -/
  size : t.size = (insertions.map Insertion.site).dedup.length
  /-- A table of size zero is empty, and no other is. -/
  isEmpty : t.isEmpty = true ↔ t.size = 0
  /-- A state is listed if it has a cell. -/
  mem_states (s : StateId) : s ∈ t.states ↔ ∃ X c, t.get? s X = some c
  /-- States are listed in order, none of them twice. -/
  states : t.states.Pairwise fun a b => a.text < b.text

theorem mem_states_iff {t : Table} {s : StateId} :
    s ∈ t.states ↔ ∃ X c, t.get? s X = some c := by
  simp only [states, List.mem_eraseDups, List.mem_map, get?_eq_some_iff]
  constructor
  · rintro ⟨⟨⟨_, X⟩, c⟩, hmem, rfl⟩
    exact ⟨X, c, hmem⟩
  · rintro ⟨X, c, hmem⟩
    exact ⟨(⟨s, X⟩, c), hmem, rfl⟩

theorem pairwise_states (t : Table) : t.states.Pairwise (· < ·) := by
  refine pairwise_eraseDups (List.pairwise_map.2 (t.map.sorted.imp fun {a b} hab => ?_))
  exact (Site.lt_iff.1 hab).imp id And.left

/-- The states are those of the places that were filled. -/
theorem states_build (insertions : List Insertion) :
    (build insertions).states = sortDistinct (insertions.map fun i => i.site.state) := by
  refine eq_of_keys_sorted (pairwise_states _) (pairwise_sortDistinct _) fun s => ?_
  simp only [mem_states_iff, mem_sortDistinct_iff, get?_build, exists_lastAt?_iff, List.mem_map]
  constructor
  · rintro ⟨X, i, hi, hsite⟩
    exact ⟨i, hi, congrArg Site.state hsite⟩
  · rintro ⟨i, hi, rfl⟩
    exact ⟨i.site.symbol, i, hi, rfl⟩

/-- There are as many cells as places that were filled. -/
theorem size_build (insertions : List Insertion) :
    (build insertions).size = (insertions.map Insertion.site).dedup.length := by
  have hperm : ((build insertions).cells.map Prod.fst).Perm
      (insertions.map Insertion.site).dedup := by
    refine (List.perm_ext_iff_of_nodup ?_ (List.nodup_dedup _)).2 fun site => ?_
    · exact List.pairwise_map.2 (build insertions).map.entries_distinct
    · rw [List.mem_dedup, ← exists_lastAt?_iff, ← get?_build]
      simp only [get?_eq_some_iff, List.mem_map, Prod.exists, exists_eq_right, exists_and_right]
  rw [← hperm.length_eq, List.length_map]
  rfl

theorem shows_build (insertions : List Insertion) : (build insertions).Shows insertions where
  get? := get?_build insertions
  mem_cells _ _ _ := get?_eq_some_iff.symm
  cells := (build insertions).map.sorted
  size := size_build insertions
  isEmpty := beq_iff_eq
  mem_states _ := mem_states_iff
  states := pairwise_states _

end Table

/-! ## Row by row -/

/-- A table that is kept as a map of states to rows, where a row is a map of symbols to cells. -/
structure RowTable where
  /-- The rows by state. -/
  rows : SortedMap StateId (SortedMap Symbol Cell)
  /-- There is a cell in every row. -/
  occupied : ∀ e ∈ rows.entries, e.2.entries ≠ []

namespace RowTable

/-- The cells of a row, each with its site. -/
def rowCells (row : StateId × SortedMap Symbol Cell) : List (Site × Cell) :=
  row.2.entries.map fun c => (⟨row.1, c.1⟩, c.2)

/-- The table without rows. -/
def empty : RowTable := ⟨SortedMap.empty, fun _ he => absurd he List.not_mem_nil⟩

/-- The cell in row `s` and column `X`. -/
def get? (t : RowTable) (s : StateId) (X : Symbol) : Option Cell :=
  (t.rows.get? s).bind fun row => row.get? X

/-- Puts a cell into a row, which begins to exist if it does not. -/
def insert (t : RowTable) (s : StateId) (X : Symbol) (c : Cell) : RowTable where
  rows := t.rows.insert s (((t.rows.get? s).getD SortedMap.empty).insert X c)
  occupied e he := by
    rcases mem_insertEntry he with rfl | he
    · exact insertEntry_ne_nil _ _ _
    · exact t.occupied e he

/-- The cells, one row after the other. -/
def cells (t : RowTable) : List (Site × Cell) := t.rows.entries.flatMap rowCells

/-- The sizes of all rows together. -/
def size (t : RowTable) : Nat := (t.rows.entries.map fun row => row.2.size).sum

/-- The states that have a row. -/
def states (t : RowTable) : List StateId := t.rows.keys

/-- The table after insertions into a table without rows. -/
def build (insertions : List Table.Insertion) : RowTable :=
  insertions.foldl (fun t i => t.insert i.site.state i.site.symbol i.content) empty

/-- The rows laid end to end. -/
def flatten (t : RowTable) : Table where
  map := {
    entries := t.cells
    sorted := by
      refine List.pairwise_flatMap.2 ⟨fun row _ => ?_, t.rows.sorted.imp fun {a b} hab => ?_⟩
      · exact List.pairwise_map.2 (row.2.sorted.imp fun {c d} hcd => .inr ⟨rfl, hcd⟩)
      · intro c hc d hd
        obtain ⟨_, _, rfl⟩ := List.mem_map.1 hc
        obtain ⟨_, _, rfl⟩ := List.mem_map.1 hd
        exact .inl hab }

theorem get?_flatten (t : RowTable) (s : StateId) (X : Symbol) :
    t.flatten.get? s X = t.get? s X := by
  refine Option.ext fun c => ?_
  rw [Table.get?_eq_some_iff, get?, Option.bind_eq_some_iff]
  simp only [SortedMap.get?_eq_some_iff]
  constructor
  · intro h
    obtain ⟨row, hrow, hc⟩ := List.mem_flatMap.1 h
    obtain ⟨entry, hentry, heq⟩ := List.mem_map.1 hc
    cases heq
    exact ⟨row.2, hrow, hentry⟩
  · rintro ⟨row, hrow, hc⟩
    exact List.mem_flatMap.2 ⟨(s, row), hrow, List.mem_map.2 ⟨(X, c), hc, rfl⟩⟩

theorem get?_insert (t : RowTable) (s : StateId) (X : Symbol) (c : Cell) (s' : StateId)
    (X' : Symbol) :
    (t.insert s X c).get? s' X' = if s' = s ∧ X' = X then some c else t.get? s' X' := by
  simp only [get?, insert, SortedMap.get?_insert]
  by_cases hs : s' = s
  · subst hs
    cases t.rows.get? s' <;> simp [SortedMap.get?_insert]
  · simp [hs]

theorem flatten_insert (t : RowTable) (s : StateId) (X : Symbol) (c : Cell) :
    (t.insert s X c).flatten = t.flatten.insert s X c := by
  refine Table.ext_get? fun s' X' => ?_
  rw [get?_flatten, get?_insert]
  split_ifs with h
  · obtain ⟨rfl, rfl⟩ := h
    rw [Table.get?_insert_self]
  · rw [Table.get?_insert_of_ne _ h, get?_flatten]

theorem flatten_build (insertions : List Table.Insertion) :
    (build insertions).flatten = Table.build insertions := by
  induction insertions using List.reverseRecOn with
  | nil => rfl
  | append_singleton insertions i ih =>
    rw [Table.build_concat, ← ih, Table.put_eq, ← flatten_insert, build, List.foldl_append]
    rfl

/-! ## Rows against cells -/

/-- A state has a row if and only if it has a cell. -/
theorem exists_row_iff {t : RowTable} {s : StateId} :
    (∃ row, t.rows.get? s = some row) ↔ ∃ X c, t.get? s X = some c := by
  constructor
  · rintro ⟨row, hrow⟩
    obtain ⟨⟨X, c⟩, rest, hentries⟩ :=
      List.exists_cons_of_ne_nil (t.occupied _ (SortedMap.get?_eq_some_iff.1 hrow))
    refine ⟨X, c, ?_⟩
    rw [get?, hrow, Option.bind_some, SortedMap.get?_eq_some_iff, hentries]
    exact List.mem_cons_self
  · rintro ⟨X, c, hc⟩
    obtain ⟨row, hrow, -⟩ := Option.bind_eq_some_iff.1 hc
    exact ⟨row, hrow⟩

theorem mem_states_iff {t : RowTable} {s : StateId} :
    s ∈ t.states ↔ ∃ X c, t.get? s X = some c := by
  rw [← exists_row_iff, states, SortedMap.mem_keys_iff]

/-- Tables with the same cells have the same rows. -/
theorem ext_get? {t t' : RowTable} (h : ∀ s X, t.get? s X = t'.get? s X) : t = t' := by
  have hrow : ∀ {t t' : RowTable}, (∀ s X, t.get? s X = t'.get? s X) → ∀ s row,
      t.rows.get? s = some row → t'.rows.get? s = some row := by
    intro t t' h s row hrow
    obtain ⟨X, c, hc⟩ := exists_row_iff.1 ⟨row, hrow⟩
    obtain ⟨row', hrow'⟩ := exists_row_iff.2 ⟨X, c, (h s X).symm.trans hc⟩
    have heq : row = row' := by
      refine SortedMap.ext_get? fun Y => ?_
      have hY := h s Y
      rwa [get?, get?, hrow, hrow'] at hY
    rw [hrow', heq]
  have hrows : t.rows = t'.rows := by
    refine SortedMap.ext_get? fun s => Option.ext fun row => ?_
    exact ⟨hrow h s row, hrow (fun s X => (h s X).symm) s row⟩
  cases t
  cases t'
  cases hrows
  rfl

/-- A table kept row by row answers like one that is not. -/
structure AgreesWith (r : RowTable) (t : Table) : Prop where
  /-- The same cells are found. -/
  get? (s : StateId) (X : Symbol) : r.get? s X = t.get? s X
  /-- They are listed in the same order. -/
  cells : r.cells = t.cells
  /-- The sizes are the same. -/
  size : r.size = t.size
  /-- The states are the same, and in the same order. -/
  states : r.states = t.states

theorem agreesWith_flatten (t : RowTable) : t.AgreesWith t.flatten where
  get? s X := (get?_flatten t s X).symm
  cells := rfl
  size := by
    show _ = t.cells.length
    rw [cells, List.length_flatMap, size]
    simp only [rowCells, List.length_map]
    rfl
  states := by
    refine eq_of_keys_sorted (List.pairwise_map.2 t.rows.sorted) (Table.pairwise_states _)
      fun s => ?_
    show s ∈ t.states ↔ s ∈ t.flatten.states
    simp only [mem_states_iff, Table.mem_states_iff, get?_flatten]

end RowTable

/-! ## The table of a list of insertions -/

namespace Table

/-- **Tables are finite maps.** A table shows the last insertion at each place, all places that were
    filled in order and none of them twice, and nothing else; kept row by row it shows the same. It
    is the same table, in either form, if and only if the same is found at every place. So it does
    not matter which of two different places is filled first. -/
theorem build_is_canonical :
    (∀ insertions, (build insertions).Shows insertions ∧
      (RowTable.build insertions).AgreesWith (build insertions)) ∧
    (∀ first second, (build first = build second ↔
        ∀ s X, (build first).get? s X = (build second).get? s X) ∧
      (RowTable.build first = RowTable.build second ↔ build first = build second)) ∧
    ∀ before i j behind, i.site ≠ j.site →
      build (before ++ i :: j :: behind) = build (before ++ j :: i :: behind) := by
  refine ⟨fun insertions => ⟨shows_build insertions, ?_⟩, fun first second => ⟨?_, ?_⟩,
    fun before i j behind hne => build_swap hne before behind⟩
  · rw [← RowTable.flatten_build]
    exact RowTable.agreesWith_flatten _
  · exact ⟨fun h _ _ => by rw [h], ext_get?⟩
  · rw [← RowTable.flatten_build, ← RowTable.flatten_build]
    refine ⟨congrArg RowTable.flatten, fun h => RowTable.ext_get? fun s X => ?_⟩
    rw [← RowTable.get?_flatten, h, RowTable.get?_flatten]

/-- Four insertions, of which the last one replaces what the first one has put there. -/
def replacingInsertions : List Insertion :=
  [.action ⟨"2"⟩ "b" .accept, .conflict ⟨"10"⟩ "$" [.accept, .reduce ⟨"0"⟩],
    .action ⟨"2"⟩ "a" (.shift ⟨"3"⟩), .cell ⟨"2"⟩ "b" (.conflict [])]

/-- It does not matter which of the two in the middle comes first. There are three cells, and row 10
    is listed in front of row 2. -/
theorem build_is_canonical_replacingInsertions :
    (Insertion.conflict ⟨"10"⟩ "$" [.accept, .reduce ⟨"0"⟩]).site ≠
      (Insertion.action ⟨"2"⟩ "a" (.shift ⟨"3"⟩)).site ∧
    build replacingInsertions =
      build [.action ⟨"2"⟩ "b" .accept, .action ⟨"2"⟩ "a" (.shift ⟨"3"⟩),
        .conflict ⟨"10"⟩ "$" [.accept, .reduce ⟨"0"⟩], .cell ⟨"2"⟩ "b" (.conflict [])] ∧
    (build replacingInsertions).get? ⟨"2"⟩ "b" = some (.conflict []) ∧
    (build replacingInsertions).size = 3 ∧
    (RowTable.build replacingInsertions).states = [⟨"10"⟩, ⟨"2"⟩] := by
  obtain ⟨hshows, -, hswap⟩ := build_is_canonical
  have hsite : (Insertion.conflict ⟨"10"⟩ "$" [.accept, .reduce ⟨"0"⟩]).site ≠
      (Insertion.action ⟨"2"⟩ "a" (.shift ⟨"3"⟩)).site := by decide
  obtain ⟨hcells, hrows⟩ := hshows replacingInsertions
  refine ⟨hsite, hswap [_] _ _ [_] hsite, ?_, ?_, ?_⟩
  · rw [hcells.get?]
    decide
  · rw [hcells.size]
    decide
  · rw [hrows.states]
    decide

end Table

end ShiftReduce
