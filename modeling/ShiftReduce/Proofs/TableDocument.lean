import ShiftReduce.Proofs.DocumentFormat

/-!
# What table documents hold

A document is read as a model if it has the form of a table document, and the model then has what
the document writes, neither more nor less: the cells of the table at their sites and the
productions under their numbers. An override document is read in the same way, bare or within a
table document.

* `Document.IsTableDocument`: the form of a table document.
* `Document.Describes`: a document and the model that it writes.

Results:
* `Document.exists_table_iff`, `Document.table_describes`: which values are tables, and the cells
  that they write.
* `Document.exists_productions_iff`, `Document.productions_describe`: the same for productions.
* `Document.exists_model_iff`, `Document.describes_of_model`: the same for whole documents.
* `Document.model_describes`: these together, and the ways of writing the overrides.
-/

namespace ShiftReduce

/-! ## Look-ups in lists of entries -/

section Entries

variable {κ β γ : Type} [DecidableEq κ]

theorem lookupEntry_append (key : κ) (front back : List (κ × β)) :
    lookupEntry key (front ++ back) = (lookupEntry key front).or (lookupEntry key back) := by
  induction front with
  | nil => rfl
  | cons head rest ih =>
    obtain ⟨k, v⟩ := head
    rw [List.cons_append, lookupEntry, lookupEntry]
    split_ifs
    · rfl
    · exact ih

/-- Lists with the same keys and related values give related answers. -/
theorem rel_lookupEntry {R : β → γ → Prop} {front : List (κ × β)} {back : List (κ × γ)}
    (h : List.Forall₂ (fun a b => b.1 = a.1 ∧ R a.2 b.2) front back) (key : κ) :
    Option.Rel R (lookupEntry key front) (lookupEntry key back) := by
  induction h with
  | nil => exact .none
  | @cons a b front back hab _ ih =>
    obtain ⟨k, v⟩ := a
    obtain ⟨k', w⟩ := b
    obtain ⟨rfl, hvw⟩ := hab
    rw [lookupEntry, lookupEntry]
    split_ifs
    · exact .some hvw
    · exact ih

end Entries

namespace Document

/-! ## Rows and their cells -/

/-- The members of an object. Other values have none. -/
def members (value : Json) : List (String × Json) := value.object?.getD []

/-- The cells of a row with their sites. -/
def rowCells (state : String) (row : Json) : List (Site × Json) :=
  (members row).map fun c => (⟨⟨state⟩, c.1⟩, c.2)

/-- The cells of a table with their sites, in the order of the document. -/
def tableCells (rows : List (String × Json)) : List (Site × Json) :=
  rows.flatMap fun r => rowCells r.1 r.2

/-- A cell of a table, and a cell of a document at the same site that writes it. -/
def WritesAt (written : Site × Json) (c : Site × Cell) : Prop :=
  c.1 = written.1 ∧ WritesCell written.2 c.2

/-- The value is an object of cells. -/
def IsRow (row : Json) : Prop := ∃ cells, row = .object cells ∧ ∀ c ∈ cells, IsCell c.2

theorem site_eq_ok_iff {state symbol : String} {value : Json} {c : Site × Cell} :
    site state symbol value = .ok c ↔ WritesAt (⟨⟨state⟩, symbol⟩, value) c := by
  obtain ⟨place, c⟩ := c
  rw [WritesAt, ← cell_eq_ok_iff, site]
  cases cell value with
  | error fault => simp
  | ok c' =>
    simp only [Except.ok.injEq, Prod.mk.injEq]
    exact and_congr_left fun _ => eq_comm

theorem row_eq_ok_iff {state : String} {row : Json} {cells : List (Site × Cell)} :
    Document.row state row = .ok cells ↔
      (∃ ms, row = .object ms) ∧ List.Forall₂ WritesAt (rowCells state row) cells := by
  cases row with
  | object ms =>
    rw [rowCells, List.forall₂_map_left_iff]
    show ms.mapM (fun c => site state c.1 c.2) = .ok cells ↔ _
    rw [mapM_eq_ok_iff]
    simp only [site_eq_ok_iff]
    exact ⟨fun h => ⟨⟨ms, rfl⟩, h⟩, fun h => h.2⟩
  | _ => simp [Document.row, Json.object?]

theorem exists_writesAt_iff {written : Site × Json} :
    (∃ c, WritesAt written c) ↔ IsCell written.2 := by
  rw [← exists_cell_iff]
  simp only [cell_eq_ok_iff, WritesAt]
  constructor
  · rintro ⟨c, -, h⟩
    exact ⟨c.2, h⟩
  · rintro ⟨c, h⟩
    exact ⟨(written.1, c), rfl, h⟩

theorem exists_row_iff {state : String} {row : Json} :
    (∃ cells, Document.row state row = .ok cells) ↔ IsRow row := by
  simp only [row_eq_ok_iff, exists_and_left, exists_forall₂_iff, exists_writesAt_iff]
  constructor
  · rintro ⟨⟨ms, rfl⟩, h⟩
    exact ⟨ms, rfl, fun c hc => h (⟨⟨state⟩, c.1⟩, c.2) (List.mem_map_of_mem hc)⟩
  · rintro ⟨ms, rfl, h⟩
    refine ⟨⟨ms, rfl⟩, fun written hwritten => ?_⟩
    obtain ⟨c, hc, rfl⟩ := List.mem_map.1 hwritten
    exact h c hc

/-! ## Tables -/

variable {rows : List (String × Json)} {t : Table}

/-- What is read as a table is made of rows. -/
theorem exists_table_iff : (∃ t, table rows = .ok t) ↔ ∀ r ∈ rows, IsRow r.2 := by
  have hrows : (∃ cells, rows.mapM (fun r => Document.row r.1 r.2) = .ok cells) ↔
      ∀ r ∈ rows, IsRow r.2 := by
    simp only [exists_mapM_iff, exists_row_iff]
  rw [← hrows]
  constructor
  · rintro ⟨t, h⟩
    obtain ⟨cells, hcells, -⟩ := map_eq_ok_iff.1 h
    exact ⟨cells, hcells⟩
  · rintro ⟨cells, hcells⟩
    exact ⟨_, map_eq_ok_iff.2 ⟨cells, hcells, rfl⟩⟩

/-- A table is made of the cells that its rows write. -/
theorem exists_cells_of_table (h : table rows = .ok t) :
    ∃ cells, List.Forall₂ WritesAt (tableCells rows) cells ∧ t = Table.ofCells cells := by
  obtain ⟨cells, hcells, rfl⟩ := map_eq_ok_iff.1 h
  refine ⟨cells.flatten, ?_, rfl⟩
  rw [mapM_eq_ok_iff] at hcells
  clear h
  induction hcells with
  | nil => exact .nil
  | @cons r cs rows cells hrow _ ih => exact List.rel_append (row_eq_ok_iff.1 hrow).2 ih

theorem lookupEntry_rowCells (state : String) (row : Json) (s : StateId) (X : Symbol) :
    lookupEntry ⟨s, X⟩ (rowCells state row) = if s.text = state then row.member? X else none := by
  by_cases hs : s.text = state
  · obtain rfl : s = ⟨state⟩ := congrArg StateId.mk hs
    have hinjective : Function.Injective (fun symbol : Symbol => (⟨⟨state⟩, symbol⟩ : Site)) :=
      fun _ _ h => congrArg Site.symbol h
    have hmembers : lookupEntry X (members row) = row.member? X := by
      cases row <;> rfl
    rw [if_pos rfl, ← hmembers]
    exact (lookupEntry_map hinjective id X (members row)).trans Option.map_id'
  · rw [if_neg hs]
    refine lookupEntry_eq_none fun c hc heq => ?_
    obtain ⟨m, -, rfl⟩ := List.mem_map.1 hc
    exact hs (congrArg (fun site : Site => site.state.text) heq).symm

/-- With different names of rows, the cell at a site is in the row of its state. -/
theorem lookupEntry_tableCells (hrows : rows.Pairwise fun a b => a.1 ≠ b.1) (s : StateId)
    (X : Symbol) :
    lookupEntry ⟨s, X⟩ (tableCells rows) = (lookupEntry s.text rows).bind (·.member? X) := by
  induction rows with
  | nil => rfl
  | cons r rows ih =>
    obtain ⟨state, row⟩ := r
    obtain ⟨hhead, hrest⟩ := List.pairwise_cons.1 hrows
    have happend : lookupEntry ⟨s, X⟩ (tableCells ((state, row) :: rows)) =
        (if s.text = state then row.member? X else none).or
          ((lookupEntry s.text rows).bind (·.member? X)) := by
      rw [← lookupEntry_rowCells, ← ih hrest, ← lookupEntry_append]
      rfl
    rw [happend, lookupEntry]
    by_cases hs : s.text = state
    · -- no other row has the name of this one
      have hnone : lookupEntry s.text rows = none :=
        lookupEntry_eq_none fun e he heq => hhead e he (hs ▸ heq).symm
      rw [if_pos hs, if_pos hs, hnone]
      exact Option.or_none
    · rw [if_neg hs, if_neg hs]
      rfl

/-- With different names of rows, and of the cells in a row, the sites are different. -/
theorem distinct_tableCells (hrows : rows.Pairwise fun a b => a.1 ≠ b.1)
    (hcells : ∀ r ∈ rows, (members r.2).Pairwise fun a b => a.1 ≠ b.1) :
    (tableCells rows).Pairwise fun a b => a.1 ≠ b.1 := by
  rw [tableCells, List.pairwise_flatMap]
  constructor
  · intro r hr
    rw [rowCells, List.pairwise_map]
    exact (hcells r hr).imp fun hne heq => hne (congrArg Site.symbol heq)
  · refine hrows.imp fun {r r'} hne c hc c' hc' heq => hne ?_
    obtain ⟨m, -, rfl⟩ := List.mem_map.1 hc
    obtain ⟨m', -, rfl⟩ := List.mem_map.1 hc'
    exact congrArg (fun site : Site => site.state.text) heq

/-- The sites of the cells are those that the document has. -/
theorem distinct_of_forall₂ {written : List (Site × Json)} {cells : List (Site × Cell)}
    (h : List.Forall₂ WritesAt written cells) (hdistinct : written.Pairwise fun a b => a.1 ≠ b.1) :
    cells.Pairwise fun a b => a.1 ≠ b.1 := by
  refine (pairwise_iff_of_forall₂ h fun w w' c c' hc hc' => ?_).1 hdistinct
  rw [hc.1, hc'.1]

theorem distinct_members {value : Json} (h : value.WellKeyed) :
    (members value).Pairwise fun a b => a.1 ≠ b.1 := by
  cases h with
  | object hsorted => exact SortedMap.entries_distinct ⟨_, hsorted⟩
  | _ => exact .nil

/-- The cells of a table are those that the document writes, at the same sites. -/
theorem table_describes (hkeys : (Json.object rows).WellKeyed) (h : table rows = .ok t) :
    (∀ s X, Option.Rel WritesCell ((Json.object rows).path? [s.text, X]) (t.get? s X)) ∧
      t.size = (rows.map fun r => (members r.2).length).sum := by
  have hrows : rows.Pairwise fun a b => a.1 ≠ b.1 := distinct_members hkeys
  obtain ⟨cells, hcells, rfl⟩ := exists_cells_of_table h
  have hdistinct : cells.Pairwise fun a b => a.1 ≠ b.1 := by
    refine distinct_of_forall₂ hcells (distinct_tableCells hrows fun r hr => ?_)
    exact distinct_members ((Json.wellKeyed_object_iff.1 hkeys).2 r hr)
  constructor
  · intro s X
    have hpath : (Json.object rows).path? [s.text, X] = lookupEntry ⟨s, X⟩ (tableCells rows) := by
      rw [lookupEntry_tableCells hrows]
      show (lookupEntry s.text rows).bind (fun row => (row.member? X).bind some) = _
      simp only [Option.bind_fun_some]
    rw [hpath, Table.get?_ofCells hdistinct]
    exact rel_lookupEntry hcells _
  · rw [Table.size_ofCells hdistinct, ← hcells.length_eq, tableCells, List.length_flatMap]
    simp only [rowCells, List.length_map]

/-! ## Productions -/

/-- The productions of a list are read one after the other, and their numbers have to be different
    from each other and from those that are there. -/
theorem productionsFrom_eq_ok_iff {entries : List Json} {index : Nat}
    {known result : SortedMap RuleId Production} :
    productionsFrom index known entries = .ok result ↔
      ∃ ps : List (RuleId × Production),
        List.Forall₂ (fun e p => WritesProduction e p.1 p.2) entries ps ∧
        (ps.Pairwise fun p q => p.1 ≠ q.1) ∧ (∀ p ∈ ps, known.get? p.1 = none) ∧
        ps.foldl (fun m p => m.insert p.1 p.2) known = result := by
  induction entries generalizing index known with
  | nil =>
    rw [productionsFrom]
    constructor
    · intro h
      cases h
      exact ⟨[], .nil, .nil, List.forall_mem_nil _, rfl⟩
    · rintro ⟨ps, hps, -, -, hresult⟩
      cases hps
      exact congrArg Except.ok hresult
  | cons e entries ih =>
    rw [productionsFrom]
    constructor
    · intro h
      split at h
      · cases h
      · rename_i rule p hp
        split_ifs at h with hknown
        obtain ⟨ps, hps, hdistinct, hnew, hresult⟩ := ih.1 h
        simp only [SortedMap.get?_insert_eq_none_iff] at hnew
        have hnone : known.get? rule = none := by simpa [SortedMap.contains] using hknown
        refine ⟨(rule, p) :: ps, .cons (production_eq_ok_iff.1 hp) hps, ?_, ?_, hresult⟩
        · exact List.pairwise_cons.2 ⟨fun q hq => (hnew q hq).1.symm, hdistinct⟩
        · exact List.forall_mem_cons.2 ⟨hnone, fun q hq => (hnew q hq).2⟩
    · rintro ⟨ps, hps, hdistinct, hnew, hresult⟩
      cases hps with
      | @cons _ p _ ps hp hps =>
        obtain ⟨hhead, hrest⟩ := List.pairwise_cons.1 hdistinct
        obtain ⟨hnone, hnew⟩ := List.forall_mem_cons.1 hnew
        have hknown : ¬known.contains p.1 = true := by simp [SortedMap.contains, hnone]
        simp only [production_eq_ok_iff.2 hp, if_neg hknown]
        refine ih.2 ⟨ps, hps, hrest, fun q hq => ?_, hresult⟩
        exact SortedMap.get?_insert_eq_none_iff.2 ⟨(hhead q hq).symm, hnew q hq⟩

/-- The values are productions, and no two of them have the same number. -/
structure AreProductions (entries : List Json) : Prop where
  /-- Each value is a production. -/
  each : ∀ e ∈ entries, IsProduction e
  /-- The numbers are different, be they written as texts or as whole numbers. -/
  distinct : entries.Pairwise fun e e' => ∀ number, MemberNames e "productionNumber" number →
    ¬MemberNames e' "productionNumber" number

/-- What is read as productions has the form of productions. -/
theorem exists_productions_iff {entries : List Json} :
    (∃ result, productionsFrom 0 .empty entries = .ok result) ↔ AreProductions entries := by
  have hnumbers {ps : List (RuleId × Production)}
      (hps : List.Forall₂ (fun e p => WritesProduction e p.1 p.2) entries ps) :
      (entries.Pairwise fun e e' => ∀ number, MemberNames e "productionNumber" number →
        ¬MemberNames e' "productionNumber" number) ↔ ps.Pairwise fun p q => p.1 ≠ q.1 := by
    refine pairwise_iff_of_forall₂ hps fun e e' p q hp hq => ?_
    constructor
    · intro h heq
      exact h _ hp.number (heq ▸ hq.number)
    · intro hne number hnumber hnumber'
      refine hne (congrArg RuleId.mk ?_)
      exact (hp.number.unique hnumber).trans (hnumber'.unique hq.number)
  constructor
  · rintro ⟨result, h⟩
    obtain ⟨ps, hps, hdistinct, -, -⟩ := productionsFrom_eq_ok_iff.1 h
    refine ⟨fun e he => ?_, (hnumbers hps).2 hdistinct⟩
    obtain ⟨p, hp⟩ := exists_forall₂_iff.1 ⟨ps, hps⟩ e he
    exact isProduction_iff.2 ⟨p.1, p.2, hp⟩
  · rintro ⟨heach, hdistinct⟩
    have hwritten : ∀ e ∈ entries, ∃ p : RuleId × Production, WritesProduction e p.1 p.2 := by
      intro e he
      obtain ⟨rule, p, hp⟩ := isProduction_iff.1 (heach e he)
      exact ⟨(rule, p), hp⟩
    obtain ⟨ps, hps⟩ := exists_forall₂_iff.2 hwritten
    have hdistinct' := (hnumbers hps).1 hdistinct
    exact ⟨_, productionsFrom_eq_ok_iff.2 ⟨ps, hps, hdistinct', fun _ _ => rfl, rfl⟩⟩

/-- The productions are those that the list writes, under their numbers. -/
theorem productions_describe {entries : List Json} {result : SortedMap RuleId Production}
    (h : productionsFrom 0 .empty entries = .ok result) :
    (∀ rule p, result.get? rule = some p ↔ ∃ e ∈ entries, WritesProduction e rule p) ∧
      result.size = entries.length := by
  obtain ⟨ps, hps, hdistinct, -, rfl⟩ := productionsFrom_eq_ok_iff.1 h
  constructor
  · intro rule p
    rw [SortedMap.get?_foldl_insert hdistinct, SortedMap.get?_empty, Option.or_none]
    have hmem : (∃ e ∈ entries, WritesProduction e rule p) ↔ ∃ q ∈ ps, q = (rule, p) := by
      refine exists_mem_iff_of_forall₂ hps fun e q hq => ?_
      constructor
      · intro hp
        rw [← production_eq_ok_iff] at hp hq
        exact Except.ok.inj (hq.symm.trans hp)
      · rintro rfl
        exact hq
    rw [hmem, exists_eq_right]
    exact ⟨mem_of_lookupEntry, lookupEntry_of_mem hdistinct⟩
  · rw [SortedMap.size_foldl_insert hdistinct fun _ _ => rfl, ← hps.length_eq]
    exact Nat.zero_add _

/-! ## Documents -/

/-- The form of a table document. -/
structure IsTableDocument (document : Json) : Prop where
  /-- There is a table, which is an object of rows. -/
  table : ∃ rows, document.path? ["parseTable", "_table"] = some (.object rows) ∧
    ∀ r ∈ rows, IsRow r.2
  /-- There are productions with different numbers. -/
  productions : ∃ entries, document.member? "productions" = some (.array entries) ∧
    AreProductions entries

/-- The model has what the document writes, and nothing else. -/
structure Describes (document : Json) (M : Model) : Prop where
  /-- Where the document has a cell, the table has the cell that it writes; elsewhere there is
      none. -/
  cell : ∀ s X, Option.Rel WritesCell
    (document.path? ["parseTable", "_table", s.text, X]) (M.table.get? s X)
  /-- The table has as many cells as there are in the rows of the document. -/
  size : ∃ rows, document.path? ["parseTable", "_table"] = some (.object rows) ∧
    M.table.size = (rows.map fun r => (members r.2).length).sum
  /-- The productions are those of the document, under their numbers. -/
  productions : ∃ entries, document.member? "productions" = some (.array entries) ∧
    (∀ rule p, M.productions.get? rule = some p ↔ ∃ e ∈ entries, WritesProduction e rule p) ∧
    M.productions.size = entries.length
  /-- The start state is the usual one. -/
  startState : M.startState = ⟨"1"⟩
  /-- There are no overrides. -/
  overrides : M.overrides = none

variable {document : Json} {M : Model}

theorem tableRows_eq_ok_iff :
    tableRows document = .ok rows ↔
      document.path? ["parseTable", "_table"] = some (.object rows) := by
  show _ ↔ (document.member? "parseTable").bind (fun v => (v.member? "_table").bind some) = _
  rw [tableRows]
  cases document.member? "parseTable" with
  | none => simp
  | some parseTable =>
    rw [Option.bind_some, Option.bind_fun_some, ← bind_object?_eq_some_iff]
    dsimp only
    cases (parseTable.member? "_table").bind Json.object? <;> simp

/-- A document is read by reading its table and its productions. -/
theorem model_eq_ok_iff :
    model document = .ok M ↔ ∃ rows t entries ps,
      document.path? ["parseTable", "_table"] = some (.object rows) ∧ table rows = .ok t ∧
      document.member? "productions" = some (.array entries) ∧
      productionsFrom 0 .empty entries = .ok ps ∧ { table := t, productions := ps } = M := by
  simp only [← tableRows_eq_ok_iff, ← bind_array?_eq_some_iff]
  rw [model]
  simp only [bind_eq_ok_iff]
  constructor
  · rintro ⟨rows, hrows, t, ht, h⟩
    split at h
    · cases h
    · rename_i entries hentries
      obtain ⟨ps, hps, h⟩ := bind_eq_ok_iff.1 h
      exact ⟨rows, t, entries, ps, hrows, ht, hentries, hps, Except.ok.inj h⟩
  · rintro ⟨rows, t, entries, ps, hrows, ht, hentries, hps, rfl⟩
    refine ⟨rows, hrows, t, ht, ?_⟩
    simp only [hentries]
    exact bind_eq_ok_iff.2 ⟨ps, hps, rfl⟩

/-- What is read as a model has the form of a table document. -/
theorem exists_model_iff : (∃ M, model document = .ok M) ↔ IsTableDocument document := by
  simp only [model_eq_ok_iff]
  constructor
  · rintro ⟨M, rows, t, entries, ps, hrows, ht, hentries, hps, -⟩
    exact ⟨⟨rows, hrows, exists_table_iff.1 ⟨t, ht⟩⟩,
      ⟨entries, hentries, exists_productions_iff.1 ⟨ps, hps⟩⟩⟩
  · rintro ⟨⟨rows, hrows, htable⟩, ⟨entries, hentries, hproductions⟩⟩
    obtain ⟨t, ht⟩ := exists_table_iff.2 htable
    obtain ⟨ps, hps⟩ := exists_productions_iff.2 hproductions
    exact ⟨_, rows, t, entries, ps, hrows, ht, hentries, hps, rfl⟩

/-- A model has what its document writes. -/
theorem describes_of_model (hkeys : document.WellKeyed) (h : model document = .ok M) :
    Describes document M := by
  obtain ⟨rows, t, entries, ps, hrows, ht, hentries, hps, rfl⟩ := model_eq_ok_iff.1 h
  obtain ⟨hcell, hsize⟩ := table_describes (hkeys.path hrows) ht
  have hproductions := productions_describe hps
  refine ⟨fun s X => ?_, ⟨rows, hrows, hsize⟩, ⟨entries, hentries, hproductions⟩, rfl, rfl⟩
  have hpath : document.path? ["parseTable", "_table", s.text, X] =
      (Json.object rows).path? [s.text, X] := by
    have happend := Json.path?_append document ["parseTable", "_table"] [s.text, X]
    rwa [hrows] at happend
  rw [hpath]
  exact hcell s X

/-! ## Override documents -/

/-- The table document with a table and a list of productions. -/
def tableDocument (table : Json) (productions : List Json) : Json :=
  .object [("parseTable", .object [("_table", table)]), ("productions", .array productions)]

/-- The overrides of a table document are its table. -/
theorem overrides_eq_ok_of_model (h : model document = .ok M) :
    overrides document = .ok M.table := by
  obtain ⟨rows, t, entries, ps, hrows, ht, hentries, hps, rfl⟩ := model_eq_ok_iff.1 h
  obtain ⟨parseTable, hparseTable, -⟩ := Option.bind_eq_some_iff.1 hrows
  rw [overrides, hparseTable]
  exact bind_eq_ok_iff.2 ⟨rows, tableRows_eq_ok_iff.2 hrows, ht⟩

/-- A bare override document is read as the table that it is. -/
theorem overrides_bare (hbare : (Json.object rows).member? "parseTable" = none) :
    overrides (.object rows) = table rows := by
  rw [overrides, hbare]
  rfl

theorem overrides_tableDocument (entries : List Json) :
    overrides (tableDocument (.object rows) entries) = table rows := rfl

/-- If there is nothing wrong with the productions, a table document is as good as its table. -/
theorem table_model_tableDocument {entries : List Json} (hentries : AreProductions entries) :
    Model.table <$> model (tableDocument (.object rows) entries) = table rows := by
  obtain ⟨ps, hps⟩ := exists_productions_iff.2 hentries
  show Model.table <$> (table rows >>= fun t => productionsFrom 0 .empty entries >>= fun ps =>
    .ok { table := t, productions := ps }) = table rows
  rw [hps]
  cases table rows <;> rfl

/-! ## Reading documents -/

/-- **What table documents are.** A document is read as a model if, and only if, it has the form of
    a table document. The model then has what the document writes and nothing else: the cells at
    their sites, the productions under their numbers, the usual start state and no overrides. As an
    override document it is read as its table. A bare override document is read as if it stood in a
    table document, with the same error if there is one. -/
theorem model_describes (document : Json) (hkeys : document.WellKeyed) :
    ((∃ M, model document = .ok M) ↔ IsTableDocument document) ∧
    (∀ M, model document = .ok M → Describes document M ∧ overrides document = .ok M.table) ∧
    ∀ rows, (Json.object rows).member? "parseTable" = none →
      ∀ entries, overrides (.object rows) = overrides (tableDocument (.object rows) entries) ∧
        (AreProductions entries →
          overrides (.object rows) =
            Model.table <$> model (tableDocument (.object rows) entries)) := by
  refine ⟨exists_model_iff, fun M hM => ?_, fun rows hbare entries => ?_⟩
  · exact ⟨describes_of_model hkeys hM, overrides_eq_ok_of_model hM⟩
  · rw [overrides_bare hbare]
    exact ⟨(overrides_tableDocument entries).symm, fun h => (table_model_tableDocument h).symm⟩

/-- A production without symbols on its right, under a number of any kind. -/
def emptyProduction (number : Json) : Json :=
  .object [("lhs", .string "S"), ("productionNumber", number), ("rhs", .array [])]

/-- A document with names that are texts and names that are whole numbers, a conflict of a single
    candidate, an entry that cannot be executed, and a row without cells. -/
def mixedNames : Json :=
  tableDocument
    (.object [
      ("1", .object [
        ("a", .object [("destination", .integer 2), ("type", .string "shift")]),
        ("b", .array [.object [("type", .string "accept")]]),
        ("c", .object [("destination", .null), ("type", .string "shift_reduce")])]),
      ("2", .object [])])
    [emptyProduction (.integer (-1)), emptyProduction (.string "1")]

/-- The document is read with what it writes. With the numbers 1 and "1" it is no document. -/
theorem model_describes_mixedNames :
    mixedNames.WellKeyed ∧ IsTableDocument mixedNames ∧
    (∃ M, model mixedNames = .ok M ∧ Describes mixedNames M ∧
      overrides mixedNames = .ok M.table ∧ M.table.get? ⟨"2"⟩ "b" = none) ∧
    ¬IsTableDocument (tableDocument (.object [])
      [emptyProduction (.integer 1), emptyProduction (.string "1")]) := by
  have hkeys : mixedNames.WellKeyed := by decide
  obtain ⟨hform, hdescribes, -⟩ := model_describes mixedNames hkeys
  have hread : ∃ M, model mixedNames = .ok M := by
    have hok : (model mixedNames).isOk = true := by decide
    cases h : model mixedNames with
    | ok M => exact ⟨M, rfl⟩
    | error fault => rw [h] at hok; cases hok
  refine ⟨hkeys, hform.1 hread, ?_, fun hsame => ?_⟩
  · obtain ⟨M, hM⟩ := hread
    obtain ⟨hM', hoverrides⟩ := hdescribes M hM
    have hcell := hM'.cell ⟨"2"⟩ "b"
    rw [show mixedNames.path? ["parseTable", "_table", "2", "b"] = none from rfl] at hcell
    refine ⟨M, hM, hM', hoverrides, ?_⟩
    generalize M.table.get? ⟨"2"⟩ "b" = c at hcell
    cases hcell
    rfl
  · obtain ⟨M, hM⟩ := (model_describes _ (by decide)).1.2 hsame
    have hfault : (model (tableDocument (.object [])
      [emptyProduction (.integer 1), emptyProduction (.string "1")])).isOk = false := by decide
    rw [hM] at hfault
    cases hfault

end Document

end ShiftReduce
