import ShiftReduce.Proofs.TableDocument

/-!
# Which fault of a document is reported

A document that is no table document may have many faults. The one that is reported is the first in
the order of the document: the table comes before the productions, rows and their cells come in the
order of their keys, candidates and productions in the order in which they stand. What stands in
front of the fault is as it should be.

* `Document.FaultyAction`, `Document.FaultyCell`, `Document.FaultyProduction`: what is wrong with a
  part of a document, by the first of its checks that fails.
* `Document.FaultyTable`, `Document.FaultyProductions`: the first fault in a table or in a list of
  productions.
* `Document.FaultyDocument`: the first fault in a document.

Results:
* `Document.action_eq_error_iff`, `Document.cell_eq_error_iff`, `Document.production_eq_error_iff`:
  the fault of a part that cannot be read.
* `Document.table_eq_error_iff`, `Document.productions_eq_error_iff`: the fault of a table and of a
  list of productions.
* `Document.first_fault_is_reported`: the fault of a document, and of the documents that hold its
  table as overrides.
-/

namespace ShiftReduce

/-! ## The least key -/

/-- In a list in increasing order of its keys, the items in front of one are those with lesser
    keys. -/
theorem exists_split_iff_least {κ β : Type} [LT κ] [KeyOrder κ] {entries : List (κ × β)}
    (hsorted : entries.Pairwise fun a b => a.1 < b.1) {P Q : κ × β → Prop} :
    (∃ front e back, entries = front ++ e :: back ∧ (∀ b ∈ front, P b) ∧ Q e) ↔
      ∃ e ∈ entries, (∀ b ∈ entries, b.1 < e.1 → P b) ∧ Q e := by
  constructor
  · rintro ⟨front, e, back, rfl, hfront, he⟩
    obtain ⟨-, htail, -⟩ := List.pairwise_append.1 hsorted
    have hback : ∀ b ∈ back, e.1 < b.1 := (List.pairwise_cons.1 htail).1
    refine ⟨e, by simp, fun b hb hlt => ?_, he⟩
    rcases List.mem_append.1 hb with hb | hb
    · exact hfront b hb
    · rcases List.mem_cons.1 hb with rfl | hb
      · exact absurd hlt (KeyOrder.lt_irrefl _)
      · exact absurd (KeyOrder.lt_trans hlt (hback b hb)) (KeyOrder.lt_irrefl _)
  · rintro ⟨e, he, hless, hQ⟩
    obtain ⟨front, back, rfl⟩ := List.append_of_mem he
    refine ⟨front, e, back, rfl, fun b hb => ?_, hQ⟩
    apply hless b (List.mem_append_left _ hb)
    exact (List.pairwise_append.1 hsorted).2.2 b hb e List.mem_cons_self

namespace Document

variable {value : Json}

/-! ## Actions and cells -/

/-- The value is no action, for a reason. -/
inductive FaultyAction (value : Json) : ActionFault → Prop
  | notObject (hobject : ∀ members, value ≠ .object members) : FaultyAction value .notObject
  | noType {members : List (String × Json)} (hobject : value = .object members)
      (hkind : ∀ kind, ¬HasKind value kind) : FaultyAction value .noType

/-- The value is no cell, for a reason. In a list of candidates the first one that is no action
    counts. -/
inductive FaultyCell : Json → ActionFault → Prop
  | action {value : Json} {fault : ActionFault} (harray : ∀ items, value ≠ .array items)
      (hvalue : FaultyAction value fault) : FaultyCell value fault
  | candidate {front back : List Json} {item : Json} {fault : ActionFault}
      (hfront : ∀ c ∈ front, IsAction c) (hitem : FaultyAction item fault) :
      FaultyCell (.array (front ++ item :: back)) fault

theorem action_of_ne_object (h : ∀ members, value ≠ .object members) :
    action value = .error .notObject := by
  cases value with
  | object members => exact absurd rfl (h members)
  | _ => rfl

theorem action_of_no_kind {members : List (String × Json)}
    (h : ∀ kind, ¬HasKind (.object members) kind) : action (.object members) = .error .noType := by
  have hnone : ((Json.object members).member? "type").bind Json.string? = none := by
    rw [Option.eq_none_iff_forall_ne_some]
    intro kind hkind
    exact h kind (bind_string?_eq_some_iff.1 hkind)
  simp only [action, Json.object?, hnone]

/-- An action that cannot be read is reported for the reason for which it is none. -/
theorem action_eq_error_iff {fault : ActionFault} :
    action value = .error fault ↔ FaultyAction value fault := by
  constructor
  · intro h
    by_cases hobject : ∃ members, value = .object members
    · obtain ⟨members, rfl⟩ := hobject
      have hkind : ∀ kind, ¬HasKind (.object members) kind := by
        intro kind hkind
        rw [action_of_hasKind hkind] at h
        cases h
      rw [action_of_no_kind hkind] at h
      cases h
      exact .noType rfl hkind
    · have hne : ∀ members, value ≠ .object members := fun members heq => hobject ⟨members, heq⟩
      rw [action_of_ne_object hne] at h
      cases h
      exact .notObject hne
  · intro h
    cases h with
    | notObject hobject => exact action_of_ne_object hobject
    | noType hobject hkind =>
      subst hobject
      exact action_of_no_kind hkind

/-- So is a cell. -/
theorem cell_eq_error_iff {fault : ActionFault} :
    cell value = .error fault ↔ FaultyCell value fault := by
  by_cases harray : ∃ items, value = .array items
  · obtain ⟨items, rfl⟩ := harray
    show Cell.conflict <$> items.mapM action = .error fault ↔ _
    rw [map_eq_error_iff, mapM_eq_error_iff]
    simp only [exists_action_iff, action_eq_error_iff]
    constructor
    · rintro ⟨front, item, back, rfl, hfront, hitem⟩
      exact .candidate hfront hitem
    · intro h
      cases h with
      | action hne => exact absurd rfl (hne items)
      | candidate hfront hitem => exact ⟨_, _, _, rfl, hfront, hitem⟩
  · have hne : ∀ items, value ≠ .array items := fun items heq => harray ⟨items, heq⟩
    rw [cell_of_ne_array hne, map_eq_error_iff, action_eq_error_iff]
    constructor
    · exact .action hne
    · intro h
      cases h with
      | action _ hvalue => exact hvalue
      | candidate => exact absurd rfl (hne _)

/-! ## Tables -/

/-- The first fault in a table. The rows of lesser states are as they should be, and so are the
    cells under lesser symbols in the row. -/
inductive FaultyTable (rows : List (String × Json)) : DocumentError → Prop
  | row {state : String} {row : Json} (hrow : (state, row) ∈ rows)
      (hrows : ∀ r ∈ rows, r.1 < state → IsRow r.2) (hobject : ∀ cells, row ≠ .object cells) :
      FaultyTable rows (.invalidRow state .notObject)
  | cell {state symbol : String} {cells : List (String × Json)} {value : Json} {fault : ActionFault}
      (hrow : (state, .object cells) ∈ rows) (hrows : ∀ r ∈ rows, r.1 < state → IsRow r.2)
      (hcell : (symbol, value) ∈ cells) (hcells : ∀ c ∈ cells, c.1 < symbol → IsCell c.2)
      (hvalue : FaultyCell value fault) : FaultyTable rows (.invalidCell state symbol fault)

variable {rows cells : List (String × Json)} {state symbol : String} {error : DocumentError}

theorem exists_site_iff : (∃ c, site state symbol value = .ok c) ↔ IsCell value := by
  simp only [site_eq_ok_iff, exists_writesAt_iff]

theorem site_eq_error_iff : site state symbol value = .error error ↔
    ∃ fault, FaultyCell value fault ∧ error = .invalidCell state symbol fault := by
  simp only [← cell_eq_error_iff]
  rw [site]
  cases cell value with
  | error fault => simp [eq_comm]
  | ok c => simp

theorem row_of_ne_object (h : ∀ cells, value ≠ .object cells) :
    Document.row state value = .error (.invalidRow state .notObject) := by
  cases value with
  | object cells => exact absurd rfl (h cells)
  | _ => rfl

/-- In a row, the first cell that is none is reported. -/
theorem row_eq_error_iff (hcells : cells.Pairwise fun a b => a.1 < b.1) :
    Document.row state (.object cells) = .error error ↔ ∃ c ∈ cells,
      (∀ b ∈ cells, b.1 < c.1 → IsCell b.2) ∧
        ∃ fault, FaultyCell c.2 fault ∧ error = .invalidCell state c.1 fault := by
  show cells.mapM (fun c => site state c.1 c.2) = .error error ↔ _
  rw [mapM_eq_error_iff]
  simp only [exists_site_iff, site_eq_error_iff]
  exact exists_split_iff_least (P := fun c => IsCell c.2) (Q := fun c =>
    ∃ fault, FaultyCell c.2 fault ∧ error = .invalidCell state c.1 fault) hcells

/-- In a table, the first row that is none is reported, with its own first fault. -/
theorem table_eq_error_iff (hkeys : (Json.object rows).WellKeyed) :
    table rows = .error error ↔ FaultyTable rows error := by
  obtain ⟨hsorted, hvalues⟩ := Json.wellKeyed_object_iff.1 hkeys
  have hsplit : table rows = .error error ↔ ∃ r ∈ rows, (∀ b ∈ rows, b.1 < r.1 → IsRow b.2) ∧
      Document.row r.1 r.2 = .error error := by
    rw [table, map_eq_error_iff, mapM_eq_error_iff]
    simp only [exists_row_iff]
    exact exists_split_iff_least (P := fun r => IsRow r.2)
      (Q := fun r => Document.row r.1 r.2 = .error error) hsorted
  rw [hsplit]
  constructor
  · rintro ⟨⟨state, row⟩, hrow, hrows, herror⟩
    by_cases hobject : ∃ cells, row = .object cells
    · obtain ⟨cells, rfl⟩ := hobject
      have hcells := (Json.wellKeyed_object_iff.1 (hvalues _ hrow)).1
      obtain ⟨c, hc, hless, fault, hvalue, rfl⟩ := (row_eq_error_iff hcells).1 herror
      exact .cell hrow hrows hc hless hvalue
    · have hne : ∀ cells, row ≠ .object cells := fun cells heq => hobject ⟨cells, heq⟩
      rw [row_of_ne_object hne] at herror
      cases herror
      exact .row hrow hrows hne
  · intro h
    cases h with
    | row hrow hrows hobject => exact ⟨_, hrow, hrows, row_of_ne_object hobject⟩
    | @cell state symbol cells value fault hrow hrows hcell hcells hvalue =>
      have hsortedCells := (Json.wellKeyed_object_iff.1 (hvalues _ hrow)).1
      refine ⟨_, hrow, hrows, (row_eq_error_iff hsortedCells).2 ?_⟩
      exact ⟨(symbol, value), hcell, hcells, fault, hvalue, rfl⟩

/-! ## Productions -/

/-- The value is no production, for a reason. The number is looked at first, then the left side,
    then the right side and what is in it. -/
inductive FaultyProduction (value : Json) : ProductionFault → Prop
  | number (hnumber : ∀ number, ¬MemberNames value "productionNumber" number) :
      FaultyProduction value .number
  | lhs {number : String} (hnumber : MemberNames value "productionNumber" number)
      (hlhs : ∀ lhs, value.member? "lhs" ≠ some (.string lhs)) : FaultyProduction value .lhs
  | rhs {number lhs : String} (hnumber : MemberNames value "productionNumber" number)
      (hlhs : value.member? "lhs" = some (.string lhs))
      (hrhs : ∀ items, value.member? "rhs" ≠ some (.array items)) : FaultyProduction value .rhs
  | rhsEntry {number lhs : String} {items : List Json}
      (hnumber : MemberNames value "productionNumber" number)
      (hlhs : value.member? "lhs" = some (.string lhs))
      (hrhs : value.member? "rhs" = some (.array items))
      (hitem : ∃ item ∈ items, ∀ text, item ≠ .string text) : FaultyProduction value .rhsEntry

theorem string?_eq_none_iff : value.string? = none ↔ ∀ text, value ≠ .string text := by
  cases value <;> simp [Json.string?]

theorem mapM_string?_eq_none_iff {items : List Json} :
    items.mapM Json.string? = none ↔ ∃ item ∈ items, ∀ text, item ≠ .string text := by
  simp only [← string?_eq_none_iff]
  induction items with
  | nil => simp
  | cons item items ih =>
    rw [List.mapM_cons, List.exists_mem_cons_iff, ← ih]
    cases item.string? with
    | none => simp
    | some text => cases items.mapM Json.string? <;> simp

theorem bind_name?_eq_none_iff {key : String} :
    (value.member? key).bind name? = none ↔ ∀ text, ¬MemberNames value key text := by
  simp only [Option.eq_none_iff_forall_ne_some, ne_eq, bind_name?_eq_some_iff]

theorem bind_string?_eq_none_iff {key : String} :
    (value.member? key).bind Json.string? = none ↔
      ∀ text, value.member? key ≠ some (.string text) := by
  simp only [Option.eq_none_iff_forall_ne_some, ne_eq, bind_string?_eq_some_iff]

theorem bind_array?_eq_none_iff {key : String} :
    (value.member? key).bind Json.array? = none ↔
      ∀ items, value.member? key ≠ some (.array items) := by
  simp only [Option.eq_none_iff_forall_ne_some, ne_eq, bind_array?_eq_some_iff]

/-- A production that cannot be read is reported for the first of the checks that fails. -/
theorem production_eq_error_iff {fault : ProductionFault} :
    production value = .error fault ↔ FaultyProduction value fault := by
  constructor
  · intro h
    unfold production at h
    split at h
    · rename_i hnumber
      cases h
      exact .number (bind_name?_eq_none_iff.1 hnumber)
    rename_i number hnumber
    rw [bind_name?_eq_some_iff] at hnumber
    split at h
    · rename_i hlhs
      cases h
      exact .lhs hnumber (bind_string?_eq_none_iff.1 hlhs)
    rename_i lhs hlhs
    rw [bind_string?_eq_some_iff] at hlhs
    split at h
    · rename_i hrhs
      cases h
      exact .rhs hnumber hlhs (bind_array?_eq_none_iff.1 hrhs)
    rename_i items hrhs
    rw [bind_array?_eq_some_iff] at hrhs
    split at h
    · rename_i hitem
      cases h
      exact .rhsEntry hnumber hlhs hrhs (mapM_string?_eq_none_iff.1 hitem)
    · cases h
  · intro h
    cases h with
    | number hnumber => simp only [production, bind_name?_eq_none_iff.2 hnumber]
    | lhs hnumber hlhs =>
      simp only [production, bind_name?_eq_some_iff.2 hnumber, bind_string?_eq_none_iff.2 hlhs]
    | rhs hnumber hlhs hrhs =>
      simp only [production, bind_name?_eq_some_iff.2 hnumber, bind_string?_eq_some_iff.2 hlhs,
        bind_array?_eq_none_iff.2 hrhs]
    | rhsEntry hnumber hlhs hrhs hitem =>
      simp only [production, bind_name?_eq_some_iff.2 hnumber, bind_string?_eq_some_iff.2 hlhs,
        bind_array?_eq_some_iff.2 hrhs, mapM_string?_eq_none_iff.2 hitem]

/-- The first fault in a list of productions. Those in front of it are productions with different
    numbers. A number that was there before is a fault of a production that has no other. -/
inductive FaultyProductions (entries : List Json) : DocumentError → Prop
  | invalid {i : Nat} {entry : Json} {fault : ProductionFault} (hentry : entries[i]? = some entry)
      (hfront : AreProductions (entries.take i)) (hfault : FaultyProduction entry fault) :
      FaultyProductions entries (.invalidProduction i fault)
  | duplicate {i : Nat} {entry : Json} {number : String} (hentry : entries[i]? = some entry)
      (hfront : AreProductions (entries.take i)) (hproduction : IsProduction entry)
      (hnumber : MemberNames entry "productionNumber" number)
      (hearlier : ∃ e ∈ entries.take i, MemberNames e "productionNumber" number) :
      FaultyProductions entries (.duplicateProduction ⟨number⟩)

variable {entries : List Json} {index : Nat} {known : SortedMap RuleId Production}

/-- What is wrong with production number `index` of a list, when those in front of it are known. -/
inductive FaultyAt (index : Nat) (known : SortedMap RuleId Production) (entry : Json) :
    DocumentError → Prop
  | invalid {fault : ProductionFault} (hfault : FaultyProduction entry fault) :
      FaultyAt index known entry (.invalidProduction index fault)
  | duplicate {rule : RuleId} {p : Production} (hwrites : WritesProduction entry rule p)
      (hknown : known.contains rule = true) :
      FaultyAt index known entry (.duplicateProduction rule)

theorem faultyAt_or_new (index : Nat) (known : SortedMap RuleId Production) (entry : Json) :
    (∃ error, FaultyAt index known entry error) ∨
      ∃ rule p, WritesProduction entry rule p ∧ known.contains rule = false := by
  cases hentry : production entry with
  | error fault => exact .inl ⟨_, .invalid (production_eq_error_iff.1 hentry)⟩
  | ok result =>
    obtain ⟨rule, p⟩ := result
    have hwrites := production_eq_ok_iff.1 hentry
    by_cases hknown : known.contains rule = true
    · exact .inl ⟨_, .duplicate hwrites hknown⟩
    · exact .inr ⟨rule, p, hwrites, Bool.eq_false_iff.2 hknown⟩

theorem productionsFrom_of_faultyAt {entry : Json} (h : FaultyAt index known entry error)
    (rest : List Json) : productionsFrom index known (entry :: rest) = .error error := by
  rw [productionsFrom]
  cases h with
  | invalid hfault => rw [production_eq_error_iff.2 hfault]
  | duplicate hwrites hknown =>
    rw [production_eq_ok_iff.2 hwrites]
    exact if_pos hknown

theorem productionsFrom_of_new {entry : Json} {rule : RuleId} {p : Production}
    (h : WritesProduction entry rule p) (hnew : known.contains rule = false) (rest : List Json) :
    productionsFrom index known (entry :: rest) =
      productionsFrom (index + 1) (known.insert rule p) rest := by
  rw [productionsFrom, production_eq_ok_iff.2 h]
  exact if_neg (by simp [hnew])

/-- A list of productions cannot be read if there is something wrong with one of them and those in
    front of it can be read. -/
theorem productionsFrom_eq_error_iff :
    productionsFrom index known entries = .error error ↔ ∃ i entry known',
      entries[i]? = some entry ∧ productionsFrom index known (entries.take i) = .ok known' ∧
        FaultyAt (index + i) known' entry error := by
  induction entries generalizing index known with
  | nil => simp [productionsFrom]
  | cons head rest ih =>
    constructor
    · intro h
      rcases faultyAt_or_new index known head with ⟨error', hfault⟩ | ⟨rule, p, hwrites, hnew⟩
      · rw [productionsFrom_of_faultyAt hfault] at h
        cases h
        exact ⟨0, head, known, rfl, rfl, hfault⟩
      · rw [productionsFrom_of_new hwrites hnew] at h
        obtain ⟨i, entry, known', hentry, hfront, hfault⟩ := ih.1 h
        refine ⟨i + 1, entry, known', hentry, ?_, ?_⟩
        · rw [List.take_succ_cons, productionsFrom_of_new hwrites hnew]
          exact hfront
        · rw [show index + (i + 1) = index + 1 + i by omega]
          exact hfault
    · rintro ⟨i, entry, known', hentry, hfront, hfault⟩
      cases i with
      | zero =>
        cases hentry
        cases hfront
        exact productionsFrom_of_faultyAt hfault rest
      | succ i =>
        rw [List.take_succ_cons] at hfront
        rcases faultyAt_or_new index known head with ⟨error', hhead⟩ | ⟨rule, p, hwrites, hnew⟩
        · rw [productionsFrom_of_faultyAt hhead] at hfront
          cases hfront
        · rw [productionsFrom_of_new hwrites hnew] at hfront ⊢
          rw [show index + (i + 1) = index + 1 + i by omega] at hfault
          exact ih.2 ⟨i, entry, known', hentry, hfront, hfault⟩

/-- The numbers that are known behind some productions are theirs. -/
theorem contains_iff_of_productions (h : productionsFrom 0 .empty entries = .ok known)
    (rule : RuleId) :
    known.contains rule = true ↔ ∃ e ∈ entries, MemberNames e "productionNumber" rule.text := by
  obtain ⟨hdescribe, -⟩ := productions_describe h
  rw [SortedMap.contains, Option.isSome_iff_exists]
  simp only [hdescribe]
  constructor
  · rintro ⟨p, e, he, hwrites⟩
    exact ⟨e, he, hwrites.number⟩
  · rintro ⟨e, he, hnumber⟩
    obtain ⟨rule', p, hwrites⟩ :=
      isProduction_iff.1 ((exists_productions_iff.1 ⟨known, h⟩).each e he)
    obtain rfl : rule' = rule := congrArg RuleId.mk (hwrites.number.unique hnumber)
    exact ⟨p, e, he, hwrites⟩

/-- In a list of productions, the first one with something wrong is reported. -/
theorem productions_eq_error_iff :
    productionsFrom 0 .empty entries = .error error ↔ FaultyProductions entries error := by
  rw [productionsFrom_eq_error_iff]
  simp only [Nat.zero_add]
  constructor
  · rintro ⟨i, entry, known, hentry, hfront, hfault⟩
    have hproductions := exists_productions_iff.1 ⟨known, hfront⟩
    cases hfault with
    | invalid hfault => exact .invalid hentry hproductions hfault
    | @duplicate rule p hwrites hknown =>
      rw [contains_iff_of_productions hfront] at hknown
      exact .duplicate hentry hproductions (isProduction_iff.2 ⟨rule, p, hwrites⟩) hwrites.number
        hknown
  · intro h
    cases h with
    | @invalid i entry fault hentry hproductions hfault =>
      obtain ⟨known, hfront⟩ := exists_productions_iff.2 hproductions
      exact ⟨i, entry, known, hentry, hfront, .invalid hfault⟩
    | @duplicate i entry number hentry hproductions hproduction hnumber hearlier =>
      obtain ⟨known, hfront⟩ := exists_productions_iff.2 hproductions
      obtain ⟨rule, p, hwrites⟩ := isProduction_iff.1 hproduction
      obtain rfl : rule = ⟨number⟩ := congrArg RuleId.mk (hwrites.number.unique hnumber)
      have hknown := (contains_iff_of_productions hfront ⟨number⟩).2 hearlier
      exact ⟨i, entry, known, hentry, hfront, .duplicate hwrites hknown⟩

/-! ## Documents -/

/-- The first fault in a document. -/
inductive FaultyDocument (document : Json) : DocumentError → Prop
  | noTable (htable : document.member? "parseTable" = none) :
      FaultyDocument document (.missingField "parseTable")
  | noRows {parseTable : Json} (htable : document.member? "parseTable" = some parseTable)
      (hrows : ∀ rows, parseTable.member? "_table" ≠ some (.object rows)) :
      FaultyDocument document (.missingField "parseTable._table")
  | table {rows : List (String × Json)} {error : DocumentError}
      (hrows : document.path? ["parseTable", "_table"] = some (.object rows))
      (hfault : FaultyTable rows error) : FaultyDocument document error
  | noProductions {rows : List (String × Json)}
      (hrows : document.path? ["parseTable", "_table"] = some (.object rows))
      (htable : ∀ r ∈ rows, IsRow r.2)
      (hentries : ∀ entries, document.member? "productions" ≠ some (.array entries)) :
      FaultyDocument document (.missingField "productions")
  | productions {rows : List (String × Json)} {entries : List Json} {error : DocumentError}
      (hrows : document.path? ["parseTable", "_table"] = some (.object rows))
      (htable : ∀ r ∈ rows, IsRow r.2)
      (hentries : document.member? "productions" = some (.array entries))
      (hfault : FaultyProductions entries error) : FaultyDocument document error

variable {document : Json}

theorem bind_object?_eq_none_iff {key : String} :
    (value.member? key).bind Json.object? = none ↔
      ∀ members, value.member? key ≠ some (.object members) := by
  simp only [Option.eq_none_iff_forall_ne_some, ne_eq, bind_object?_eq_some_iff]

theorem tableRows_eq_error_iff : tableRows document = .error error ↔
    (document.member? "parseTable" = none ∧ error = .missingField "parseTable") ∨
      ∃ parseTable, document.member? "parseTable" = some parseTable ∧
        (∀ rows, parseTable.member? "_table" ≠ some (.object rows)) ∧
        error = .missingField "parseTable._table" := by
  simp only [← bind_object?_eq_none_iff]
  rw [tableRows]
  cases document.member? "parseTable" with
  | none => simp [eq_comm]
  | some parseTable =>
    cases hrows : (parseTable.member? "_table").bind Json.object? <;> simp [hrows, eq_comm]

/-- What comes behind a table that is as it should be. -/
theorem model_eq_error_iff : model document = .error error ↔
    tableRows document = .error error ∨ ∃ rows, tableRows document = .ok rows ∧
      (table rows = .error error ∨ (∃ t, table rows = .ok t) ∧
        (((∀ entries, document.member? "productions" ≠ some (.array entries)) ∧
            error = .missingField "productions") ∨
          ∃ entries, document.member? "productions" = some (.array entries) ∧
            productionsFrom 0 .empty entries = .error error)) := by
  simp only [← bind_array?_eq_none_iff, ← bind_array?_eq_some_iff]
  rw [model]
  simp only [bind_eq_error_iff, ← exists_and_right]
  refine or_congr_right (exists_congr fun rows => and_congr_right fun _ => or_congr_right ?_)
  refine exists_congr fun t => and_congr_right fun _ => ?_
  cases (document.member? "productions").bind Json.array? with
  | none => simp [throw, throwThe, MonadExceptOf.throw, eq_comm]
  | some entries =>
    simp only [bind_eq_error_iff]
    simp [pure, Except.pure]

/-- The fault of a document that cannot be read. -/
theorem model_eq_error_iff_faulty (hkeys : document.WellKeyed) :
    model document = .error error ↔ FaultyDocument document error := by
  rw [model_eq_error_iff]
  simp only [tableRows_eq_ok_iff, tableRows_eq_error_iff, exists_table_iff,
    productions_eq_error_iff]
  constructor
  · rintro ((⟨htable, rfl⟩ | ⟨parseTable, htable, hrows, rfl⟩) | ⟨rows, hrows, hbehind⟩)
    · exact .noTable htable
    · exact .noRows htable hrows
    · rw [table_eq_error_iff (hkeys.path hrows)] at hbehind
      rcases hbehind with hfault | ⟨htable, ⟨hentries, rfl⟩ | ⟨entries, hentries, hfault⟩⟩
      · exact .table hrows hfault
      · exact .noProductions hrows htable hentries
      · exact .productions hrows htable hentries hfault
  · intro h
    cases h with
    | noTable htable => exact .inl (.inl ⟨htable, rfl⟩)
    | noRows htable hrows => exact .inl (.inr ⟨_, htable, hrows, rfl⟩)
    | table hrows hfault =>
      exact .inr ⟨_, hrows, .inl ((table_eq_error_iff (hkeys.path hrows)).2 hfault)⟩
    | noProductions hrows htable hentries =>
      exact .inr ⟨_, hrows, .inr ⟨htable, .inl ⟨hentries, rfl⟩⟩⟩
    | productions hrows htable hentries hfault =>
      exact .inr ⟨_, hrows, .inr ⟨htable, .inr ⟨_, hentries, hfault⟩⟩⟩

/-- The overrides in a table document are its table. -/
theorem overrides_of_rows (hrows : document.path? ["parseTable", "_table"] = some (.object rows)) :
    overrides document = table rows := by
  obtain ⟨parseTable, hparseTable, -⟩ := Option.bind_eq_some_iff.1 hrows
  rw [overrides, hparseTable]
  show (tableRows document >>= table) = table rows
  rw [tableRows_eq_ok_iff.2 hrows]
  rfl

/-- **The first fault is reported.** A document that is no table document is refused for the first
    of its faults, whatever others there are. If there is a table, then a document that holds the
    table as overrides, be it the same document or the bare table, is refused for the first fault of
    the table. -/
theorem first_fault_is_reported (document : Json) (hkeys : document.WellKeyed) :
    (∀ error, model document = .error error ↔ FaultyDocument document error) ∧
    ∀ rows, document.path? ["parseTable", "_table"] = some (.object rows) → ∀ error,
      (overrides document = .error error ↔ FaultyTable rows error) ∧
      ((Json.object rows).member? "parseTable" = none →
        (overrides (.object rows) = .error error ↔ FaultyTable rows error)) := by
  refine ⟨fun error => model_eq_error_iff_faulty hkeys, fun rows hrows error => ⟨?_, ?_⟩⟩
  · rw [overrides_of_rows hrows]
    exact table_eq_error_iff (hkeys.path hrows)
  · intro hbare
    rw [overrides_bare hbare]
    exact table_eq_error_iff (hkeys.path hrows)

/-- The rows of a table with faults in two of them, and two in one of them. -/
def faultyRows : List (String × Json) := [
  ("1", .object [("a", .object [("type", .string "accept")])]),
  ("10", .object [
    ("a", .array [.object [("type", .string "accept")], .object [("type", .null)], .null]),
    ("b", .null)]),
  ("2", .array [])]

/-- The second candidate under a is reported, and neither the cell under b nor row 2, in the table
    document and in the overrides. Without that table, the number that comes back is reported, and
    not the production behind it. -/
theorem first_fault_is_reported_faultyRows :
    (tableDocument (.object faultyRows) [.null]).WellKeyed ∧
    FaultyDocument (tableDocument (.object faultyRows) [.null]) (.invalidCell "10" "a" .noType) ∧
    FaultyTable faultyRows (.invalidCell "10" "a" .noType) ∧
    overrides (.object faultyRows) = .error (.invalidCell "10" "a" .noType) ∧
    FaultyDocument (tableDocument (.object [])
        [emptyProduction (.integer 1), emptyProduction (.string "1"), .null])
      (.duplicateProduction ⟨"1"⟩) := by
  have hkeys : (tableDocument (.object faultyRows) [.null]).WellKeyed := by decide
  obtain ⟨hmodel, hoverrides⟩ := first_fault_is_reported _ hkeys
  have hdocument := (hmodel (.invalidCell "10" "a" .noType)).1 rfl
  obtain ⟨hinside, hbare⟩ := hoverrides faultyRows rfl (.invalidCell "10" "a" .noType)
  have htable := hinside.1 rfl
  obtain ⟨hproductions, -⟩ := first_fault_is_reported (tableDocument (.object [])
    [emptyProduction (.integer 1), emptyProduction (.string "1"), .null]) (by decide)
  exact ⟨hkeys, hdocument, htable, (hbare rfl).2 htable, (hproductions _).1 rfl⟩

end Document

end ShiftReduce
