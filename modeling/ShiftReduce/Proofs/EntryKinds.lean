import ShiftReduce.Proofs.Halting
import ShiftReduce.Proofs.TableDocument

/-!
# The kinds of faulty entries

A document may hold entries that no automaton can execute. They are found out when a run comes to
them, and the verdict then tells the kind of the entry. Here such verdicts are traced back to the
documents that the model was loaded from, so the kind in the verdict is the one that was written
there, in the entry that the run consulted.

* `Document.LoadedFrom`: a model and the documents that it was loaded from.
* `Document.entryAt?`: the entry of the documents that counts at a site.
* `Document.LacksPayload`: what is wrong with an entry of a known kind that cannot be executed.

Results:
* `Document.hasKind_iff`: an action is of the kind that it was read from.
* `Document.LoadedFrom.found_iff`, `Document.LoadedFrom.unresolvedOverride_iff`: the answers of
  look-ups are what the entries of the documents write.
* `Machine.stop_unknownAction_iff`, `Machine.stop_malformedEntry_iff`: the steps that stop at a
  faulty entry.
* `Machine.faults_tell_written_kinds`: where the kinds in verdicts come from.
-/

namespace ShiftReduce

namespace Document

/-! ## Actions and their kinds -/

section Actions

variable {value : Json} {kind : String} {a : Action}

/-- An action is of the kind of the object that writes it, whatever the payloads are. -/
theorem Writes.hasKind (h : Writes value a) : HasKind value a.kind := by
  cases h <;> assumption

/-- An object with a text for its kind is read as an action of this kind. -/
theorem hasKind_iff : HasKind value kind ↔ ∃ a, action value = .ok a ∧ a.kind = kind := by
  constructor
  · intro h
    obtain ⟨a, ha⟩ := exists_action_iff.2 (isAction_iff.2 ⟨kind, h⟩)
    have hkind : HasKind value a.kind := (action_eq_ok_iff.1 ha).hasKind
    rw [HasKind, h] at hkind
    exact ⟨a, ha, (Json.string.inj (Option.some.inj hkind)).symm⟩
  · rintro ⟨a, ha, rfl⟩
    exact (action_eq_ok_iff.1 ha).hasKind

/-- An object of this kind cannot be executed, because a payload is missing or is no name. -/
inductive LacksPayload (value : Json) : String → Prop
  /-- A transition to nowhere. -/
  | destination {kind : String} (htransition : kind = "shift" ∨ kind = "goto")
      (hd : ∀ d, ¬MemberNames value "destination" d) : LacksPayload value kind
  /-- A reduction by no rule. -/
  | rule (hr : ∀ r, ¬MemberNames value "ruleNumber" r) : LacksPayload value "reduce"
  /-- A merged entry with a destination that is no name. -/
  | mergedDestination (hpresent : value.member? "destination" ≠ none)
      (hd : ∀ d, ¬MemberNames value "destination" d) : LacksPayload value "shift_reduce"
  /-- A merged entry without destination and without a rule that is a name. -/
  | mergedRule (hd : value.member? "destination" = none)
      (hr : ∀ r, ¬MemberNames value "ruleNumber" r) : LacksPayload value "shift_reduce"

/-- Only known kinds have payloads, so the label for overrides is none that lacks one. -/
theorem LacksPayload.ne_override (h : LacksPayload value kind) : kind ≠ "override" := by
  cases h with
  | destination htransition => rcases htransition with rfl | rfl <;> decide
  | _ => decide

theorem exists_writes_malformed_iff :
    (∃ detail, Writes value (.malformed kind detail)) ↔
      HasKind value kind ∧ LacksPayload value kind := by
  constructor
  · rintro ⟨detail, h⟩
    refine ⟨h.hasKind, ?_⟩
    cases h with
    | noDestination hkind htransition hd => exact .destination htransition hd
    | noRule hkind hr => exact .rule hr
    | badDestination hkind hpresent hd => exact .mergedDestination hpresent hd
    | badRule hkind hd hpresent hr => exact .mergedRule hd hr
    | noPayload hkind hd hr =>
      refine .mergedRule hd fun r ⟨v, hv, _⟩ => ?_
      rw [hr] at hv
      cases hv
  · rintro ⟨hkind, h⟩
    cases h with
    | destination htransition hd => exact ⟨_, .noDestination hkind htransition hd⟩
    | rule hr => exact ⟨_, .noRule hkind hr⟩
    | mergedDestination hpresent hd => exact ⟨_, .badDestination hkind hpresent hd⟩
    | mergedRule hd hr =>
      by_cases hpresent : value.member? "ruleNumber" = none
      · exact ⟨_, .noPayload hkind hd hpresent⟩
      · exact ⟨_, .badRule hkind hd hpresent hr⟩

theorem writes_goto_iff {d : StateId} :
    Writes value (.goto d) ↔ HasKind value "goto" ∧ MemberNames value "destination" d.text := by
  constructor
  · intro h
    cases h with
    | goto hkind hd => exact ⟨hkind, hd⟩
  · rintro ⟨hkind, hd⟩
    exact .goto hkind hd

theorem writes_unknown_iff :
    Writes value (.unknown kind) ↔ HasKind value kind ∧ kind ∉ knownKinds := by
  constructor
  · intro h
    cases h with
    | unknown hkind hknown => exact ⟨hkind, hknown⟩
  · rintro ⟨hkind, hknown⟩
    exact .unknown hkind hknown

/-- No object writes two actions. -/
theorem Writes.unique {b : Action} (ha : Writes value a) (hb : Writes value b) : a = b := by
  rw [← action_eq_ok_iff] at ha hb
  exact Except.ok.inj (ha.symm.trans hb)

end Actions

/-! ## Entries of documents -/

variable {document : Json} {patch : Option Json} {M : Model} {s : StateId} {X : Symbol}
variable {enabled : Bool}

/-- The table of a document of overrides: the one inside it, or else the document itself. -/
def overrideTable? (patch : Json) : Option Json :=
  if (patch.member? "parseTable").isSome then patch.path? ["parseTable", "_table"] else some patch

/-- The entry of the overrides at a site, if there are overrides and they are in force. -/
def overrideEntryAt? (patch : Option Json) (enabled : Bool) (s : StateId) (X : Symbol) :
    Option Json :=
  if enabled then (patch.bind overrideTable?).bind (·.path? [s.text, X]) else none

/-- The entry that counts at a site: that of the overrides, or else that of the table document. -/
def entryAt? (document : Json) (patch : Option Json) (enabled : Bool) (s : StateId) (X : Symbol) :
    Option Json :=
  (overrideEntryAt? patch enabled s X).or (document.path? ["parseTable", "_table", s.text, X])

/-- The model is loaded from a table document, with the overrides of another document if there is
    one, for runs from any state. -/
inductive LoadedFrom (document : Json) : Option Json → Model → Prop
  | table {M : Model} (h : model document = .ok M) : LoadedFrom document none M
  | patched {M : Model} {patch : Json} {o : Table} (h : model document = .ok M)
      (hpatch : overrides patch = .ok o) : LoadedFrom document (some patch) (M.withOverrides o)
  | startingAt {patch : Option Json} {M : Model} (h : LoadedFrom document patch M)
      (start : StateId) : LoadedFrom document patch (M.withStartState start)

/-- Documents whose objects have every key once. -/
structure WellKeyedPair (document : Json) (patch : Option Json) : Prop where
  /-- The table document. -/
  document : document.WellKeyed
  /-- The document of overrides. -/
  patch {p : Json} (hp : patch = some p) : p.WellKeyed

/-- What is read as overrides is an object of rows. -/
theorem exists_rows_of_overrides {patch : Json} {o : Table} (h : overrides patch = .ok o) :
    ∃ rows, overrideTable? patch = some (.object rows) ∧ Document.table rows = .ok o := by
  rw [overrides] at h
  rw [overrideTable?]
  cases hmember : patch.member? "parseTable" with
  | some parseTable =>
    rw [hmember] at h
    obtain ⟨rows, hrows, ho⟩ := bind_eq_ok_iff.1 h
    exact ⟨rows, (if_pos rfl).trans (tableRows_eq_ok_iff.1 hrows), ho⟩
  | none =>
    rw [hmember] at h
    cases patch with
    | object rows => exact ⟨rows, if_neg Bool.false_ne_true, h⟩
    | _ => cases h

/-- The overrides have the cells that their document writes, and no others. -/
theorem overrides_describe {patch : Json} {o : Table} (hkeys : patch.WellKeyed)
    (h : overrides patch = .ok o) (s : StateId) (X : Symbol) :
    Option.Rel WritesCell ((overrideTable? patch).bind (·.path? [s.text, X])) (o.get? s X) := by
  obtain ⟨rows, hrows, ho⟩ := exists_rows_of_overrides h
  have hrowKeys : (Json.object rows).WellKeyed := by
    rw [overrideTable?] at hrows
    split_ifs at hrows
    · exact hkeys.path hrows
    · cases hrows
      exact hkeys
  rw [hrows]
  exact (table_describes hrowKeys ho).1 s X

/-- The primary table has the cells of the table document. -/
theorem LoadedFrom.rel_table (h : LoadedFrom document patch M)
    (hkeys : WellKeyedPair document patch) (s : StateId) (X : Symbol) :
    Option.Rel WritesCell (document.path? ["parseTable", "_table", s.text, X])
      (M.table.get? s X) := by
  induction h with
  | table h => exact (describes_of_model hkeys.document h).cell s X
  | patched h => exact (describes_of_model hkeys.document h).cell s X
  | startingAt _ start ih => exact ih hkeys

/-- The override cells in force are those of the document of overrides. -/
theorem LoadedFrom.rel_overrideCell (h : LoadedFrom document patch M)
    (hkeys : WellKeyedPair document patch) (enabled : Bool) (s : StateId) (X : Symbol) :
    Option.Rel WritesCell (overrideEntryAt? patch enabled s X) (M.overrideCell? enabled s X) := by
  cases enabled with
  | false => exact .none
  | true =>
    induction h with
    | table h =>
      rw [Model.overrideCell?, (describes_of_model hkeys.document h).overrides]
      exact .none
    | patched h hpatch => exact overrides_describe (hkeys.patch rfl) hpatch s X
    | startingAt _ start ih => exact ih hkeys

/-! ## Look-ups -/

theorem writesCell_single_iff {value : Json} {a : Action} :
    WritesCell value (.single a) ↔ Writes value a := by
  constructor
  · intro h
    cases h with
    | single hvalue => exact hvalue
  · exact .single

/-- Of a value that writes an action, no other cell is read. -/
theorem WritesCell.eq_single {value : Json} {c : Cell} {a : Action} (hc : WritesCell value c)
    (ha : Writes value a) : c = .single a := by
  cases hc with
  | conflict => exact absurd ha not_writes_array
  | single hvalue => rw [hvalue.unique ha]

section Related

variable {w : Option Json} {w' : Option Cell}

theorem single_iff_of_rel (h : Option.Rel WritesCell w w') {a : Action} :
    w' = some (.single a) ↔ ∃ value, w = some value ∧ Writes value a := by
  cases h with
  | none => simp
  | @some value c hc =>
    simp only [Option.some.injEq, exists_eq_left']
    constructor
    · rintro rfl
      exact writesCell_single_iff.1 hc
    · exact hc.eq_single

theorem conflict_iff_of_rel (h : Option.Rel WritesCell w w') :
    (∃ candidates, w' = some (.conflict candidates)) ↔ ∃ items, w = some (.array items) := by
  cases h with
  | none => simp
  | @some value c hc =>
    simp only [Option.some.injEq]
    constructor
    · rintro ⟨candidates, rfl⟩
      cases hc with
      | conflict => exact ⟨_, rfl⟩
    · rintro ⟨items, rfl⟩
      cases hc with
      | conflict => exact ⟨_, rfl⟩
      | single hvalue => exact absurd hvalue not_writes_array

theorem none_iff_of_rel (h : Option.Rel WritesCell w w') : w' = none ↔ w = none := by
  cases h <;> simp

end Related

/-- A look-up finds the action that the entry writes. -/
theorem LoadedFrom.found_iff (h : LoadedFrom document patch M)
    (hkeys : WellKeyedPair document patch) {a : Action} :
    (∃ source, M.lookupAction s X enabled = .found a source) ↔
      ∃ value, entryAt? document patch enabled s X = some value ∧ Writes value a := by
  have hoverride := h.rel_overrideCell hkeys enabled s X
  have hprimary := h.rel_table hkeys s X
  simp only [Model.lookupAction_eq_found_iff, single_iff_of_rel hoverride,
    single_iff_of_rel hprimary, none_iff_of_rel hoverride, entryAt?]
  cases hentry : overrideEntryAt? patch enabled s X with
  | none => simp
  | some value => simp

/-- A look-up comes to a list of overriding candidates where the overrides have an array. -/
theorem LoadedFrom.unresolvedOverride_iff (h : LoadedFrom document patch M)
    (hkeys : WellKeyedPair document patch) :
    (∃ candidates, M.lookupAction s X enabled = .unresolvedOverride candidates) ↔
      ∃ items, overrideEntryAt? patch enabled s X = some (.array items) := by
  simp only [Model.lookupAction_eq_unresolvedOverride_iff]
  exact conflict_iff_of_rel (h.rel_overrideCell hkeys enabled s X)

/-- Runs do not change what their model was loaded from. -/
theorem LoadedFrom.session (h : LoadedFrom document patch M) (tokens : List Symbol)
    (ops : List Operation) :
    LoadedFrom document patch ((Machine.start M tokens).session ops).model := by
  rw [(Machine.isRunOf_session M tokens ops).model]
  exact h

end Document

namespace Machine

open Document

variable {m : Machine} {document : Json} {patch : Option Json} {t : Symbol} {value : Json}

/-! ## Machines at an entry -/

/-- Nothing is settled, the machine is in the state `s` at the token `t`, and `value` is the entry
    of the documents that counts there. -/
structure ConsultsEntry (m : Machine) (document : Json) (patch : Option Json) (s : StateId)
    (t : Symbol) (value : Json) : Prop where
  /-- The run has no verdict yet. -/
  running : m.verdict = none
  /-- The state is on top of the stack. -/
  state : m.state = s
  /-- The token is under the cursor. -/
  lookahead : m.lookahead = some t
  /-- The entry counts there. -/
  entry : entryAt? document patch m.useOverrides s t = some value

theorem consults_iff_entry (hload : LoadedFrom document patch m.model)
    (hkeys : WellKeyedPair document patch) {a : Action} :
    (∃ source, m.Consults t a source) ↔
      ∃ value, m.ConsultsEntry document patch m.state t value ∧ Writes value a := by
  constructor
  · rintro ⟨source, h⟩
    obtain ⟨value, hentry, ha⟩ := (hload.found_iff hkeys).1 ⟨source, h.found⟩
    exact ⟨value, ⟨h.running, rfl, h.lookahead, hentry⟩, ha⟩
  · rintro ⟨value, h, ha⟩
    obtain ⟨source, hfound⟩ := (hload.found_iff hkeys).2 ⟨value, h.entry, ha⟩
    exact ⟨source, h.running, h.lookahead, hfound⟩

/-! ## Steps that stop at an entry -/

variable {s : StateId} {kind : String}

/-- A step finds an action that is none on tokens if, and only if, a transition for reductions or an
    object of no known kind is written there. -/
theorem stop_unknownAction_iff (hload : LoadedFrom document patch m.model)
    (hkeys : WellKeyedPair document patch) :
    (∃ stack, m.Stop stack (.rejected (.unknownAction s t kind))) ↔
      ∃ value, m.ConsultsEntry document patch s t value ∧ HasKind value kind ∧
        (kind = "goto" ∧ (∃ d, MemberNames value "destination" d) ∨ kind ∉ knownKinds) := by
  have hconsults {a : Action} := consults_iff_entry (t := t) hload hkeys (a := a)
  constructor
  · rintro ⟨stack, h⟩
    cases h with
    | goto h =>
      obtain ⟨value, hvalue, hwrites⟩ := hconsults.1 ⟨_, h⟩
      obtain ⟨hkind, hd⟩ := writes_goto_iff.1 hwrites
      exact ⟨value, hvalue, hkind, .inl ⟨rfl, _, hd⟩⟩
    | unknown h =>
      obtain ⟨value, hvalue, hwrites⟩ := hconsults.1 ⟨_, h⟩
      obtain ⟨hkind, hknown⟩ := writes_unknown_iff.1 hwrites
      exact ⟨value, hvalue, hkind, .inr hknown⟩
  · rintro ⟨value, hvalue, hkind, hcase⟩
    obtain rfl := hvalue.state
    rcases hcase with ⟨rfl, d, hd⟩ | hknown
    · obtain ⟨source, h⟩ := hconsults.2 ⟨value, hvalue, .goto hkind hd⟩
      exact ⟨_, .goto h⟩
    · obtain ⟨source, h⟩ := hconsults.2 ⟨value, hvalue, .unknown hkind hknown⟩
      exact ⟨_, .unknown h⟩

/-- A step finds a malformed entry if, and only if, the overrides have an array there or an object
    of a known kind lacks a payload. -/
theorem stop_malformedEntry_iff (hload : LoadedFrom document patch m.model)
    (hkeys : WellKeyedPair document patch) :
    (∃ stack detail, m.Stop stack (.rejected (.malformedEntry s t kind detail))) ↔
      ∃ value, m.ConsultsEntry document patch s t value ∧
        (kind = "override" ∧ (∃ items, value = .array items) ∧
            overrideEntryAt? patch m.useOverrides s t = some value ∨
          HasKind value kind ∧ LacksPayload value kind) := by
  constructor
  · rintro ⟨stack, detail, h⟩
    cases h with
    | unresolvedOverride hrunning hlookahead hlookup =>
      obtain ⟨items, hentry⟩ := (hload.unresolvedOverride_iff hkeys).1 ⟨_, hlookup⟩
      have hcounts : entryAt? document patch m.useOverrides m.state t = some (.array items) := by
        rw [entryAt?, hentry, Option.some_or]
      exact ⟨_, ⟨hrunning, rfl, hlookahead, hcounts⟩, .inl ⟨rfl, ⟨items, rfl⟩, hentry⟩⟩
    | malformed h =>
      obtain ⟨value, hvalue, hwrites⟩ := (consults_iff_entry hload hkeys).1 ⟨_, h⟩
      exact ⟨value, hvalue, .inr (exists_writes_malformed_iff.1 ⟨detail, hwrites⟩)⟩
  · rintro ⟨value, hvalue, hcase⟩
    obtain rfl := hvalue.state
    rcases hcase with ⟨rfl, ⟨items, rfl⟩, hentry⟩ | hlacks
    · obtain ⟨candidates, hlookup⟩ := (hload.unresolvedOverride_iff hkeys).2 ⟨items, hentry⟩
      exact ⟨_, _, .unresolvedOverride hvalue.running hvalue.lookahead hlookup⟩
    · obtain ⟨detail, hwrites⟩ := exists_writes_malformed_iff.2 hlacks
      obtain ⟨source, h⟩ := (consults_iff_entry hload hkeys).2 ⟨value, hvalue, hwrites⟩
      exact ⟨_, detail, .malformed h⟩

/-! ## Verdicts of runs -/

/-- **Faults tell the kinds that are written.** Let a model be loaded from documents. A run of it is
    rejected for an unknown action if, and only if, a step of it consults an entry of the kind in
    the verdict, which is a transition for reductions or of no known kind. It is rejected for a
    malformed entry if, and only if, a step of it consults an array of the overrides in force, and
    the verdict says so, or an entry of the kind in the verdict that lacks a payload of its kind. An
    object is read as an action of the kind that it names. -/
theorem faults_tell_written_kinds {document : Json} {patch : Option Json} {M : Model}
    (hkeys : WellKeyedPair document patch) (hload : LoadedFrom document patch M)
    (tokens : List Symbol) (ops : List Operation) :
    (∀ s t kind,
      ((start M tokens).session ops).verdict = some (.rejected (.unknownAction s t kind)) ↔
      ∃ done rest m value, ops = done ++ .step :: rest ∧ (start M tokens).session done = m ∧
        m.ConsultsEntry document patch s t value ∧ HasKind value kind ∧
        (kind = "goto" ∧ (∃ d, MemberNames value "destination" d) ∨ kind ∉ knownKinds)) ∧
    (∀ s t kind,
      (∃ detail, ((start M tokens).session ops).verdict =
        some (.rejected (.malformedEntry s t kind detail))) ↔
      ∃ done rest m value, ops = done ++ .step :: rest ∧ (start M tokens).session done = m ∧
        m.ConsultsEntry document patch s t value ∧
        (kind = "override" ∧ (∃ items, value = .array items) ∧
            overrideEntryAt? patch m.useOverrides s t = some value ∨
          HasKind value kind ∧ LacksPayload value kind)) ∧
    ∀ value kind, HasKind value kind ↔ ∃ a, action value = .ok a ∧ a.kind = kind := by
  refine ⟨fun s t kind => ?_, fun s t kind => ?_, fun value kind => hasKind_iff⟩
  · rw [verdict_session_iff rfl]
    constructor
    · rintro ⟨done, rest, stack, hops, hstop⟩
      obtain ⟨value, hvalue⟩ :=
        (stop_unknownAction_iff (hload.session tokens done) hkeys).1 ⟨stack, hstop⟩
      exact ⟨done, rest, _, value, hops, rfl, hvalue⟩
    · rintro ⟨done, rest, _, value, hops, rfl, hvalue⟩
      obtain ⟨stack, hstop⟩ :=
        (stop_unknownAction_iff (hload.session tokens done) hkeys).2 ⟨value, hvalue⟩
      exact ⟨done, rest, stack, hops, hstop⟩
  · simp only [verdict_session_iff (m := start M tokens) rfl]
    constructor
    · rintro ⟨detail, done, rest, stack, hops, hstop⟩
      obtain ⟨value, hvalue⟩ :=
        (stop_malformedEntry_iff (hload.session tokens done) hkeys).1 ⟨stack, detail, hstop⟩
      exact ⟨done, rest, _, value, hops, rfl, hvalue⟩
    · rintro ⟨done, rest, _, value, hops, rfl, hvalue⟩
      obtain ⟨stack, detail, hstop⟩ :=
        (stop_malformedEntry_iff (hload.session tokens done) hkeys).2 ⟨value, hvalue⟩
      exact ⟨detail, done, rest, stack, hops, hstop⟩

/-- A table document with an object whose kind is the label for overrides, and a merged entry with a
    destination that is no name. -/
def overrideNamed : Json :=
  tableDocument
    (.object [("1", .object [
      ("a", .object [("type", .string "override")]),
      ("b", .object [("destination", .null), ("ruleNumber", .integer 0),
        ("type", .string "shift_reduce")])])])
    []

/-- A document of overrides with an array without candidates. -/
def emptyOverride : Json := .object [("1", .object [("a", .array [])])]

/-- At the letter a, the array is malformed under the label for overrides, and the object below it
    is unknown under the same name once overrides are switched off. At the letter b, the merged
    entry is malformed under its kind, though it has a rule. -/
theorem faults_tell_written_kinds_overrideNamed :
    ∃ M, LoadedFrom overrideNamed (some emptyOverride) M ∧
    (((start M ["a"]).session [.step]).verdict = some (.rejected
        (.malformedEntry ⟨"1"⟩ "a" "override" "override cell holds 0 candidate actions")) ∧
      ∃ done rest items, [.step] = done ++ .step :: rest ∧
        ((start M ["a"]).session done).ConsultsEntry overrideNamed (some emptyOverride) ⟨"1"⟩ "a"
          (.array items)) ∧
    (((start M ["a"]).session [.switch false, .step]).verdict =
        some (.rejected (.unknownAction ⟨"1"⟩ "a" "override")) ∧
      ∃ done rest value, [.switch false, .step] = done ++ .step :: rest ∧
        ((start M ["a"]).session done).ConsultsEntry overrideNamed (some emptyOverride) ⟨"1"⟩ "a"
          value ∧ HasKind value "override") ∧
    ((start M ["b"]).session [.step]).verdict = some (.rejected
        (.malformedEntry ⟨"1"⟩ "b" "shift_reduce" "invalid 'destination'")) ∧
      ∃ done rest value, [.step] = done ++ .step :: rest ∧
        ((start M ["b"]).session done).ConsultsEntry overrideNamed (some emptyOverride) ⟨"1"⟩ "b"
          value ∧ LacksPayload value "shift_reduce" := by
  have hkeys : WellKeyedPair overrideNamed (some emptyOverride) :=
    ⟨by decide, fun hp => Option.some.inj hp ▸ by decide⟩
  obtain ⟨M, hload, hlabel, hname, hmerged⟩ :
      ∃ M, LoadedFrom overrideNamed (some emptyOverride) M ∧
        ((start M ["a"]).session [.step]).verdict = some (.rejected
          (.malformedEntry ⟨"1"⟩ "a" "override" "override cell holds 0 candidate actions")) ∧
        ((start M ["a"]).session [.switch false, .step]).verdict =
          some (.rejected (.unknownAction ⟨"1"⟩ "a" "override")) ∧
        ((start M ["b"]).session [.step]).verdict = some (.rejected
          (.malformedEntry ⟨"1"⟩ "b" "shift_reduce" "invalid 'destination'")) :=
    ⟨_, .patched rfl rfl, rfl, rfl, rfl⟩
  refine ⟨M, hload, ⟨hlabel, ?_⟩, ⟨hname, ?_⟩, hmerged, ?_⟩
  · obtain ⟨done, rest, _, value, hops, rfl, hvalue, hcase⟩ :=
      ((faults_tell_written_kinds hkeys hload ["a"] [.step]).2.1 _ _ _).1 ⟨_, hlabel⟩
    rcases hcase with ⟨-, ⟨items, rfl⟩, -⟩ | ⟨-, hlacks⟩
    · exact ⟨done, rest, items, hops, hvalue⟩
    · exact absurd rfl hlacks.ne_override
  · obtain ⟨done, rest, _, value, hops, rfl, hvalue, hkind, -⟩ :=
      ((faults_tell_written_kinds hkeys hload ["a"] [.switch false, .step]).1 _ _ _).1 hname
    exact ⟨done, rest, value, hops, hvalue, hkind⟩
  · obtain ⟨done, rest, _, value, hops, rfl, hvalue, hcase⟩ :=
      ((faults_tell_written_kinds hkeys hload ["b"] [.step]).2.1 _ _ _).1 ⟨_, hmerged⟩
    rcases hcase with ⟨hlabelled, -⟩ | ⟨-, hlacks⟩
    · exact absurd hlabelled (by decide)
    · exact ⟨done, rest, value, hops, hvalue, hlacks⟩

end Machine

end ShiftReduce
