import ShiftReduce.Proofs.Numerals
import ShiftReduce.Proofs.Session
import ShiftReduce.Proofs.TableDocument

/-!
# Numbers and their texts

States and rules are named by texts, and a whole number of 64 bits stands for its decimal text. So
it does not matter which of the two a document writes. Wherever a document holds such a number under
a key of a name, the text may be put in its place: the document is read as before, with the same
model or the same fault.

* `Document.Respelt`: a number and its text.
* `Document.Respells`: two documents that differ in such places only, at whatever depth.

Results:
* `Document.Respelt.name?_eq`: a number and its text are the same name.
* `Document.name?_integer_injective`: different numbers are different names.
* `Document.Respells.action_eq`, `Document.Respells.cell_eq`, `Document.Respells.production_eq`: the
  parts of a document are read as before.
* `Document.respelling_changes_nothing`: so are documents, and runs go as before.
-/

namespace ShiftReduce

namespace Document

/-! ## Numbers as names -/

/-- The second value is the decimal text of the first, which is a whole number of 64 bits. -/
inductive Respelt : Json → Json → Prop
  | number {n : Int} (hlow : -2 ^ 63 ≤ n) (hhigh : n < 2 ^ 64) :
      Respelt (.integer n) (.string (toString n))

/-- A number and its text are the same name. -/
theorem Respelt.name?_eq {v v' : Json} (h : Respelt v v') : name? v = name? v' := by
  cases h with
  | number hlow hhigh => exact name?_eq_some_iff.2 (.number hlow hhigh)

/-- Different numbers are different names. -/
theorem name?_integer_injective {a b : Int} {text : String} (ha : name? (.integer a) = some text)
    (hb : name? (.integer b) = some text) : a = b := by
  rw [name?_eq_some_iff] at ha hb
  generalize hsame : text = text' at hb
  cases ha
  cases hb
  exact integer_inj hsame

/-- A natural number names the state and the rule of this number. -/
theorem name?_ofNat {n : Nat} (hn : n < 2 ^ 64) : name? (.integer n) = some (StateId.ofNat n).text ∧
    name? (.integer n) = some (RuleId.ofNat n).text := by
  have hname : name? (.integer n) = some (toString (n : Int)) :=
    name?_eq_some_iff.2 (.number (by omega) (by exact_mod_cast hn))
  exact ⟨hname, hname⟩

/-! ## Documents with other spellings -/

/-- The keys under which names are looked for. -/
def nameKeys : List String := ["destination", "ruleNumber", "productionNumber"]

mutual

/-- The second value is the first one with texts for some of the numbers under the keys of names. -/
inductive Respells : Json → Json → Prop
  | refl (v : Json) : Respells v v
  | array {items items' : List Json} (hitems : RespellsItems items items') :
      Respells (.array items) (.array items')
  | object {members members' : List (String × Json)} (hmembers : RespellsMembers members members') :
      Respells (.object members) (.object members')

/-- The same for the items of an array. -/
inductive RespellsItems : List Json → List Json → Prop
  | nil : RespellsItems [] []
  | cons {v v' : Json} {items items' : List Json} (hitem : Respells v v')
      (hrest : RespellsItems items items') : RespellsItems (v :: items) (v' :: items')

/-- The same for the members of an object. -/
inductive RespellsMembers : List (String × Json) → List (String × Json) → Prop
  | nil : RespellsMembers [] []
  | keep {key : String} {v v' : Json} {members members' : List (String × Json)}
      (hvalue : Respells v v') (hrest : RespellsMembers members members') :
      RespellsMembers ((key, v) :: members) ((key, v') :: members')
  | respell {key : String} {v v' : Json} {members members' : List (String × Json)}
      (hkey : key ∈ nameKeys) (hvalue : Respelt v v') (hrest : RespellsMembers members members') :
      RespellsMembers ((key, v) :: members) ((key, v') :: members')

end

/-- What may become of a value under a key. -/
def RespellsAt (key : String) (v v' : Json) : Prop := Respells v v' ∨ key ∈ nameKeys ∧ Respelt v v'

variable {v v' : Json} {items items' : List Json} {members members' : List (String × Json)}
variable {key : String}

theorem respellsItems_refl (items : List Json) : RespellsItems items items := by
  induction items with
  | nil => exact .nil
  | cons v items ih => exact .cons (.refl v) ih

theorem respellsMembers_refl (members : List (String × Json)) :
    RespellsMembers members members := by
  induction members with
  | nil => exact .nil
  | cons m members ih => exact .keep (.refl m.2) ih

/-! ## Related answers -/

section Answers

variable {α β γ : Type} {R : α → α → Prop}

/-- Of two related answers, both are missing or both are there. -/
theorem rel_cases {w w' : Option α} (h : Option.Rel R w w') :
    (w = none ∧ w' = none) ∨ ∃ a a', w = some a ∧ w' = some a' ∧ R a a' := by
  cases h with
  | none => exact .inl ⟨rfl, rfl⟩
  | some ha => exact .inr ⟨_, _, rfl, rfl, ha⟩

/-- What is made of related answers is related. -/
theorem rel_bind {S : β → β → Prop} {w w' : Option α} {f : α → Option β} (h : Option.Rel R w w')
    (hf : ∀ a a', R a a' → Option.Rel S (f a) (f a')) : Option.Rel S (w.bind f) (w'.bind f) := by
  cases h with
  | none => exact .none
  | some ha => exact hf _ _ ha

/-- And it is the same if one makes the same of all that is related. -/
theorem bind_eq_of_rel {w w' : Option α} {f : α → Option β} (h : Option.Rel R w w')
    (hf : ∀ a a', R a a' → f a = f a') : w.bind f = w'.bind f := by
  cases h with
  | none => rfl
  | some ha => exact hf _ _ ha

end Answers

/-! ## The kinds of values -/

/-- An object stays an object. -/
theorem Respells.object? (h : Respells v v') :
    Option.Rel RespellsMembers v.object? v'.object? := by
  cases h with
  | refl =>
    cases v with
    | object members => exact .some (respellsMembers_refl members)
    | _ => exact .none
  | array => exact .none
  | object hmembers => exact .some hmembers

/-- An array stays an array. -/
theorem Respells.array? (h : Respells v v') : Option.Rel RespellsItems v.array? v'.array? := by
  cases h with
  | refl =>
    cases v with
    | array items => exact .some (respellsItems_refl items)
    | _ => exact .none
  | array hitems => exact .some hitems
  | object => exact .none

/-- Texts stay as they are. -/
theorem Respells.string?_eq (h : Respells v v') : v.string? = v'.string? := by
  cases h <;> rfl

theorem RespellsAt.name?_eq (h : RespellsAt key v v') : name? v = name? v' := by
  rcases h with h | ⟨-, h⟩
  · cases h <;> rfl
  · exact h.name?_eq

/-! ## Items and members -/

section Reading

variable {m : Type → Type} [Monad m] [LawfulMonad m] {α : Type}

/-- If related items are read alike, then so is a list of them. -/
theorem RespellsItems.mapM_eq {read : Json → m α} (h : RespellsItems items items')
    (hread : ∀ v v', Respells v v' → read v = read v') : items.mapM read = items'.mapM read := by
  induction items generalizing items' with
  | nil =>
    cases h
    rfl
  | cons v items ih =>
    cases h with
    | cons hitem hrest => rw [List.mapM_cons, List.mapM_cons, hread _ _ hitem, ih hrest]

/-- If related values under the same key are read alike, then so are the members of an object. -/
theorem RespellsMembers.mapM_eq {read : String → Json → m α} (h : RespellsMembers members members')
    (hread : ∀ key v v', RespellsAt key v v' → read key v = read key v') :
    members.mapM (fun p => read p.1 p.2) = members'.mapM (fun p => read p.1 p.2) := by
  induction members generalizing members' with
  | nil =>
    cases h
    rfl
  | cons p members ih =>
    cases h with
    | keep hvalue hrest =>
      rw [List.mapM_cons, List.mapM_cons, ih hrest, hread _ _ _ (.inl hvalue)]
    | respell hkey hvalue hrest =>
      rw [List.mapM_cons, List.mapM_cons, ih hrest, hread _ _ _ (.inr ⟨hkey, hvalue⟩)]

end Reading

theorem RespellsMembers.rel_lookupEntry (h : RespellsMembers members members') (key : String) :
    Option.Rel (RespellsAt key) (lookupEntry key members) (lookupEntry key members') := by
  induction members generalizing members' with
  | nil =>
    cases h
    exact .none
  | cons p members ih =>
    cases h with
    | keep hvalue hrest =>
      rw [lookupEntry, lookupEntry]
      split_ifs
      · exact .some (.inl hvalue)
      · exact ih hrest
    | respell hkey hvalue hrest =>
      rw [lookupEntry, lookupEntry]
      split_ifs with heq
      · exact .some (.inr ⟨heq ▸ hkey, hvalue⟩)
      · exact ih hrest

theorem Respells.member? (h : Respells v v') (key : String) :
    Option.Rel (RespellsAt key) (v.member? key) (v'.member? key) := by
  cases h with
  | refl =>
    cases v with
    | object members => exact (respellsMembers_refl members).rel_lookupEntry key
    | _ => exact .none
  | array => exact .none
  | object hmembers => exact hmembers.rel_lookupEntry key

/-- A number that is not under a key of a name stays a number. -/
theorem Respells.member?_of_notMem (h : Respells v v') (hkey : key ∉ nameKeys) :
    Option.Rel Respells (v.member? key) (v'.member? key) := by
  rcases rel_cases (h.member? key) with ⟨hw, hw'⟩ | ⟨a, a', hw, hw', ha⟩
  · rw [hw, hw']
    exact .none
  · rw [hw, hw']
    rcases ha with ha | ⟨hmem, -⟩
    · exact .some ha
    · exact absurd hmem hkey

theorem Respells.payload_eq (h : Respells v v') (key : String) :
    payload v key = payload v' key := by
  rw [payload, payload]
  rcases rel_cases (h.member? key) with ⟨hw, hw'⟩ | ⟨a, a', hw, hw', ha⟩
  · rw [hw, hw']
  · simp only [hw, hw', ha.name?_eq]

/-! ## Actions and cells -/

theorem Respells.action_eq (h : Respells v v') : action v = action v' := by
  have hkind : (v.member? "type").bind Json.string? = (v'.member? "type").bind Json.string? :=
    bind_eq_of_rel (h.member?_of_notMem (by decide)) fun _ _ => Respells.string?_eq
  rw [action, action, hkind, h.payload_eq, h.payload_eq]
  rcases rel_cases h.object? with ⟨ho, ho'⟩ | ⟨ms, ms', ho, ho', -⟩
  · rw [ho, ho']
  · rw [ho, ho']

theorem Respells.cell_eq (h : Respells v v') : cell v = cell v' := by
  cases h with
  | refl => rfl
  | array hitems =>
    show Cell.conflict <$> _ = Cell.conflict <$> _
    rw [hitems.mapM_eq fun _ _ => Respells.action_eq]
  | object hmembers =>
    show Cell.single <$> _ = Cell.single <$> _
    rw [(Respells.object hmembers).action_eq]

/-- A number is no cell, and neither is its text. -/
theorem RespellsAt.cell_eq (h : RespellsAt key v v') : cell v = cell v' := by
  rcases h with h | ⟨-, h⟩
  · exact h.cell_eq
  · cases h
    rfl

/-! ## Tables -/

theorem RespellsAt.site_eq (h : RespellsAt key v v') (state : String) :
    site state key v = site state key v' := by
  rw [site, site, h.cell_eq]

/-- A number is no row, and neither is its text. -/
theorem RespellsAt.row_eq (h : RespellsAt key v v') : row key v = row key v' := by
  rcases h with h | ⟨-, h⟩
  · rw [row, row]
    rcases rel_cases h.object? with ⟨ho, ho'⟩ | ⟨ms, ms', ho, ho', hmembers⟩
    · rw [ho, ho']
    · rw [ho, ho']
      exact hmembers.mapM_eq fun _ _ _ hvalue => hvalue.site_eq key
  · cases h
    rfl

theorem RespellsMembers.table_eq (h : RespellsMembers members members') :
    table members = table members' := by
  rw [table, table]
  exact congrArg _ (h.mapM_eq fun _ _ _ => RespellsAt.row_eq)

/-! ## Productions -/

theorem Respells.production_eq (h : Respells v v') : production v = production v' := by
  have hnumber : (v.member? "productionNumber").bind name? =
      (v'.member? "productionNumber").bind name? :=
    bind_eq_of_rel (h.member? _) fun _ _ => RespellsAt.name?_eq
  have hlhs : (v.member? "lhs").bind Json.string? = (v'.member? "lhs").bind Json.string? :=
    bind_eq_of_rel (h.member?_of_notMem (by decide)) fun _ _ => Respells.string?_eq
  have hrhs : Option.Rel RespellsItems ((v.member? "rhs").bind Json.array?)
      ((v'.member? "rhs").bind Json.array?) :=
    rel_bind (h.member?_of_notMem (by decide)) fun _ _ => Respells.array?
  rw [production, production, hnumber, hlhs]
  rcases rel_cases hrhs with ⟨ho, ho'⟩ | ⟨items, items', ho, ho', hitems⟩
  · rw [ho, ho']
  · rw [ho, ho']
    simp only [hitems.mapM_eq fun _ _ => Respells.string?_eq]

theorem RespellsItems.productionsFrom_eq (h : RespellsItems items items') (index : Nat)
    (known : SortedMap RuleId Production) :
    productionsFrom index known items = productionsFrom index known items' := by
  induction items generalizing items' index known with
  | nil =>
    cases h
    rfl
  | cons v items ih =>
    cases h with
    | cons hitem hrest =>
      rw [productionsFrom, productionsFrom, hitem.production_eq]
      simp only [ih hrest]

/-! ## Documents -/

variable {document document' : Json}

/-- The rows stand at the same place, or they are missing for the same reason. -/
theorem Respells.tableRows (h : Respells document document') :
    (∃ fault, tableRows document = .error fault ∧ tableRows document' = .error fault) ∨
      ∃ rows rows', tableRows document = .ok rows ∧ tableRows document' = .ok rows' ∧
        RespellsMembers rows rows' := by
  have htable := h.member?_of_notMem (by decide : "parseTable" ∉ nameKeys)
  rw [Document.tableRows, Document.tableRows]
  rcases rel_cases htable with ⟨hw, hw'⟩ | ⟨t, t', hw, hw', ht⟩
  · rw [hw, hw']
    exact .inl ⟨_, rfl, rfl⟩
  · have hrows : Option.Rel RespellsMembers ((t.member? "_table").bind Json.object?)
        ((t'.member? "_table").bind Json.object?) :=
      rel_bind (ht.member?_of_notMem (by decide)) fun _ _ => Respells.object?
    simp only [hw, hw']
    rcases rel_cases hrows with ⟨ho, ho'⟩ | ⟨rows, rows', ho, ho', hmembers⟩
    · rw [ho, ho']
      exact .inl ⟨_, rfl, rfl⟩
    · rw [ho, ho']
      exact .inr ⟨rows, rows', rfl, rfl, hmembers⟩

/-- So one table is read where the other is. -/
theorem Respells.bind_table_eq (h : Respells document document') :
    (Document.tableRows document >>= table) = (Document.tableRows document' >>= table) := by
  rcases h.tableRows with ⟨fault, hrows, hrows'⟩ | ⟨rows, rows', hrows, hrows', hmembers⟩
  · rw [hrows, hrows']
  · rw [hrows, hrows']
    exact hmembers.table_eq

/-- A document is read as before. -/
theorem Respells.model_eq (h : Respells document document') : model document = model document' := by
  have hentries : Option.Rel RespellsItems ((document.member? "productions").bind Json.array?)
      ((document'.member? "productions").bind Json.array?) :=
    rel_bind (h.member?_of_notMem (by decide)) fun _ _ => Respells.array?
  rw [model, model, ← bind_assoc, ← bind_assoc, h.bind_table_eq]
  rcases rel_cases hentries with ⟨ho, ho'⟩ | ⟨items, items', ho, ho', hitems⟩
  · rw [ho, ho']
  · rw [ho, ho']
    simp only [hitems.productionsFrom_eq]

/-- So is a document of overrides. -/
theorem Respells.overrides_eq (h : Respells document document') :
    overrides document = overrides document' := by
  have htable := h.member?_of_notMem (by decide : "parseTable" ∉ nameKeys)
  rw [overrides, overrides]
  rcases rel_cases htable with ⟨hw, hw'⟩ | ⟨t, t', hw, hw', -⟩
  · rw [hw, hw']
    rcases rel_cases h.object? with ⟨ho, ho'⟩ | ⟨rows, rows', ho, ho', hmembers⟩
    · rw [ho, ho']
    · rw [ho, ho']
      exact hmembers.table_eq
  · rw [hw, hw']
    exact h.bind_table_eq

/-- **Numbers and texts are names alike.** Wherever a document has a whole number of 64 bits under a
    key of a name, its decimal text may stand instead. The document is read as the same model, or
    refused with the same fault, and so it is as a document of overrides. Runs of the models that
    are read, with overrides or without, go the same way. Different numbers are different names, and
    a natural number names the state and the rule of this number. -/
theorem respelling_changes_nothing {document document' patch patch' : Json}
    (h : Respells document document') (hpatch : Respells patch patch') :
    model document = model document' ∧ overrides patch = overrides patch' ∧
    (∀ M M', model document = .ok M → model document' = .ok M' → ∀ tokens ops,
      (Machine.start M tokens).outcomes ops = (Machine.start M' tokens).outcomes ops ∧
      (Machine.start M tokens).session ops = (Machine.start M' tokens).session ops ∧
      ∀ o o', overrides patch = .ok o → overrides patch' = .ok o' →
        (Machine.start (M.withOverrides o) tokens).outcomes ops =
          (Machine.start (M'.withOverrides o') tokens).outcomes ops ∧
        (Machine.start (M.withOverrides o) tokens).session ops =
          (Machine.start (M'.withOverrides o') tokens).session ops) ∧
    (∀ a b text, name? (.integer a) = some text → name? (.integer b) = some text → a = b) ∧
    ∀ n : Nat, n < 2 ^ 64 → ∃ text, name? (.integer n) = some text ∧
      (⟨text⟩ : StateId) = .ofNat n ∧ (⟨text⟩ : RuleId) = .ofNat n := by
  have hmodel := h.model_eq
  have hoverrides := hpatch.overrides_eq
  refine ⟨hmodel, hoverrides, ?_, fun _ _ _ => name?_integer_injective, fun n hn => ?_⟩
  · intro M M' hM hM' tokens ops
    rw [← hmodel, hM] at hM'
    cases hM'
    refine ⟨rfl, rfl, fun o o' ho ho' => ?_⟩
    rw [← hoverrides, ho] at ho'
    cases ho'
    exact ⟨rfl, rfl⟩
  · exact ⟨_, (name?_ofNat hn).1, rfl, rfl⟩

/-- A document of one conflict, with a destination, a rule and the number of its production. -/
def conflictDocument (destination rule number : Json) : Json :=
  tableDocument
    (.object [("1", .object [("a", .array [
      .object [("destination", destination), ("type", .string "shift")],
      .object [("ruleNumber", rule), ("type", .string "reduce")]])])])
    [emptyProduction number]

/-- A number of either end of the range and a number in between, of which two are put in texts. -/
theorem respelling_changes_nothing_conflictDocument :
    Respells
      (conflictDocument (.integer (-9223372036854775808)) (.integer 7)
        (.integer 18446744073709551615))
      (conflictDocument (.string "-9223372036854775808") (.integer 7)
        (.string "18446744073709551615")) ∧
    (∃ M, model (conflictDocument (.integer (-9223372036854775808)) (.integer 7)
        (.integer 18446744073709551615)) = .ok M ∧
      model (conflictDocument (.string "-9223372036854775808") (.integer 7)
        (.string "18446744073709551615")) = .ok M ∧
      M.table.get? ⟨"1"⟩ "a" =
        some (.conflict [.shift ⟨"-9223372036854775808"⟩, .reduce (.ofNat 7)])) ∧
    overrides (conflictDocument (.integer (-9223372036854775808)) (.integer 7)
        (.integer 18446744073709551615)) =
      overrides (conflictDocument (.string "-9223372036854775808") (.integer 7)
        (.string "18446744073709551615")) := by
  have hdestination : Respelt (.integer (-9223372036854775808)) (.string "-9223372036854775808") :=
    .number (by decide) (by decide)
  have hnumber : Respelt (.integer 18446744073709551615) (.string "18446744073709551615") :=
    .number (by decide) (by decide)
  have hshift : Respells
      (.object [("destination", .integer (-9223372036854775808)), ("type", .string "shift")])
      (.object [("destination", .string "-9223372036854775808"), ("type", .string "shift")]) :=
    .object (.respell (by decide) hdestination (.keep (.refl _) .nil))
  have hproduction : Respells (emptyProduction (.integer 18446744073709551615))
      (emptyProduction (.string "18446744073709551615")) :=
    .object (.keep (.refl _) (.respell (by decide) hnumber (.keep (.refl _) .nil)))
  have hrows : Respells
      (.object [("1", .object [("a", .array [
        .object [("destination", .integer (-9223372036854775808)), ("type", .string "shift")],
        .object [("ruleNumber", .integer 7), ("type", .string "reduce")]])])])
      (.object [("1", .object [("a", .array [
        .object [("destination", .string "-9223372036854775808"), ("type", .string "shift")],
        .object [("ruleNumber", .integer 7), ("type", .string "reduce")]])])]) :=
    .object (.keep (.object (.keep (.array (.cons hshift (respellsItems_refl _))) .nil)) .nil)
  have hdocument : Respells
      (conflictDocument (.integer (-9223372036854775808)) (.integer 7)
        (.integer 18446744073709551615))
      (conflictDocument (.string "-9223372036854775808") (.integer 7)
        (.string "18446744073709551615")) :=
    .object (.keep (.object (.keep hrows .nil))
      (.keep (.array (.cons hproduction .nil)) .nil))
  obtain ⟨hmodel, hoverrides, -⟩ := respelling_changes_nothing hdocument hdocument
  refine ⟨hdocument, ?_, hoverrides⟩
  exact ⟨_, hmodel.trans rfl, rfl, rfl⟩

end Document

end ShiftReduce
