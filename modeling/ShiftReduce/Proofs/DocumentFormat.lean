import Mathlib.Algebra.Order.Ring.Int
import Mathlib.Data.List.Forall2
import ShiftReduce.Document
import ShiftReduce.Proofs.JsonKeys

/-!
# What documents write

The meaning of actions, cells and productions in a document, as relations between a JSON value and
what it writes. A missing or unusable payload is no reason to refuse an action: it writes an action
that cannot be executed. The readers are exactly these relations.

Results:
* `Document.name?_eq_some_iff`: the texts and the whole numbers of 64 bits are names.
* `Document.action_eq_ok_iff`, `Document.exists_action_iff`: what an action is read as, and what is
  read as an action.
* `Document.cell_eq_ok_iff`, `Document.exists_cell_iff`: the same for cells.
* `Document.production_eq_ok_iff`: the same for productions.
-/

namespace ShiftReduce

/-! ## Reading lists -/

section Lists

variable {α β ε : Type}

/-- A list is read by reading its items. -/
theorem mapM_eq_ok_iff {read : α → Except ε β} {items : List α} {results : List β} :
    items.mapM read = .ok results ↔ List.Forall₂ (fun a b => read a = .ok b) items results := by
  induction items generalizing results with
  | nil =>
    rw [List.forall₂_nil_left_iff]
    exact ⟨fun h => by cases h; rfl, fun h => by cases h; rfl⟩
  | cons a items ih =>
    rw [List.mapM_cons, List.forall₂_cons_left_iff]
    cases ha : read a with
    | error fault => simp [bind, Except.bind]
    | ok b =>
      cases hrest : items.mapM read with
      | error fault => simp [bind, Except.bind, ← ih, hrest]
      | ok rest => simp [bind, Except.bind, pure, Except.pure, ← ih, hrest, eq_comm]

/-- If every item is related to something, then so is the list. -/
theorem exists_forall₂_iff {R : α → β → Prop} {items : List α} :
    (∃ results, List.Forall₂ R items results) ↔ ∀ a ∈ items, ∃ b, R a b := by
  induction items with
  | nil => simp
  | cons a items ih =>
    rw [List.forall_mem_cons, ← ih]
    constructor
    · rintro ⟨_, h⟩
      cases h with
      | cons ha hrest => exact ⟨⟨_, ha⟩, ⟨_, hrest⟩⟩
    · rintro ⟨⟨b, ha⟩, ⟨results, hrest⟩⟩
      exact ⟨b :: results, .cons ha hrest⟩

/-- What is said of related items in related words holds of all items on both sides. -/
theorem forall_mem_iff_of_forall₂ {R : α → β → Prop} {P : α → Prop} {Q : β → Prop} {as : List α}
    {bs : List β} (h : List.Forall₂ R as bs) (hiff : ∀ a b, R a b → (P a ↔ Q b)) :
    (∀ a ∈ as, P a) ↔ ∀ b ∈ bs, Q b := by
  induction h with
  | nil => exact iff_of_true (List.forall_mem_nil P) (List.forall_mem_nil Q)
  | cons hab _ ih => rw [List.forall_mem_cons, List.forall_mem_cons, hiff _ _ hab, ih]

theorem exists_mem_iff_of_forall₂ {R : α → β → Prop} {P : α → Prop} {Q : β → Prop} {as : List α}
    {bs : List β} (h : List.Forall₂ R as bs) (hiff : ∀ a b, R a b → (P a ↔ Q b)) :
    (∃ a ∈ as, P a) ↔ ∃ b ∈ bs, Q b := by
  have hnone := forall_mem_iff_of_forall₂ h fun a b hab => not_congr (hiff a b hab)
  rw [← not_iff_not]
  simpa only [not_exists, not_and] using hnone

/-- And so does what is said of two related items, of any two items on both sides. -/
theorem pairwise_iff_of_forall₂ {R : α → β → Prop} {S : α → α → Prop} {T : β → β → Prop}
    {as : List α} {bs : List β} (h : List.Forall₂ R as bs)
    (hiff : ∀ a a' b b', R a b → R a' b' → (S a a' ↔ T b b')) :
    as.Pairwise S ↔ bs.Pairwise T := by
  induction h with
  | nil => exact iff_of_true .nil .nil
  | @cons a b as bs hab hrest ih =>
    rw [List.pairwise_cons, List.pairwise_cons, ih,
      forall_mem_iff_of_forall₂ hrest fun a' b' hab' => hiff a a' b b' hab hab']

theorem exists_mapM_iff {read : α → Except ε β} {items : List α} :
    (∃ results, items.mapM read = .ok results) ↔ ∀ a ∈ items, ∃ b, read a = .ok b := by
  simp only [mapM_eq_ok_iff]
  exact exists_forall₂_iff

theorem map_eq_ok_iff {f : α → β} {result : Except ε α} {b : β} :
    f <$> result = .ok b ↔ ∃ a, result = .ok a ∧ f a = b := by
  cases result with
  | error fault => simp [Functor.map, Except.map]
  | ok a => simp [Functor.map, Except.map]

theorem bind_eq_ok_iff {result : Except ε α} {next : α → Except ε β} {b : β} :
    result >>= next = .ok b ↔ ∃ a, result = .ok a ∧ next a = .ok b := by
  cases result with
  | error fault => simp [bind, Except.bind]
  | ok a => simp [bind, Except.bind]

/-- A list cannot be read if one of its items cannot, and the fault is that of the first one. -/
theorem mapM_eq_error_iff {read : α → Except ε β} {items : List α} {fault : ε} :
    items.mapM read = .error fault ↔ ∃ front a back, items = front ++ a :: back ∧
      (∀ b ∈ front, ∃ result, read b = .ok result) ∧ read a = .error fault := by
  induction items with
  | nil => simp [pure, Except.pure]
  | cons head rest ih =>
    rw [List.mapM_cons]
    simp only [List.cons_eq_append_iff]
    cases hhead : read head with
    | error fault' =>
      simp only [bind, Except.bind, Except.error.injEq]
      constructor
      · rintro rfl
        exact ⟨[], head, rest, .inl ⟨rfl, rfl⟩, List.forall_mem_nil _, hhead⟩
      · rintro ⟨front, a, back, ⟨rfl, hsame⟩ | ⟨front', rfl, -⟩, hfront, ha⟩
        · obtain ⟨rfl, rfl⟩ := List.cons.inj hsame
          rw [hhead] at ha
          exact Except.error.inj ha
        · obtain ⟨result, hresult⟩ := hfront head List.mem_cons_self
          rw [hhead] at hresult
          cases hresult
    | ok b =>
      have hrest : (Except.ok b >>= fun b => rest.mapM read >>= fun bs => pure (b :: bs)) =
          (.error fault : Except ε (List β)) ↔ rest.mapM read = .error fault := by
        cases rest.mapM read <;> simp [bind, Except.bind, pure, Except.pure]
      rw [hrest, ih]
      constructor
      · rintro ⟨front, a, back, rfl, hfront, ha⟩
        exact ⟨head :: front, a, back, .inr ⟨front, rfl, rfl⟩,
          List.forall_mem_cons.2 ⟨⟨b, hhead⟩, hfront⟩, ha⟩
      · rintro ⟨front, a, back, ⟨rfl, hsame⟩ | ⟨front', rfl, rfl⟩, hfront, ha⟩
        · obtain ⟨rfl, rfl⟩ := List.cons.inj hsame
          rw [hhead] at ha
          cases ha
        · exact ⟨front', a, back, rfl, (List.forall_mem_cons.1 hfront).2, ha⟩

theorem map_eq_error_iff {f : α → β} {result : Except ε α} {fault : ε} :
    f <$> result = .error fault ↔ result = .error fault := by
  cases result with
  | error fault' => simp [Functor.map, Except.map]
  | ok a => simp [Functor.map, Except.map]

theorem bind_eq_error_iff {result : Except ε α} {next : α → Except ε β} {fault : ε} :
    result >>= next = .error fault ↔
      result = .error fault ∨ ∃ a, result = .ok a ∧ next a = .error fault := by
  cases result with
  | error fault' => simp [bind, Except.bind]
  | ok a => simp [bind, Except.bind]

end Lists

namespace Document

/-! ## Members of a kind -/

section Members

variable {member : Option Json}

theorem bind_object?_eq_some_iff {members : List (String × Json)} :
    member.bind Json.object? = some members ↔ member = some (.object members) := by
  rcases member with _ | _ | _ | _ | _ | _ | _ | _ <;> simp [Json.object?]

theorem bind_array?_eq_some_iff {items : List Json} :
    member.bind Json.array? = some items ↔ member = some (.array items) := by
  rcases member with _ | _ | _ | _ | _ | _ | _ | _ <;> simp [Json.array?]

theorem bind_string?_eq_some_iff {text : String} :
    member.bind Json.string? = some text ↔ member = some (.string text) := by
  rcases member with _ | _ | _ | _ | _ | _ | _ | _ <;> simp [Json.string?]

theorem mapM_string?_eq_some_iff {items : List Json} {texts : List String} :
    items.mapM Json.string? = some texts ↔ items = texts.map .string := by
  induction items generalizing texts with
  | nil => cases texts <;> simp
  | cons item items ih =>
    have hitem (t : String) : item.string? = some t ↔ item = .string t := by
      simpa using @bind_string?_eq_some_iff (some item) t
    cases texts with
    | nil => simp [List.mapM_cons, Option.bind_eq_some_iff]
    | cons t texts => simp [List.mapM_cons, Option.bind_eq_some_iff, hitem, ih]

end Members

/-! ## Names -/

/-- The value names a state or a rule: by a text, which stands for itself, or by a whole number of
    64 bits, signed or unsigned, which stands for its decimal text. -/
inductive Names : Json → String → Prop
  | text (t : String) : Names (.string t) t
  | number {n : Int} (hlow : -2 ^ 63 ≤ n) (hhigh : n < 2 ^ 64) : Names (.integer n) (toString n)

theorem name?_eq_some_iff {value : Json} {text : String} :
    name? value = some text ↔ Names value text := by
  constructor
  · intro h
    cases value with
    | integer n =>
      rw [name?] at h
      split_ifs at h with hn
      cases h
      exact .number (by omega) (by omega)
    | string t =>
      cases h
      exact .text _
    | _ => cases h
  · intro h
    cases h with
    | text t => rfl
    | @number n hlow hhigh =>
      have hn : -9223372036854775808 ≤ n ∧ n ≤ 18446744073709551615 := by omega
      rw [name?, if_pos hn]

/-- The member `key` of the value names `text`. -/
def MemberNames (value : Json) (key text : String) : Prop :=
  ∃ v, value.member? key = some v ∧ Names v text

section Payload

variable {value : Json} {key text : String}

theorem MemberNames.unique {text' : String} (h : MemberNames value key text)
    (h' : MemberNames value key text') : text = text' := by
  obtain ⟨v, hv, hname⟩ := h
  obtain ⟨v', hv', hname'⟩ := h'
  rw [hv] at hv'
  cases hv'
  rw [← name?_eq_some_iff] at hname hname'
  exact Option.some.inj (hname.symm.trans hname')

theorem bind_name?_eq_some_iff :
    (value.member? key).bind name? = some text ↔ MemberNames value key text := by
  simp only [Option.bind_eq_some_iff, name?_eq_some_iff, MemberNames]

theorem payload_eq_name_iff : payload value key = .name text ↔ MemberNames value key text := by
  rw [← bind_name?_eq_some_iff, payload]
  cases value.member? key with
  | none => simp
  | some v => cases hv : name? v <;> simp [hv]

theorem payload_eq_absent_iff : payload value key = .absent ↔ value.member? key = none := by
  rw [payload]
  cases value.member? key with
  | none => simp
  | some v => cases hv : name? v <;> simp [hv]

theorem payload_eq_unusable_iff :
    payload value key = .unusable ↔
      value.member? key ≠ none ∧ ∀ text, ¬MemberNames value key text := by
  simp only [← bind_name?_eq_some_iff]
  rw [payload]
  cases value.member? key with
  | none => simp
  | some v => cases hv : name? v <;> simp [hv]

theorem not_memberNames (h : ∀ t, payload value key ≠ .name t) (t : String) :
    ¬MemberNames value key t := by
  intro ht
  exact h t (payload_eq_name_iff.2 ht)

theorem payload_eq_of_not_memberNames (h : ∀ t, ¬MemberNames value key t) :
    payload value key = .absent ∨ payload value key = .unusable := by
  cases hp : payload value key with
  | absent => exact .inl rfl
  | unusable => exact .inr rfl
  | name t => exact absurd (payload_eq_name_iff.1 hp) (h t)

end Payload

/-! ## Actions -/

/-- The value is an object that says by a text of what kind it is. -/
def HasKind (value : Json) (kind : String) : Prop := value.member? "type" = some (.string kind)

/-- The kinds of actions that an automaton knows. -/
def knownKinds : List String := ["accept", "shift", "goto", "reduce", "shift_reduce"]

/-- The value writes an action. -/
inductive Writes (value : Json) : Action → Prop
  | accept (hkind : HasKind value "accept") : Writes value .accept
  | shift {d : String} (hkind : HasKind value "shift") (hd : MemberNames value "destination" d) :
      Writes value (.shift ⟨d⟩)
  | goto {d : String} (hkind : HasKind value "goto") (hd : MemberNames value "destination" d) :
      Writes value (.goto ⟨d⟩)
  | reduce {r : String} (hkind : HasKind value "reduce") (hr : MemberNames value "ruleNumber" r) :
      Writes value (.reduce ⟨r⟩)
  | mergedShift {d : String} (hkind : HasKind value "shift_reduce")
      (hd : MemberNames value "destination" d) : Writes value (.mergedShift ⟨d⟩)
  | mergedReduce {r : String} (hkind : HasKind value "shift_reduce")
      (hd : value.member? "destination" = none) (hr : MemberNames value "ruleNumber" r) :
      Writes value (.mergedReduce ⟨r⟩)
  /-- A transition to nowhere. -/
  | noDestination {kind : String} (hkind : HasKind value kind)
      (htransition : kind = "shift" ∨ kind = "goto")
      (hd : ∀ d, ¬MemberNames value "destination" d) :
      Writes value (.malformed kind "missing or invalid 'destination'")
  /-- A reduction by no rule. -/
  | noRule (hkind : HasKind value "reduce") (hr : ∀ r, ¬MemberNames value "ruleNumber" r) :
      Writes value (.malformed "reduce" "missing or invalid 'ruleNumber'")
  /-- A merged entry with a destination that is no name, whatever rule there is. -/
  | badDestination (hkind : HasKind value "shift_reduce")
      (hpresent : value.member? "destination" ≠ none)
      (hd : ∀ d, ¬MemberNames value "destination" d) :
      Writes value (.malformed "shift_reduce" "invalid 'destination'")
  /-- A merged entry without destination, with a rule that is no name. -/
  | badRule (hkind : HasKind value "shift_reduce") (hd : value.member? "destination" = none)
      (hpresent : value.member? "ruleNumber" ≠ none)
      (hr : ∀ r, ¬MemberNames value "ruleNumber" r) :
      Writes value (.malformed "shift_reduce" "invalid 'ruleNumber'")
  /-- A merged entry with neither. -/
  | noPayload (hkind : HasKind value "shift_reduce") (hd : value.member? "destination" = none)
      (hr : value.member? "ruleNumber" = none) :
      Writes value (.malformed "shift_reduce" "neither 'destination' nor 'ruleNumber' present")
  | unknown {kind : String} (hkind : HasKind value kind) (hknown : kind ∉ knownKinds) :
      Writes value (.unknown kind)

/-- The value is an object with a text for its kind. -/
def IsAction (value : Json) : Prop :=
  ∃ members kind, value = .object members ∧ HasKind value kind

variable {value : Json}

theorem isAction_iff : IsAction value ↔ ∃ kind, HasKind value kind := by
  constructor
  · rintro ⟨members, kind, -, hkind⟩
    exact ⟨kind, hkind⟩
  · rintro ⟨kind, hkind⟩
    obtain ⟨members, hobject, -⟩ := Json.exists_object_of_member? hkind
    exact ⟨members, kind, hobject, hkind⟩

/-- The action of an object is that of its kind and its payloads. -/
theorem action_of_hasKind {kind : String} (h : HasKind value kind) :
    action value =
      .ok (actionOfKind kind (payload value "destination") (payload value "ruleNumber")) := by
  obtain ⟨members, rfl, -⟩ := Json.exists_object_of_member? h
  rw [HasKind] at h
  simp only [action, Json.object?, h, Option.bind_some, Json.string?]

theorem hasKind_of_action {a : Action} (h : action value = .ok a) : ∃ kind, HasKind value kind := by
  unfold action at h
  split at h
  · cases h
  · split at h
    · cases h
    · rename_i kind hkind
      obtain ⟨v, hv, hstring⟩ := Option.bind_eq_some_iff.1 hkind
      cases v with
      | string t =>
        cases hstring
        exact ⟨kind, hv⟩
      | _ => cases hstring

/-- What is read as an action is an object with a text for its kind. -/
theorem exists_action_iff : (∃ a, action value = .ok a) ↔ IsAction value := by
  rw [isAction_iff]
  constructor
  · rintro ⟨a, ha⟩
    exact hasKind_of_action ha
  · rintro ⟨kind, hkind⟩
    exact ⟨_, action_of_hasKind hkind⟩

/-- The action of a kind is what an object of this kind writes. -/
theorem writes_actionOfKind {kind : String} (hkind : HasKind value kind) :
    Writes value
      (actionOfKind kind (payload value "destination") (payload value "ruleNumber")) := by
  unfold actionOfKind
  split
  · exact .accept hkind
  · cases hd : payload value "destination" with
    | name d => exact .shift hkind (payload_eq_name_iff.1 hd)
    | _ => exact .noDestination hkind (.inl rfl) (not_memberNames (by simp [hd]))
  · cases hd : payload value "destination" with
    | name d => exact .goto hkind (payload_eq_name_iff.1 hd)
    | _ => exact .noDestination hkind (.inr rfl) (not_memberNames (by simp [hd]))
  · cases hr : payload value "ruleNumber" with
    | name r => exact .reduce hkind (payload_eq_name_iff.1 hr)
    | _ => exact .noRule hkind (not_memberNames (by simp [hr]))
  · cases hd : payload value "destination" with
    | name d => exact .mergedShift hkind (payload_eq_name_iff.1 hd)
    | unusable =>
      obtain ⟨hpresent, hnone⟩ := payload_eq_unusable_iff.1 hd
      exact .badDestination hkind hpresent hnone
    | absent =>
      have habsent := payload_eq_absent_iff.1 hd
      cases hr : payload value "ruleNumber" with
      | name r => exact .mergedReduce hkind habsent (payload_eq_name_iff.1 hr)
      | unusable =>
        obtain ⟨hpresent, hnone⟩ := payload_eq_unusable_iff.1 hr
        exact .badRule hkind habsent hpresent hnone
      | absent => exact .noPayload hkind habsent (payload_eq_absent_iff.1 hr)
  · rename_i haccept hshift hgoto hreduce hmerged
    refine .unknown hkind ?_
    simp only [knownKinds, List.mem_cons, List.not_mem_nil, or_false, not_or]
    exact ⟨haccept, hshift, hgoto, hreduce, hmerged⟩

/-- What an object writes is the action of its kind. -/
theorem Writes.exists_kind {a : Action} (h : Writes value a) :
    ∃ kind, HasKind value kind ∧
      a = actionOfKind kind (payload value "destination") (payload value "ruleNumber") := by
  cases h with
  | accept hkind => exact ⟨_, hkind, rfl⟩
  | shift hkind hd => exact ⟨_, hkind, by rw [payload_eq_name_iff.2 hd]; rfl⟩
  | goto hkind hd => exact ⟨_, hkind, by rw [payload_eq_name_iff.2 hd]; rfl⟩
  | reduce hkind hr => exact ⟨_, hkind, by rw [payload_eq_name_iff.2 hr]; rfl⟩
  | mergedShift hkind hd => exact ⟨_, hkind, by rw [payload_eq_name_iff.2 hd]; rfl⟩
  | mergedReduce hkind hd hr =>
    exact ⟨_, hkind, by rw [payload_eq_absent_iff.2 hd, payload_eq_name_iff.2 hr]; rfl⟩
  | noDestination hkind htransition hd =>
    refine ⟨_, hkind, ?_⟩
    rcases payload_eq_of_not_memberNames hd with hd | hd <;> rw [hd] <;>
      rcases htransition with rfl | rfl <;> rfl
  | noRule hkind hr =>
    refine ⟨_, hkind, ?_⟩
    rcases payload_eq_of_not_memberNames hr with hr | hr <;> rw [hr] <;> rfl
  | badDestination hkind hpresent hd =>
    exact ⟨_, hkind, by rw [payload_eq_unusable_iff.2 ⟨hpresent, hd⟩]; rfl⟩
  | badRule hkind hd hpresent hr =>
    refine ⟨_, hkind, ?_⟩
    rw [payload_eq_absent_iff.2 hd, payload_eq_unusable_iff.2 ⟨hpresent, hr⟩]
    rfl
  | noPayload hkind hd hr =>
    exact ⟨_, hkind, by rw [payload_eq_absent_iff.2 hd, payload_eq_absent_iff.2 hr]; rfl⟩
  | unknown hkind hknown =>
    refine ⟨_, hkind, ?_⟩
    unfold actionOfKind
    split <;> simp [knownKinds] at hknown ⊢

/-- A value is read as the action that it writes. -/
theorem action_eq_ok_iff {a : Action} : action value = .ok a ↔ Writes value a := by
  constructor
  · intro h
    obtain ⟨kind, hkind⟩ := hasKind_of_action h
    rw [action_of_hasKind hkind] at h
    cases h
    exact writes_actionOfKind hkind
  · intro h
    obtain ⟨kind, hkind, rfl⟩ := h.exists_kind
    exact action_of_hasKind hkind

/-! ## Cells -/

/-- The value writes a cell: a list of candidates, whatever its length, or a single action. -/
inductive WritesCell : Json → Cell → Prop
  | conflict {items : List Json} {candidates : List Action}
      (hitems : List.Forall₂ Writes items candidates) :
      WritesCell (.array items) (.conflict candidates)
  | single {value : Json} {a : Action} (hvalue : Writes value a) : WritesCell value (.single a)

/-- The value is an action or a list of actions. -/
def IsCell (value : Json) : Prop :=
  IsAction value ∨ ∃ items, value = .array items ∧ ∀ item ∈ items, IsAction item

theorem not_writes_array {items : List Json} {a : Action} : ¬Writes (.array items) a := by
  intro h
  obtain ⟨kind, hkind, -⟩ := h.exists_kind
  cases hkind

theorem cell_of_ne_array (h : ∀ items, value ≠ .array items) :
    cell value = .single <$> action value := by
  cases value with
  | array items => exact absurd rfl (h items)
  | _ => rfl

theorem cell_array_eq_ok_iff {items : List Json} {c : Cell} :
    cell (.array items) = .ok c ↔
      ∃ candidates, List.Forall₂ Writes items candidates ∧ .conflict candidates = c := by
  show (Cell.conflict <$> items.mapM action) = .ok c ↔ _
  simp only [map_eq_ok_iff, mapM_eq_ok_iff, action_eq_ok_iff]

/-- A value is read as the cell that it writes. -/
theorem cell_eq_ok_iff {c : Cell} : cell value = .ok c ↔ WritesCell value c := by
  by_cases harray : ∃ items, value = .array items
  · obtain ⟨items, rfl⟩ := harray
    rw [cell_array_eq_ok_iff]
    constructor
    · rintro ⟨candidates, hitems, rfl⟩
      exact .conflict hitems
    · intro h
      cases h with
      | conflict hitems => exact ⟨_, hitems, rfl⟩
      | single hvalue => exact absurd hvalue not_writes_array
  · have hne : ∀ items, value ≠ .array items := fun items heq => harray ⟨items, heq⟩
    rw [cell_of_ne_array hne, map_eq_ok_iff]
    constructor
    · rintro ⟨a, ha, rfl⟩
      exact .single (action_eq_ok_iff.1 ha)
    · intro h
      cases h with
      | conflict hitems => exact absurd rfl (hne _)
      | single hvalue => exact ⟨_, action_eq_ok_iff.2 hvalue, rfl⟩

/-- What is read as a cell is an action or a list of actions. -/
theorem exists_cell_iff : (∃ c, cell value = .ok c) ↔ IsCell value := by
  have hactions (v : Json) : (∃ a, Writes v a) ↔ IsAction v := by
    simp only [← action_eq_ok_iff, exists_action_iff]
  simp only [cell_eq_ok_iff]
  constructor
  · rintro ⟨c, h⟩
    cases h with
    | conflict hitems =>
      refine .inr ⟨_, rfl, fun item hitem => ?_⟩
      exact (hactions item).1 (exists_forall₂_iff.1 ⟨_, hitems⟩ item hitem)
    | single hvalue => exact .inl ((hactions _).1 ⟨_, hvalue⟩)
  · rintro (hvalue | ⟨items, rfl, hitems⟩)
    · obtain ⟨a, ha⟩ := (hactions value).2 hvalue
      exact ⟨_, .single ha⟩
    · obtain ⟨candidates, hcandidates⟩ :=
        exists_forall₂_iff.2 fun item hitem => (hactions item).2 (hitems item hitem)
      exact ⟨_, .conflict hcandidates⟩

/-! ## Productions -/

/-- The value writes a production with its number. -/
structure WritesProduction (value : Json) (rule : RuleId) (p : Production) : Prop where
  /-- The number names the rule. -/
  number : MemberNames value "productionNumber" rule.text
  /-- The left side is a text. -/
  lhs : value.member? "lhs" = some (.string p.lhs)
  /-- The right side is a list of texts. -/
  rhs : value.member? "rhs" = some (.array (p.rhs.map .string))

/-- The value is an object with a number, a left side and a right side. -/
structure IsProduction (value : Json) : Prop where
  /-- The number is a name. -/
  number : ∃ number, MemberNames value "productionNumber" number
  /-- The left side is a text. -/
  lhs : ∃ lhs, value.member? "lhs" = some (.string lhs)
  /-- The right side is a list of texts. -/
  rhs : ∃ rhs : List String, value.member? "rhs" = some (.array (rhs.map .string))

theorem isProduction_iff : IsProduction value ↔ ∃ rule p, WritesProduction value rule p := by
  constructor
  · rintro ⟨⟨number, hnumber⟩, ⟨lhs, hlhs⟩, ⟨rhs, hrhs⟩⟩
    exact ⟨⟨number⟩, ⟨lhs, rhs⟩, hnumber, hlhs, hrhs⟩
  · rintro ⟨rule, p, h⟩
    exact ⟨⟨_, h.number⟩, ⟨_, h.lhs⟩, ⟨_, h.rhs⟩⟩

/-- A value is read as the production that it writes. -/
theorem production_eq_ok_iff {rule : RuleId} {p : Production} :
    production value = .ok (rule, p) ↔ WritesProduction value rule p := by
  constructor
  · intro h
    unfold production at h
    split at h
    · cases h
    rename_i number hnumber
    split at h
    · cases h
    rename_i lhs hlhs
    split at h
    · cases h
    rename_i entries hentries
    split at h
    · cases h
    rename_i rhs hrhs
    cases h
    rw [mapM_string?_eq_some_iff] at hrhs
    subst hrhs
    exact ⟨bind_name?_eq_some_iff.1 hnumber, bind_string?_eq_some_iff.1 hlhs,
      bind_array?_eq_some_iff.1 hentries⟩
  · rintro ⟨hnumber, hlhs, hrhs⟩
    simp only [production, bind_name?_eq_some_iff.2 hnumber, bind_string?_eq_some_iff.2 hlhs,
      bind_array?_eq_some_iff.2 hrhs, mapM_string?_eq_some_iff.2 rfl]

end Document

end ShiftReduce
