import Mathlib.Data.List.Basic
import ShiftReduce.Proofs.Numerals
import ShiftReduce.Proofs.Run
import ShiftReduce.Proofs.Stack
import ShiftReduce.Report

/-!
# What reports tell

A report of a verdict or of a history tells which one it is. The elements of a stack are reported by
their texts alone, but states and symbols take turns on a stack, so that the place of a text tells
what it is the text of. A fault is reported by its kind and a message with texts and numbers in it.
A number is the last thing in the message or has a fixed text behind it, so it can be told from the
right, whatever the texts in front of it are. Only a missing transition has two texts in its
message, and where the first of them ends cannot be told.

* `Trace.Recorded`: the histories that are recorded of runs.
* `Verdict.LacksTransition`: the verdicts that a transition is missing.

Results:
* `Stack.items_eq_of_texts`: a stack is known by the texts of its elements.
* `append_number_inj`: a number behind a blank is told from what is in front of it.
* `Fault.eq_of_message`: a fault is known by its kind and message, unless a transition is missing.
* `reports_tell_all`: recorded histories and verdicts are known by their reports.
-/

namespace ShiftReduce

/-! ## Names -/

theorem StateId.eq_of_text {s s' : StateId} (h : s.text = s'.text) : s = s' := by
  cases s
  cases s'
  cases h
  rfl

theorem RuleId.eq_of_text {r r' : RuleId} (h : r.text = r'.text) : r = r' := by
  cases r
  cases r'
  cases h
  rfl

/-! ## Histories -/

/-- Lists are the same if their images are and what is at the same place on both sides is known by
    its image. -/
theorem eq_of_map_eq_map {α β : Type} {f : α → β} {l l' : List α} (h : l.map f = l'.map f)
    (hinj : ∀ (i : Nat) (a b : α), l[i]? = some a → l'[i]? = some b → f a = f b → a = b) :
    l = l' := by
  refine List.ext_getElem? fun i => ?_
  have himage : l[i]?.map f = l'[i]?.map f := by
    rw [← List.getElem?_map, ← List.getElem?_map, h]
  cases ha : l[i]? with
  | none =>
    rw [ha, Option.map_none] at himage
    exact (Option.map_eq_none_iff.1 himage.symm).symm
  | some a =>
    rw [ha, Option.map_some] at himage
    obtain ⟨b, hb, hab⟩ := Option.map_eq_some_iff.1 himage.symm
    rw [hb]
    exact congrArg some (hinj i a b ha hb hab.symm)

/-- An element is known by its text and by whether it is a state. -/
theorem StackItem.eq_of_text {a b : StackItem} (hkind : a.isState = b.isState)
    (htext : a.text = b.text) : a = b := by
  cases a with
  | state s =>
    cases b with
    | state s' => exact congrArg state (StateId.eq_of_text htext)
    | symbol X' => cases hkind
  | symbol X =>
    cases b with
    | state s' => cases hkind
    | symbol X' => exact congrArg symbol htext

/-- States and symbols take turns, so a stack is known by the texts of its elements. -/
theorem Stack.items_eq_of_texts {s s' : Stack}
    (h : s.items.map StackItem.text = s'.items.map StackItem.text) : s.items = s'.items := by
  refine eq_of_map_eq_map h fun i a b ha hb htext => StackItem.eq_of_text ?_ htext
  rw [s.isState_items ha, s'.isState_items hb]

theorem Json.lookahead_inj {token token' : Option Symbol}
    (h : token.elim Json.null .string = token'.elim Json.null .string) : token = token' := by
  cases token with
  | none =>
    cases token' with
    | none => rfl
    | some X' => cases h
  | some X =>
    cases token' with
    | none => cases h
    | some X' => exact congrArg some (Json.string.inj h)

/-- A line is known by its report if its stack is one. -/
theorem TraceRow.eq_of_toJson {row row' : TraceRow} {s s' : Stack} (hs : row.stack = s.items)
    (hs' : row'.stack = s'.items) (h : row.toJson = row'.toJson) : row = row' := by
  obtain ⟨index, state, lookahead, position, stack, action⟩ := row
  obtain ⟨index', state', lookahead', position', stack', action'⟩ := row'
  subst hs hs'
  simp only [toJson, Json.ofNat, Json.object.injEq, List.cons.injEq, Prod.mk.injEq, true_and,
    and_true, Json.string.injEq, Json.integer.injEq, Json.array.injEq, Int.natCast_inj] at h
  obtain ⟨rfl, hlookahead, rfl, hstack, hstate, rfl⟩ := h
  have htexts : s.items.map StackItem.text = s'.items.map StackItem.text := by
    have hstrings : (s.items.map StackItem.text).map Json.string =
        (s'.items.map StackItem.text).map Json.string := by
      rw [List.map_map, List.map_map]
      exact hstack
    exact List.map_injective_iff.2 (fun _ _ => Json.string.inj) hstrings
  rw [Json.lookahead_inj hlookahead, StateId.eq_of_text hstate, Stack.items_eq_of_texts htexts]

/-- The history is recorded of some run. -/
def Trace.Recorded (trace : Trace) : Prop :=
  ∃ (m : Machine) (fuel : Nat) (v : Verdict), m.runTraced? fuel = some (v, trace)

/-- Every line of a history shows a stack. -/
theorem Machine.exists_stack_of_mem_traceFrom? {m : Machine} {fuel index : Nat} {v : Verdict}
    {rows : List TraceRow} (h : traceFrom? fuel index m = some (v, rows)) :
    ∀ row ∈ rows, ∃ s : Stack, row.stack = s.items := by
  induction fuel generalizing m index v rows with
  | zero => cases h
  | succ fuel ih =>
    rw [traceFrom?] at h
    rcases hstep : m.step with ⟨m', t | v'⟩
    · rw [hstep] at h
      obtain ⟨⟨v', rest⟩, hrest, heq⟩ := Option.map_eq_some_iff.1 h
      cases heq
      intro row hrow
      rcases List.mem_cons.1 hrow with rfl | hrow
      · exact ⟨m.stack, rfl⟩
      · exact ih hrest row hrow
    · rw [hstep] at h
      cases h
      intro row hrow
      cases List.mem_singleton.1 hrow
      exact ⟨m.stack, rfl⟩

theorem Trace.Recorded.exists_stack {trace : Trace} (h : trace.Recorded) {row : TraceRow}
    (hrow : row ∈ trace.rows) : ∃ s : Stack, row.stack = s.items := by
  obtain ⟨m, fuel, v, hrun⟩ := h
  obtain ⟨⟨v', rows⟩, hrows, heq⟩ := Option.map_eq_some_iff.1 hrun
  cases heq
  exact Machine.exists_stack_of_mem_traceFrom? hrows row hrow

/-- Recorded histories are known by their reports. -/
theorem Trace.Recorded.eq_of_toJson {trace trace' : Trace} (h : trace.Recorded)
    (h' : trace'.Recorded) (heq : trace.toJson = trace'.toJson) : trace = trace' := by
  have hrows : trace.rows = trace'.rows := by
    refine eq_of_map_eq_map (Json.array.inj heq) fun i row row' hrow hrow' hreport => ?_
    obtain ⟨s, hs⟩ := h.exists_stack (List.mem_of_getElem? hrow)
    obtain ⟨s', hs'⟩ := h'.exists_stack (List.mem_of_getElem? hrow')
    exact TraceRow.eq_of_toJson hs hs' hreport
  exact congrArg Trace.mk hrows

/-! ## Numbers in messages -/

/-- What is in front of the last occurrence of `c` is told from what is behind it. -/
theorem append_cons_inj_of_notMem_right {α : Type} {c : α} {front front' rear rear' : List α}
    (hrear : c ∉ rear) (hrear' : c ∉ rear') (h : front ++ c :: rear = front' ++ c :: rear') :
    front = front' ∧ rear = rear' := by
  rcases List.append_eq_append_iff.1 h with ⟨between, rfl, htail⟩ | ⟨between, rfl, htail⟩
  · cases between with
    | nil => exact ⟨(List.append_nil _).symm, (List.cons.inj htail).2⟩
    | cons d between =>
      refine absurd ?_ hrear
      rw [(List.cons.inj htail).2]
      simp
  · cases between with
    | nil => exact ⟨List.append_nil _, (List.cons.inj htail).2.symm⟩
    | cons d between =>
      refine absurd ?_ hrear'
      rw [(List.cons.inj htail).2]
      simp

/-- A number behind a blank is told from what is in front of it. -/
theorem append_number_inj {front front' : String} {n n' : Nat}
    (h : front ++ " " ++ toString n = front' ++ " " ++ toString n') : front = front' ∧ n = n' := by
  have hletters : front.toList ++ ' ' :: (toString n).toList =
      front'.toList ++ ' ' :: (toString n').toList := by
    have := congrArg String.toList h
    simpa using this
  obtain ⟨hfront, hnumber⟩ := append_cons_inj_of_notMem_right (notMem_number rfl n)
    (notMem_number rfl n') hletters
  exact ⟨String.toList_inj.1 hfront, number_inj (String.toList_inj.1 hnumber)⟩

/-! ## Verdicts -/

theorem Fault.message_missingProduction_inj {rule rule' : RuleId}
    (h : (missingProduction rule).message = (missingProduction rule').message) : rule = rule' := by
  have htext : "production " ++ rule.text = "production " ++ rule'.text :=
    (String.append_left_inj " not found").1 h
  exact RuleId.eq_of_text ((String.append_right_inj "production ").1 htext)

theorem Fault.message_inputExhausted_inj {position position' : Nat}
    (h : (inputExhausted position).message = (inputExhausted position').message) :
    position = position' := by
  have hnumber : "input exhausted at position " ++ toString position =
      "input exhausted at position " ++ toString position' :=
    (String.append_left_inj " without an end marker").1 h
  exact number_inj ((String.append_right_inj "input exhausted at position ").1 hnumber)

theorem Fault.message_stackUnderflow (rule : RuleId) (needed available : Nat) :
    (stackUnderflow rule needed available).message =
      "stack underflow reducing by rule " ++ rule.text ++ ": need" ++ " " ++ toString needed ++
        " elements, have" ++ " " ++ toString available := by
  show "stack underflow reducing by rule " ++ rule.text ++ ": need " ++ toString needed ++
    " elements, have " ++ toString available = _
  simp only [String.append_assoc, String.reduceAppend]

/-- The two numbers are told from the right, and the rule is what is left. -/
theorem Fault.message_stackUnderflow_inj {rule rule' : RuleId}
    {needed needed' available available' : Nat}
    (h : (stackUnderflow rule needed available).message =
      (stackUnderflow rule' needed' available').message) :
    rule = rule' ∧ needed = needed' ∧ available = available' := by
  rw [message_stackUnderflow, message_stackUnderflow] at h
  obtain ⟨hfront, havailable⟩ := append_number_inj h
  obtain ⟨hrule, hneeded⟩ := append_number_inj ((String.append_left_inj " elements, have").1 hfront)
  have htext := (String.append_right_inj _).1 ((String.append_left_inj ": need").1 hrule)
  exact ⟨RuleId.eq_of_text htext, hneeded, havailable⟩

/-- The verdict is that a transition is missing. -/
def Verdict.LacksTransition (v : Verdict) : Prop := ∃ s X, v = .fatal (.missingGoto s X)

/-- A fault is known by its kind and message, unless it is that a transition is missing. -/
theorem Fault.eq_of_message {fault fault' : Fault} (hkind : fault.kind = fault'.kind)
    (hmessage : fault.message = fault'.message)
    (hknown : ∀ s X s' X', ¬(fault = missingGoto s X ∧ fault' = missingGoto s' X')) :
    fault = fault' := by
  cases fault with
  | missingProduction rule =>
    cases fault' with
    | missingProduction rule' => rw [message_missingProduction_inj hmessage]
    | _ => simp [kind] at hkind
  | missingGoto s X =>
    cases fault' with
    | missingGoto s' X' => exact absurd ⟨rfl, rfl⟩ (hknown s X s' X')
    | _ => simp [kind] at hkind
  | stackUnderflow rule needed available =>
    cases fault' with
    | stackUnderflow rule' needed' available' =>
      obtain ⟨rfl, rfl, rfl⟩ := message_stackUnderflow_inj hmessage
      rfl
    | _ => simp [kind] at hkind
  | inputExhausted position =>
    cases fault' with
    | inputExhausted position' => rw [message_inputExhausted_inj hmessage]
    | _ => simp [kind] at hkind

/-- A rejection is reported by its fields, under names that differ from kind to kind. -/
theorem Rejection.eq_of_toJson {reason reason' : Rejection} (h : reason.toJson = reason'.toJson) :
    reason = reason' := by
  cases reason with
  | syntaxError s X position =>
    cases reason' with
    | syntaxError s' X' position' =>
      simp only [toJson, Json.ofNat, Json.object.injEq, List.cons.injEq, Prod.mk.injEq, true_and,
        and_true, Json.integer.injEq, Json.string.injEq, Int.natCast_inj] at h
      obtain ⟨rfl, -, hstate, rfl⟩ := h
      rw [StateId.eq_of_text hstate]
    | _ => simp [toJson] at h
  | conflict s X =>
    cases reason' with
    | conflict s' X' =>
      simp only [toJson, Json.object.injEq, List.cons.injEq, Prod.mk.injEq, true_and, and_true,
        Json.string.injEq] at h
      obtain ⟨-, hstate, rfl⟩ := h
      rw [StateId.eq_of_text hstate]
    | _ => simp [toJson] at h
  | malformedEntry s X actionType detail =>
    cases reason' with
    | malformedEntry s' X' actionType' detail' =>
      simp only [toJson, Json.object.injEq, List.cons.injEq, Prod.mk.injEq, true_and, and_true,
        Json.string.injEq] at h
      obtain ⟨rfl, rfl, -, hstate, rfl⟩ := h
      rw [StateId.eq_of_text hstate]
    | _ => simp [toJson] at h
  | unknownAction s X actionType =>
    cases reason' with
    | unknownAction s' X' actionType' =>
      simp only [toJson, Json.object.injEq, List.cons.injEq, Prod.mk.injEq, true_and, and_true,
        Json.string.injEq] at h
      obtain ⟨rfl, -, hstate, rfl⟩ := h
      rw [StateId.eq_of_text hstate]
    | _ => simp [toJson] at h

/-- Verdicts are known by their reports, unless a transition is missing. -/
theorem Verdict.eq_of_toJson {v v' : Verdict} (hknown : ¬(v.LacksTransition ∧ v'.LacksTransition))
    (h : v.toJson = v'.toJson) : v = v' := by
  cases v with
  | accepted =>
    cases v' with
    | accepted => rfl
    | rejected reason' => cases reason' <;> simp [toJson, Rejection.toJson] at h
    | fatal fault' => simp [toJson] at h
  | rejected reason =>
    cases v' with
    | accepted => cases reason <;> simp [toJson, Rejection.toJson] at h
    | rejected reason' => rw [Rejection.eq_of_toJson h]
    | fatal fault' => cases reason <;> simp [toJson, Rejection.toJson] at h
  | fatal fault =>
    cases v' with
    | accepted => simp [toJson] at h
    | rejected reason' => cases reason' <;> simp [toJson, Rejection.toJson] at h
    | fatal fault' =>
      simp only [toJson, Json.object.injEq, List.cons.injEq, Prod.mk.injEq, true_and, and_true,
        Json.string.injEq] at h
      refine congrArg fatal (Fault.eq_of_message h.2 h.1 fun s X s' X' hlacks => hknown ?_)
      obtain ⟨rfl, rfl⟩ := hlacks
      exact ⟨⟨s, X, rfl⟩, ⟨s', X', rfl⟩⟩

/-- **Reports tell all.** Histories of runs are the same if and only if their reports are, with
    states and symbols told apart. So are verdicts, of whatever texts and numbers, unless both say
    that a transition is missing. -/
theorem reports_tell_all :
    (∀ trace trace' : Trace, trace.Recorded → trace'.Recorded →
      (trace.toJson = trace'.toJson ↔ trace = trace')) ∧
    ∀ v v' : Verdict, ¬(v.LacksTransition ∧ v'.LacksTransition) →
      (v.toJson = v'.toJson ↔ v = v') :=
  ⟨fun _ _ h h' => ⟨h.eq_of_toJson h', congrArg Trace.toJson⟩,
    fun _ _ hknown => ⟨Verdict.eq_of_toJson hknown, congrArg Verdict.toJson⟩⟩

/-- State 1 goes to itself on the token 1. -/
def selfNamed : Model where
  table := Table.ofCells [(⟨⟨"1"⟩, "1"⟩, .single (.shift ⟨"1"⟩))]
  productions := SortedMap.empty

/-- A stack of nothing but ones is no obstacle, nor is a rule with the words of the message in its
    name. -/
theorem reports_tell_all_selfNamed :
    (∃ trace trace' : Trace,
      (Machine.start selfNamed ["1"]).runTraced? 2 = some (.fatal (.inputExhausted 1), trace) ∧
      (Machine.start selfNamed ["1", "1"]).runTraced? 3 =
        some (.fatal (.inputExhausted 2), trace') ∧
      trace.toJson ≠ trace'.toJson) ∧
    ¬(Verdict.fatal (.stackUnderflow ⟨"0: need 3 elements, have 1"⟩ 5 1)).LacksTransition ∧
    (Verdict.fatal (.stackUnderflow ⟨"0: need 3 elements, have 1"⟩ 5 1)).toJson ≠
      (Verdict.fatal (.stackUnderflow ⟨"0"⟩ 3 1)).toJson := by
  obtain ⟨htraces, hverdicts⟩ := reports_tell_all
  have hone : (Machine.start selfNamed ["1"]).SettlesAfter 1 (.fatal (.inputExhausted 1)) :=
    ⟨by decide, by decide⟩
  have htwo : (Machine.start selfNamed ["1", "1"]).SettlesAfter 2 (.fatal (.inputExhausted 2)) :=
    ⟨by decide, by decide⟩
  have hrun := hone.runTraced?_eq (show 1 < 2 by decide)
  have hrun' := htwo.runTraced?_eq (show 2 < 3 by decide)
  have hlacks :
      ¬(Verdict.fatal (.stackUnderflow ⟨"0: need 3 elements, have 1"⟩ 5 1)).LacksTransition := by
    rintro ⟨s, X, h⟩
    cases h
  refine ⟨⟨_, _, hrun, hrun', ?_⟩, hlacks, ?_⟩
  · rw [Ne, htraces _ _ ⟨_, _, _, hrun⟩ ⟨_, _, _, hrun'⟩]
    decide
  · rw [Ne, hverdicts _ _ fun h => hlacks h.1]
    decide

/-- Where the symbol ends that has no transition cannot be told from a report. -/
example : (Verdict.fatal (.missingGoto ⟨"c"⟩ "a' in state b")).toJson =
    (Verdict.fatal (.missingGoto ⟨"b' in state c"⟩ "a")).toJson := by rfl

end ShiftReduce
