import ShiftReduce.Proofs.Sums

/-!
# The ambiguous table and its override

A table for sums of identifiers, where a sum is put together of any two sums. The grammar does not
say how more than two identifiers belong together, and the table has a conflict where a plus sign
follows two of them. The override reduces there, and so the sums are put together from the left.

* `Sums.ambiguousDocument`, `Sums.ambiguousModel`: the table as a document and as a model.
* `Sums.leftDocument`, `Sums.leftTable`, `Sums.leftModel`: the override and the model with it.
* `Sums.leftTransitions`: the transitions that put a sum together from the left.

Results:
* `Sums.ReadsSums`: what runs over sums look up, apart from the conflict.
* `Sums.advances_round`: a plus sign and an identifier are read and added to what was there before.
* `Sums.advances_rounds`: the same any number of times.
* `Sums.override_associates_left`: the runs over sums, with overrides and without.
-/

namespace ShiftReduce

namespace Sums

open Machine

/-! ## The table -/

/-- The table as a document. -/
def ambiguousDocument : Json :=
  Document.tableDocument
    (.object [
      ("1", .ofMembers [("id", shiftEntry 3), ("E", gotoEntry 2)]),
      ("2", .ofMembers [("+", shiftEntry 4), ("$", acceptEntry)]),
      ("3", .ofMembers [("+", reduceEntry 2), ("$", reduceEntry 2)]),
      ("4", .ofMembers [("id", shiftEntry 3), ("E", gotoEntry 5)]),
      ("5", .ofMembers [("+", .array [shiftEntry 4, reduceEntry 1]), ("$", reduceEntry 1)])])
    [productionEntry 0 "S'" ["E"], productionEntry 1 "E" ["E", "+", "E"],
      productionEntry 2 "E" ["id"]]

/-- The override as a document. -/
def leftDocument : Json := .object [("5", .ofMembers [("+", reduceEntry 1)])]

/-- The model that the document of the table writes. -/
def ambiguousModel : Model where
  table := Table.ofCells [
    (⟨⟨"1"⟩, "id"⟩, .single (.shift ⟨"3"⟩)),
    (⟨⟨"1"⟩, "E"⟩, .single (.goto ⟨"2"⟩)),
    (⟨⟨"2"⟩, "+"⟩, .single (.shift ⟨"4"⟩)),
    (⟨⟨"2"⟩, "$"⟩, .single .accept),
    (⟨⟨"3"⟩, "+"⟩, .single (.reduce ⟨"2"⟩)),
    (⟨⟨"3"⟩, "$"⟩, .single (.reduce ⟨"2"⟩)),
    (⟨⟨"4"⟩, "id"⟩, .single (.shift ⟨"3"⟩)),
    (⟨⟨"4"⟩, "E"⟩, .single (.goto ⟨"5"⟩)),
    (⟨⟨"5"⟩, "+"⟩, .conflict [.shift ⟨"4"⟩, .reduce ⟨"1"⟩]),
    (⟨⟨"5"⟩, "$"⟩, .single (.reduce ⟨"1"⟩))]
  productions := SortedMap.ofList [
    (⟨"0"⟩, ⟨"S'", ["E"]⟩), (⟨"1"⟩, ⟨"E", ["E", "+", "E"]⟩), (⟨"2"⟩, ⟨"E", ["id"]⟩)]

/-- The table that the document of the override writes. -/
def leftTable : Table := Table.ofCells [(⟨⟨"5"⟩, "+"⟩, .single (.reduce ⟨"1"⟩))]

/-- The model with the override. -/
def leftModel : Model := ambiguousModel.withOverrides leftTable

theorem model_ambiguousDocument : Document.model ambiguousDocument = .ok ambiguousModel := by
  decide +kernel

theorem overrides_leftDocument : Document.overrides leftDocument = .ok leftTable := by
  decide +kernel

/-! ## What runs over sums look up -/

/-- What runs over sums find, apart from what they find where a plus sign follows two sums. -/
structure ReadsSums (M : Model) (enabled : Bool) : Prop where
  /-- The start state is the usual one. -/
  start : M.startState = ⟨"1"⟩
  /-- An identifier comes first. -/
  identifier : M.lookupAction ⟨"1"⟩ "id" enabled = .found (.shift ⟨"3"⟩) .primary
  /-- Another one comes behind a plus sign. -/
  summand : M.lookupAction ⟨"4"⟩ "id" enabled = .found (.shift ⟨"3"⟩) .primary
  /-- An identifier is a sum, whatever may follow. -/
  single : ∀ t ∈ followers, M.lookupAction ⟨"3"⟩ t enabled = .found (.reduce ⟨"2"⟩) .primary
  /-- A plus sign may follow a sum. -/
  plus : M.lookupAction ⟨"2"⟩ "+" enabled = .found (.shift ⟨"4"⟩) .primary
  /-- At the end two sums are put together. -/
  last : M.lookupAction ⟨"5"⟩ "$" enabled = .found (.reduce ⟨"1"⟩) .primary
  /-- At the end a sum is accepted. -/
  accept : M.lookupAction ⟨"2"⟩ "$" enabled = .found .accept .primary
  /-- The production of a single identifier. -/
  singleRule : M.productions.get? ⟨"2"⟩ = some ⟨"E", ["id"]⟩
  /-- The production of two sums. -/
  sumRule : M.productions.get? ⟨"1"⟩ = some ⟨"E", ["E", "+", "E"]⟩
  /-- Where a sum leads to that comes first. -/
  gotoFirst : M.lookupGoto ⟨"1"⟩ "E" = .ok ⟨"2"⟩
  /-- Where a sum leads to behind a plus sign. -/
  gotoSummand : M.lookupGoto ⟨"4"⟩ "E" = .ok ⟨"5"⟩

/-- The override changes nothing of this. -/
theorem readsSums (M : Model) (hM : M = ambiguousModel ∨ M = leftModel) (enabled : Bool) :
    ReadsSums M enabled := by
  rcases hM with rfl | rfl <;> cases enabled <;> constructor <;> decide

/-! ## Pieces of runs over sums -/

/-- An identifier comes first, and it is a sum. -/
def firstIdentifier : List Transition :=
  [.shift ⟨"1"⟩ "id" ⟨"3"⟩ .primary, .reduce ⟨"3"⟩ ⟨"2"⟩ "E" 2 ⟨"2"⟩ .primary]

/-- An identifier comes behind a plus sign, and it is a sum on its own. -/
def nextIdentifier : List Transition :=
  [.shift ⟨"2"⟩ "+" ⟨"4"⟩ .primary, .shift ⟨"4"⟩ "id" ⟨"3"⟩ .primary,
    .reduce ⟨"3"⟩ ⟨"2"⟩ "E" 2 ⟨"5"⟩ .primary]

/-- The two sums on both sides of a plus sign are put together. -/
def addition (source : Source) : Transition := .reduce ⟨"5"⟩ ⟨"1"⟩ "E" 6 ⟨"2"⟩ source

/-- The stack with two sums on it and a plus sign between them. -/
def twoSumsStack : Stack := (sumStack.push "+" ⟨"4"⟩).push "E" ⟨"5"⟩

variable {M : Model} {tokens : List Symbol} {t : Symbol} {enabled : Bool} {source : Source}
variable {i j n : Nat}

theorem advances_first (h : ReadsSums M enabled) (hidentifier : tokens[0]? = some "id")
    (htoken : tokens[1]? = some t) (ht : t ∈ followers) :
    (fresh M tokens enabled).Advances firstIdentifier (midway M tokens enabled sumStack 1) := by
  have hshift : (midway M tokens enabled (.initial ⟨"1"⟩) 0).Advances _
      (midway M tokens enabled ((Stack.initial ⟨"1"⟩).push "id" ⟨"3"⟩) 1) :=
    midway_shift hidentifier h.identifier
  rw [fresh_eq_midway, h.start]
  exact hshift.append (midway_reduce htoken (h.single t ht) h.singleRule rfl h.gotoFirst)

/-- With a sum on the stack, a plus sign and an identifier behind it are read. -/
theorem advances_next (h : ReadsSums M enabled) (hplus : tokens[i]? = some "+")
    (hidentifier : tokens[i + 1]? = some "id") (htoken : tokens[i + 2]? = some t)
    (ht : t ∈ followers) :
    (midway M tokens enabled sumStack i).Advances nextIdentifier
      (midway M tokens enabled twoSumsStack (i + 2)) := by
  have hshift : (midway M tokens enabled sumStack i).Advances _
      (midway M tokens enabled (sumStack.push "+" ⟨"4"⟩) (i + 1)) :=
    midway_shift hplus h.plus
  have hshift' : (midway M tokens enabled (sumStack.push "+" ⟨"4"⟩) (i + 1)).Advances _
      (midway M tokens enabled ((sumStack.push "+" ⟨"4"⟩).push "id" ⟨"3"⟩) (i + 2)) :=
    midway_shift hidentifier h.summand
  have hreduce : (midway M tokens enabled ((sumStack.push "+" ⟨"4"⟩).push "id" ⟨"3"⟩)
      (i + 2)).Advances _ (midway M tokens enabled twoSumsStack (i + 2)) :=
    midway_reduce htoken (h.single t ht) h.singleRule rfl h.gotoSummand
  exact (hshift.append hshift').append hreduce

/-- Two sums are put together by the table that says so. -/
theorem advances_addition (h : ReadsSums M enabled) (htoken : tokens[i]? = some t)
    (hfound : M.lookupAction ⟨"5"⟩ t enabled = .found (.reduce ⟨"1"⟩) source) :
    (midway M tokens enabled twoSumsStack i).Advances [addition source]
      (midway M tokens enabled sumStack i) :=
  midway_reduce htoken hfound h.sumRule rfl h.gotoFirst

/-! ## Putting sums together from the left -/

/-- The table that puts the first sums of `n + 1` together: the override as long as a plus sign
    follows, and the primary table at the end. -/
def additionSource (n j : Nat) : Source := if j + 1 < n then .override else .primary

/-- The transitions over a sum with `n` plus signs: each identifier is added to all those in front
    of it before the next plus sign is shifted. -/
def leftTransitions (n : Nat) : List Transition :=
  firstIdentifier ++
    (List.range n).flatMap fun j => nextIdentifier ++ [addition (additionSource n j)]

/-- The token behind the identifier number `j` of a sum, counted from zero. -/
theorem getElem?_behind (hj : j ≤ n) :
    (sum n ++ ["$"])[2 * j + 1]? = some (if j < n then "+" else "$") := by
  split_ifs with hlt
  · rw [getElem?_sum_append (by omega), place_two_mul_add_one]
  · obtain rfl : j = n := by omega
    exact getElem?_sum_end j

theorem behind_mem (j n : Nat) : (if j < n then "+" else "$") ∈ followers := by
  split_ifs <;> decide

/-- The first identifier of a sum is read. -/
theorem advances_sum_first (h : ReadsSums M enabled) (n : Nat) :
    (fresh M (sum n ++ ["$"]) enabled).Advances firstIdentifier
      (midway M (sum n ++ ["$"]) enabled sumStack 1) :=
  advances_first h rfl (getElem?_behind (Nat.zero_le n)) (behind_mem 0 n)

/-- The next plus sign and identifier of a sum are read. -/
theorem advances_sum_next (h : ReadsSums M enabled) (hj : j < n) :
    (midway M (sum n ++ ["$"]) enabled sumStack (2 * j + 1)).Advances nextIdentifier
      (midway M (sum n ++ ["$"]) enabled twoSumsStack (2 * (j + 1) + 1)) := by
  have hplus := getElem?_behind (Nat.le_of_lt hj)
  rw [if_pos hj] at hplus
  have hidentifier : (sum n ++ ["$"])[2 * j + 1 + 1]? = some "id" := by
    rw [getElem?_sum_append (by omega)]
    exact congrArg some (place_two_mul (j + 1))
  exact advances_next h hplus hidentifier (getElem?_behind hj) (behind_mem (j + 1) n)

/-- A round: a plus sign and an identifier are read and added to the sum on the stack. -/
theorem advances_round (h : ReadsSums M enabled)
    (hplus : 2 ≤ n → M.lookupAction ⟨"5"⟩ "+" enabled = .found (.reduce ⟨"1"⟩) .override)
    (hj : j < n) :
    (midway M (sum n ++ ["$"]) enabled sumStack (2 * j + 1)).Advances
      (nextIdentifier ++ [addition (additionSource n j)])
      (midway M (sum n ++ ["$"]) enabled sumStack (2 * (j + 1) + 1)) := by
  refine (advances_sum_next h hj).append (advances_addition h (getElem?_behind hj) ?_)
  rw [additionSource]
  split_ifs with hlast
  · exact hplus (by omega)
  · exact h.last

/-- Any number of rounds, from the first identifier on. -/
theorem advances_rounds (h : ReadsSums M enabled)
    (hplus : 2 ≤ n → M.lookupAction ⟨"5"⟩ "+" enabled = .found (.reduce ⟨"1"⟩) .override)
    (hj : j ≤ n) :
    (fresh M (sum n ++ ["$"]) enabled).Advances
      (firstIdentifier ++
        (List.range j).flatMap fun j => nextIdentifier ++ [addition (additionSource n j)])
      (midway M (sum n ++ ["$"]) enabled sumStack (2 * j + 1)) := by
  induction j with
  | zero => exact advances_sum_first h n
  | succ j ih =>
    rw [List.range_succ, List.flatMap_append, List.flatMap_singleton, ← List.append_assoc]
    exact (ih (Nat.le_of_succ_le hj)).append (advances_round h hplus hj)

/-- A run over a sum that meets no conflict puts the sum together from the left and accepts. -/
theorem exists_accepting_run (h : ReadsSums M enabled)
    (hplus : 2 ≤ n → M.lookupAction ⟨"5"⟩ "+" enabled = .found (.reduce ⟨"1"⟩) .override) :
    ∃ m, (fresh M (sum n ++ ["$"]) enabled).Advances (leftTransitions n) m ∧
      m.Stop m.stack .accepted :=
  ⟨_, advances_rounds h hplus (Nat.le_refl n),
    .accept (consults_midway (getElem?_sum_end n) h.accept)⟩

/-- Without the override, a run over a sum with two or more plus signs meets the conflict at the
    second one. -/
theorem settles_of_conflict (h : ReadsSums M enabled) {candidates : List Action}
    (hplus : M.lookupAction ⟨"5"⟩ "+" enabled = .conflict candidates) (hn : 2 ≤ n) :
    (fresh M (sum n ++ ["$"]) enabled).SettlesAfter 5 (.rejected (.conflict ⟨"5"⟩ "+")) := by
  have hbefore := (advances_sum_first h n).append
    (advances_sum_next (j := 0) h (by omega))
  have htoken := getElem?_behind (j := 1) (n := n) (by omega)
  rw [if_pos (by omega)] at htoken
  exact hbefore.settlesAfter (.conflict rfl htoken hplus)

/-! ## Runs over sums -/

/-- No override is in force: there is none, or it is switched off. -/
def Unpatched (M : Model) (enabled : Bool) : Prop :=
  M = ambiguousModel ∨ (M = leftModel ∧ enabled = false)

/-- **The override makes sums associate to the left.** The documents write the ambiguous table and
    its override. Over a sum with any number of plus signs, a run with the override in force adds
    each identifier to those in front of it before the next plus sign is shifted, and accepts. All
    the additions are from the override table but for the last one, which is from the primary table.
    A run without the override accepts a sum with one plus sign at most, and is rejected with a
    conflict over any other. -/
theorem override_associates_left :
    Document.model ambiguousDocument = .ok ambiguousModel ∧
    Document.overrides leftDocument = .ok leftTable ∧
    ∀ n,
      ((fresh (ambiguousModel.withOverrides leftTable) (sum n ++ ["$"]) true).SettlesAfter
          (leftTransitions n).length .accepted ∧
        (fresh (ambiguousModel.withOverrides leftTable) (sum n ++ ["$"]) true).outcomes
            (List.replicate ((leftTransitions n).length + 1) .step) =
          (leftTransitions n).map .next ++ [.halt .accepted]) ∧
      ∀ M enabled, Unpatched M enabled →
        (n ≤ 1 → ∃ k, (fresh M (sum n ++ ["$"]) enabled).SettlesAfter k .accepted) ∧
        (2 ≤ n → ∃ k, (fresh M (sum n ++ ["$"]) enabled).SettlesAfter k
          (.rejected (.conflict ⟨"5"⟩ "+"))) := by
  refine ⟨model_ambiguousDocument, overrides_leftDocument, fun n => ⟨?_, ?_⟩⟩
  · have hplus : leftModel.lookupAction ⟨"5"⟩ "+" true = .found (.reduce ⟨"1"⟩) .override := by
      decide
    obtain ⟨m, hrun, hstop⟩ :=
      exists_accepting_run (n := n) (readsSums leftModel (.inr rfl) true) fun _ => hplus
    exact ⟨hrun.settlesAfter hstop, hrun.outcomes_of_stop hstop⟩
  · intro M enabled hM
    have hreads : ReadsSums M enabled := readsSums M (hM.imp_right And.left) enabled
    have hplus : M.lookupAction ⟨"5"⟩ "+" enabled = .conflict [.shift ⟨"4"⟩, .reduce ⟨"1"⟩] := by
      rcases hM with rfl | ⟨rfl, rfl⟩
      · cases enabled <;> decide
      · decide
    constructor
    · intro hn
      obtain ⟨m, hrun, hstop⟩ := exists_accepting_run (n := n) hreads fun h => by omega
      exact ⟨_, hrun.settlesAfter hstop⟩
    · intro hn
      exact ⟨5, settles_of_conflict hreads hplus hn⟩

/-- Without the override, one plus sign is read, and two are not. -/
theorem override_associates_left_two :
    (∃ k, (fresh leftModel ["id", "+", "id", "$"] false).SettlesAfter k .accepted) ∧
    ∃ k, (fresh ambiguousModel ["id", "+", "id", "+", "id", "$"] true).SettlesAfter k
      (.rejected (.conflict ⟨"5"⟩ "+")) := by
  obtain ⟨-, -, hruns⟩ := override_associates_left
  exact ⟨((hruns 1).2 leftModel false (.inr ⟨rfl, rfl⟩)).1 (by decide),
    ((hruns 2).2 ambiguousModel true (.inl rfl)).2 (by decide)⟩

end Sums

end ShiftReduce
