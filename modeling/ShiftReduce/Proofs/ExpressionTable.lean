import Mathlib.Algebra.Ring.Parity
import ShiftReduce.Proofs.Sums

/-!
# The expression table

A table for sums of identifiers, where a sum is a sum and a term behind a plus sign. The table is
that of a grammar without ambiguities, and a run over any tokens comes to a verdict: it accepts the
sums, and it rejects anything else at the first token that is out of place.

* `Sums.expressionDocument`, `Sums.expressionModel`: the table as a document and as a model.
* `Sums.beforeTerm`: the stack when a number of terms has been read.

Results:
* `Sums.exists_advances_terms`: as long as the tokens are those of a sum, the stack is one of these.
* `Sums.settles_of_misplaced`, `Sums.settles_of_sum`: what happens at the first token that is out of
  place, and what happens if there is none.
* `Sums.expression_table_recognises_sums`: the table recognises the sums and nothing else.
-/

namespace ShiftReduce

namespace Sums

open Machine

/-! ## The table -/

/-- The table as a document. -/
def expressionDocument : Json :=
  Document.tableDocument
    (.object [
      ("1", .ofMembers [("id", shiftEntry 4), ("E", gotoEntry 2), ("T", gotoEntry 3)]),
      ("2", .ofMembers [("+", shiftEntry 5), ("$", acceptEntry)]),
      ("3", .ofMembers [("+", reduceEntry 2), ("$", reduceEntry 2)]),
      ("4", .ofMembers [("+", reduceEntry 3), ("$", reduceEntry 3)]),
      ("5", .ofMembers [("id", shiftEntry 4), ("T", gotoEntry 6)]),
      ("6", .ofMembers [("+", reduceEntry 1), ("$", reduceEntry 1)])])
    [productionEntry 0 "S'" ["E"], productionEntry 1 "E" ["E", "+", "T"],
      productionEntry 2 "E" ["T"], productionEntry 3 "T" ["id"]]

/-- The model that the document writes. -/
def expressionModel : Model where
  table := Table.ofCells [
    (⟨⟨"1"⟩, "id"⟩, .single (.shift ⟨"4"⟩)),
    (⟨⟨"1"⟩, "E"⟩, .single (.goto ⟨"2"⟩)),
    (⟨⟨"1"⟩, "T"⟩, .single (.goto ⟨"3"⟩)),
    (⟨⟨"2"⟩, "+"⟩, .single (.shift ⟨"5"⟩)),
    (⟨⟨"2"⟩, "$"⟩, .single .accept),
    (⟨⟨"3"⟩, "+"⟩, .single (.reduce ⟨"2"⟩)),
    (⟨⟨"3"⟩, "$"⟩, .single (.reduce ⟨"2"⟩)),
    (⟨⟨"4"⟩, "+"⟩, .single (.reduce ⟨"3"⟩)),
    (⟨⟨"4"⟩, "$"⟩, .single (.reduce ⟨"3"⟩)),
    (⟨⟨"5"⟩, "id"⟩, .single (.shift ⟨"4"⟩)),
    (⟨⟨"5"⟩, "T"⟩, .single (.goto ⟨"6"⟩)),
    (⟨⟨"6"⟩, "+"⟩, .single (.reduce ⟨"1"⟩)),
    (⟨⟨"6"⟩, "$"⟩, .single (.reduce ⟨"1"⟩))]
  productions := SortedMap.ofList [
    (⟨"0"⟩, ⟨"S'", ["E"]⟩), (⟨"1"⟩, ⟨"E", ["E", "+", "T"]⟩), (⟨"2"⟩, ⟨"E", ["T"]⟩),
    (⟨"3"⟩, ⟨"T", ["id"]⟩)]

theorem model_expressionDocument : Document.model expressionDocument = .ok expressionModel := by
  decide +kernel

/-! ## Reading terms -/

variable {tokens w : List Symbol} {t : Symbol} {enabled : Bool} {i k : Nat}

/-- The stack when `k` terms and the plus signs behind them have been read. -/
def beforeTerm : (k : Nat) → Stack
  | 0 => .initial ⟨"1"⟩
  | _ + 1 => sumStack.push "+" ⟨"5"⟩

/-- An identifier is shifted wherever a term may begin. -/
theorem lookupAction_identifier (k : Nat) (enabled : Bool) :
    expressionModel.lookupAction (beforeTerm k).top "id" enabled =
      .found (.shift ⟨"4"⟩) .primary := by
  have hfirst : ∀ enabled, expressionModel.lookupAction ⟨"1"⟩ "id" enabled =
      .found (.shift ⟨"4"⟩) .primary := by decide
  have hlater : ∀ enabled, expressionModel.lookupAction ⟨"5"⟩ "id" enabled =
      .found (.shift ⟨"4"⟩) .primary := by decide
  cases k with
  | zero => exact hfirst enabled
  | succ k => exact hlater enabled

/-- Behind an identifier, a term and a sum with a term there is a reduction, be there more tokens to
    come or the end marker. -/
theorem lookupAction_follower : ∀ t ∈ followers, ∀ enabled,
    expressionModel.lookupAction ⟨"4"⟩ t enabled = .found (.reduce ⟨"3"⟩) .primary ∧
      expressionModel.lookupAction ⟨"3"⟩ t enabled = .found (.reduce ⟨"2"⟩) .primary ∧
      expressionModel.lookupAction ⟨"6"⟩ t enabled = .found (.reduce ⟨"1"⟩) .primary := by
  decide

/-- An identifier becomes a term, and the term becomes a sum or the last term of one. -/
theorem exists_advances_term (k : Nat) (enabled : Bool) (htoken : tokens[i]? = some t)
    (ht : t ∈ followers) :
    ∃ ts, (midway expressionModel tokens enabled ((beforeTerm k).push "id" ⟨"4"⟩) i).Advances ts
      (midway expressionModel tokens enabled sumStack i) := by
  obtain ⟨hidentifier, hterm, hsum⟩ := lookupAction_follower t ht enabled
  have hrule : expressionModel.productions.get? ⟨"3"⟩ = some ⟨"T", ["id"]⟩ := by decide
  have hgotoSum : expressionModel.lookupGoto ⟨"1"⟩ "E" = .ok ⟨"2"⟩ := by decide
  cases k with
  | zero =>
    have hgotoTerm : expressionModel.lookupGoto ⟨"1"⟩ "T" = .ok ⟨"3"⟩ := by decide
    have htermRule : expressionModel.productions.get? ⟨"2"⟩ = some ⟨"E", ["T"]⟩ := by decide
    have hfirst : (midway expressionModel tokens enabled ((beforeTerm 0).push "id" ⟨"4"⟩)
        i).Advances _ (midway expressionModel tokens enabled ((beforeTerm 0).push "T" ⟨"3"⟩) i) :=
      midway_reduce htoken hidentifier hrule rfl hgotoTerm
    exact ⟨_, hfirst.append (midway_reduce htoken hterm htermRule rfl hgotoSum)⟩
  | succ k =>
    have hgotoTerm : expressionModel.lookupGoto ⟨"5"⟩ "T" = .ok ⟨"6"⟩ := by decide
    have hsumRule : expressionModel.productions.get? ⟨"1"⟩ = some ⟨"E", ["E", "+", "T"]⟩ := by
      decide
    have hfirst : (midway expressionModel tokens enabled ((beforeTerm (k + 1)).push "id" ⟨"4"⟩)
        i).Advances _
        (midway expressionModel tokens enabled ((beforeTerm (k + 1)).push "T" ⟨"6"⟩) i) :=
      midway_reduce htoken hidentifier hrule rfl hgotoTerm
    exact ⟨_, hfirst.append (midway_reduce htoken hsum hsumRule rfl hgotoSum)⟩

/-- As long as the tokens are those of a sum, the terms are read one after the other. -/
theorem exists_advances_terms (enabled : Bool) (h : ∀ j, j < 2 * k → tokens[j]? = some (place j)) :
    ∃ ts, (fresh expressionModel tokens enabled).Advances ts
      (midway expressionModel tokens enabled (beforeTerm k) (2 * k)) := by
  induction k with
  | zero => exact ⟨[], .refl _⟩
  | succ k ih =>
    obtain ⟨ts, hbefore⟩ := ih fun j hj => h j (by omega)
    have hidentifier : tokens[2 * k]? = some "id" := by
      rw [h (2 * k) (by omega), place_two_mul]
    have hplus : tokens[2 * k + 1]? = some "+" := by
      rw [h (2 * k + 1) (by omega), place_two_mul_add_one]
    have hshift := midway_shift hidentifier (lookupAction_identifier k enabled)
    obtain ⟨us, hterm⟩ := exists_advances_term k enabled hplus (by decide)
    have hfound : ∀ enabled, expressionModel.lookupAction ⟨"2"⟩ "+" enabled =
        .found (.shift ⟨"5"⟩) .primary := by decide
    have hnext : (midway expressionModel tokens enabled sumStack (2 * k + 1)).Advances _
        (midway expressionModel tokens enabled (beforeTerm (k + 1)) (2 * (k + 1))) :=
      midway_shift hplus (hfound enabled)
    exact ⟨_, ((hbefore.append hshift).append hterm).append hnext⟩

/-- And so is the identifier of the next term. -/
theorem exists_advances_identifier (enabled : Bool)
    (h : ∀ j, j < 2 * k + 1 → tokens[j]? = some (place j)) :
    ∃ ts, (fresh expressionModel tokens enabled).Advances ts
      (midway expressionModel tokens enabled ((beforeTerm k).push "id" ⟨"4"⟩) (2 * k + 1)) := by
  obtain ⟨ts, hbefore⟩ := exists_advances_terms enabled fun j hj => h j (Nat.lt_succ_of_lt hj)
  have hidentifier : tokens[2 * k]? = some "id" := by
    rw [h (2 * k) (Nat.lt_succ_self _), place_two_mul]
  exact ⟨_, hbefore.append (midway_shift hidentifier (lookupAction_identifier k enabled))⟩

/-! ## The state in which a token is read -/

/-- The state in which the token at a place is read: the start state, or the state behind a plus
    sign, or the state behind an identifier. -/
def readingState (i : Nat) : StateId :=
  if i = 0 then ⟨"1"⟩ else if i % 2 = 0 then ⟨"5"⟩ else ⟨"4"⟩

/-- As long as the tokens are those of a sum, the next one is read in this state. -/
theorem exists_advances_reading (enabled : Bool) (h : ∀ j, j < i → tokens[j]? = some (place j)) :
    ∃ ts stack, stack.top = readingState i ∧ (fresh expressionModel tokens enabled).Advances ts
      (midway expressionModel tokens enabled stack i) := by
  rcases Nat.even_or_odd' i with ⟨k, rfl | rfl⟩
  · obtain ⟨ts, hbefore⟩ := exists_advances_terms enabled h
    refine ⟨ts, beforeTerm k, ?_, hbefore⟩
    cases k with
    | zero => rfl
    | succ k =>
      rw [readingState, if_neg (by omega), if_pos (Nat.mul_mod_right 2 (k + 1))]
      rfl
  · obtain ⟨ts, hbefore⟩ := exists_advances_identifier enabled h
    refine ⟨ts, (beforeTerm k).push "id" ⟨"4"⟩, ?_, hbefore⟩
    rw [readingState, if_neg (by omega), if_neg (by omega)]
    rfl

/-- In this state there is no cell for a token that is out of place. -/
theorem get?_of_misplaced (h : Misplaced i t) (hsum : t ≠ "E") (hterm : t ≠ "T") :
    expressionModel.table.get? (readingState i) t = none := by
  have hrows : ∀ c ∈ expressionModel.table.cells,
      (c.1.state = ⟨"1"⟩ → c.1.symbol ∈ ["id", "E", "T"]) ∧
      (c.1.state = ⟨"5"⟩ → c.1.symbol ∈ ["id", "E", "T"]) ∧
      (c.1.state = ⟨"4"⟩ → c.1.symbol ∈ ["+", "$"]) := by decide
  rcases h with ⟨heven, hidentifier⟩ | ⟨hodd, hplus, hmarker⟩
  · have hcolumns : t ∉ ["id", "E", "T"] := by simp [hidentifier, hsum, hterm]
    by_cases hi : i = 0
    · rw [readingState, if_pos hi]
      exact Table.get?_eq_none_of_columns (fun c hc => (hrows c hc).1) hcolumns
    · rw [readingState, if_neg hi, if_pos heven]
      exact Table.get?_eq_none_of_columns (fun c hc => (hrows c hc).2.1) hcolumns
  · have hcolumns : t ∉ ["+", "$"] := by simp [hplus, hmarker]
    rw [readingState, if_neg (by omega), if_neg (by omega)]
    exact Table.get?_eq_none_of_columns (fun c hc => (hrows c hc).2.2) hcolumns

/-! ## Verdicts -/

/-- The first token that is out of place is reached, and it is an error. -/
theorem settles_of_misplaced (enabled : Bool) (hend : "$" ∉ w) (hsum : "E" ∉ w) (hterm : "T" ∉ w)
    (h : FirstMisplaced (w ++ ["$"]) i t) :
    ∃ n, (fresh expressionModel (w ++ ["$"]) enabled).SettlesAfter n
      (.rejected (.syntaxError (readingState i) t i)) := by
  have hmem : t ∈ w ++ ["$"] := List.mem_of_getElem? h.token
  have hcell : expressionModel.table.get? (readingState i) t = none := by
    refine get?_of_misplaced h.misplaced ?_ ?_
    · rintro rfl
      simp [hsum] at hmem
    · rintro rfl
      simp [hterm] at hmem
  have hnotFound : expressionModel.lookupAction (readingState i) t enabled = .notFound :=
    Model.lookupAction_eq_notFound_iff.2 ⟨by cases enabled <;> rfl, hcell⟩
  obtain ⟨ts, stack, htop, hbefore⟩ :=
    exists_advances_reading enabled fun j hj => h.places hend hj
  rw [← htop] at hnotFound ⊢
  exact ⟨_, hbefore.settlesAfter (.syntaxError rfl h.token hnotFound)⟩

/-- A sum is accepted. -/
theorem settles_of_sum (enabled : Bool) (k : Nat) :
    ∃ n, (fresh expressionModel (sum k ++ ["$"]) enabled).SettlesAfter n .accepted := by
  obtain ⟨ts, hbefore⟩ := exists_advances_identifier enabled fun j hj => getElem?_sum_append hj
  obtain ⟨us, hterm⟩ := exists_advances_term k enabled (getElem?_sum_end k) (by decide)
  have hfound : ∀ enabled, expressionModel.lookupAction ⟨"2"⟩ "$" enabled =
      .found .accept .primary := by decide
  have haccepts : (midway expressionModel (sum k ++ ["$"]) enabled sumStack
      (2 * k + 1)).Consults "$" .accept .primary :=
    consults_midway (getElem?_sum_end k) (hfound enabled)
  exact ⟨_, (hbefore.append hterm).settlesAfter (.accept haccepts)⟩

/-- **The expression table recognises the sums.** Let there be no end marker and no nonterminal
    among the tokens, and let the end marker stand behind them. Then a run of the model that the
    document writes comes to a verdict. It accepts if and only if the tokens are a sum. Otherwise
    there is a token that is out of place, and the run is rejected with an error at the first one,
    in the state in which it is read. -/
theorem expression_table_recognises_sums :
    Document.model expressionDocument = .ok expressionModel ∧
    ∀ w : List Symbol, "$" ∉ w → "E" ∉ w → "T" ∉ w → ∀ enabled,
      ∃ n v, (fresh expressionModel (w ++ ["$"]) enabled).SettlesAfter n v ∧
        (v = .accepted ↔ ∃ k, w = sum k) ∧
        (v ≠ .accepted → ∃ i t, FirstMisplaced (w ++ ["$"]) i t ∧
          v = .rejected (.syntaxError (readingState i) t i)) := by
  refine ⟨model_expressionDocument, fun w hend hsum hterm enabled => ?_⟩
  rcases sum_or_misplaced hend with ⟨k, rfl⟩ | ⟨i, t, hmisplaced⟩
  · obtain ⟨n, hsettles⟩ := settles_of_sum enabled k
    exact ⟨n, _, hsettles, iff_of_true rfl ⟨k, rfl⟩, fun hne => absurd rfl hne⟩
  · obtain ⟨n, hsettles⟩ := settles_of_misplaced enabled hend hsum hterm hmisplaced
    refine ⟨n, _, hsettles, iff_of_false (fun h => ?_) ?_, fun _ => ⟨i, t, hmisplaced, rfl⟩⟩
    · cases h
    · rintro ⟨k, rfl⟩
      exact not_misplaced_sum hmisplaced

/-- A sum of two identifiers is accepted, and two identifiers without a plus sign are not. -/
theorem expression_table_at_two_identifiers :
    (∃ n, (fresh expressionModel ["id", "+", "id", "$"] true).SettlesAfter n .accepted) ∧
    ∃ n, (fresh expressionModel ["id", "id", "$"] false).SettlesAfter n
      (.rejected (.syntaxError ⟨"4"⟩ "id" 1)) := by
  obtain ⟨-, hruns⟩ := expression_table_recognises_sums
  constructor
  · obtain ⟨n, v, hsettles, haccepts, -⟩ :=
      hruns ["id", "+", "id"] (by decide) (by decide) (by decide) true
    obtain rfl := haccepts.2 ⟨1, rfl⟩
    exact ⟨n, hsettles⟩
  · obtain ⟨n, v, hsettles, haccepts, hrejects⟩ :=
      hruns ["id", "id"] (by decide) (by decide) (by decide) false
    have hnot : ¬∃ k, ["id", "id"] = sum k := by
      rintro ⟨k, hk⟩
      have hlength := length_sum k
      rw [← hk] at hlength
      simp only [List.length_cons, List.length_nil] at hlength
      omega
    obtain ⟨i, t, hfirst, rfl⟩ := hrejects fun hv => hnot (haccepts.1 hv)
    -- the first identifier is in its place, and the second one is not
    match i, hfirst with
    | 0, ⟨htoken, hmisplaced, _⟩ =>
      cases htoken
      exact absurd hmisplaced (not_misplaced_place 0)
    | 1, ⟨htoken, _, _⟩ =>
      cases htoken
      exact ⟨n, hsettles⟩
    | i + 2, ⟨_, _, hearlier⟩ =>
      have hsecond : ¬Misplaced 1 "id" := hearlier 1 "id" (by omega) rfl
      exact absurd (.inr ⟨rfl, by decide, by decide⟩) hsecond

end Sums

end ShiftReduce
