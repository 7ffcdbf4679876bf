import ShiftReduce.Proofs.Advances
import ShiftReduce.Proofs.TableDocument

/-!
# Sums of identifiers

The sentences of the grammars for sums: an identifier, and behind it any number of times a plus
sign and an identifier. A list of tokens with the end marker behind it is such a sum or has a first
token that is out of place.

* `Sums.sum`: the sum with a number of plus signs.
* `Sums.FirstMisplaced`: the first token that is out of place.

Results:
* `Sums.getElem?_sum`: the tokens of a sum by their places.
* `Sums.sum_or_misplaced`, `Sums.not_misplaced_sum`: a list of tokens is a sum if and only if no
  token is out of place.
-/

namespace ShiftReduce

namespace Sums

/-! ## Sums -/

/-- An identifier, and behind it `n` times a plus sign and an identifier. -/
def sum (n : Nat) : List Symbol := "id" :: (List.replicate n ["+", "id"]).flatten

/-- What may follow an identifier: a plus sign or the end marker. -/
def followers : List Symbol := ["+", "$"]

/-- The token of a sum at a place: identifiers and plus signs take turns. -/
def place (i : Nat) : Symbol := if i % 2 = 0 then "id" else "+"

variable {i k n : Nat} {t : Symbol} {w : List Symbol}

theorem sum_succ (n : Nat) : sum (n + 1) = "id" :: "+" :: sum n := by
  rw [sum, List.replicate_succ, List.flatten_cons]
  rfl

theorem length_sum (n : Nat) : (sum n).length = 2 * n + 1 := by
  induction n with
  | zero => rfl
  | succ n ih =>
    rw [sum_succ, List.length_cons, List.length_cons, ih]
    omega

theorem place_add_two (i : Nat) : place (i + 2) = place i := by
  rw [place, Nat.add_mod_right, place]

theorem place_two_mul (k : Nat) : place (2 * k) = "id" := by
  rw [place, if_pos (Nat.mul_mod_right 2 k)]

theorem place_two_mul_add_one (k : Nat) : place (2 * k + 1) = "+" := by
  rw [place, if_neg (by omega)]

/-- The tokens of a sum, by their places. -/
theorem getElem?_sum (h : i < 2 * n + 1) : (sum n)[i]? = some (place i) := by
  induction n generalizing i with
  | zero =>
    obtain rfl : i = 0 := by omega
    rfl
  | succ n ih =>
    rw [sum_succ]
    match i with
    | 0 => rfl
    | 1 => rfl
    | i + 2 =>
      rw [place_add_two, ← ih (by omega : i < 2 * n + 1)]
      rfl

/-- A list with the tokens of a sum in their places is this sum. -/
theorem eq_sum_iff :
    w = sum n ↔ w.length = 2 * n + 1 ∧ ∀ i, i < w.length → w[i]? = some (place i) := by
  constructor
  · rintro rfl
    refine ⟨length_sum n, fun i hi => getElem?_sum ?_⟩
    rwa [length_sum] at hi
  · rintro ⟨hlength, hplaces⟩
    refine List.ext_getElem? fun i => ?_
    rcases Nat.lt_or_ge i w.length with hi | hi
    · rw [hplaces i hi, getElem?_sum (hlength ▸ hi)]
    · rw [List.getElem?_eq_none hi, List.getElem?_eq_none (by rw [length_sum]; omega)]

theorem getElem?_sum_append (h : i < 2 * n + 1) : (sum n ++ ["$"])[i]? = some (place i) := by
  rw [List.getElem?_append_left (by rwa [length_sum]), getElem?_sum h]

theorem getElem?_end (w : List Symbol) : (w ++ ["$"])[w.length]? = some "$" := by simp

theorem getElem?_sum_end (n : Nat) : (sum n ++ ["$"])[2 * n + 1]? = some "$" := by
  rw [← length_sum n, getElem?_end]

/-! ## Tokens out of place -/

/-- The token is out of place: an identifier is expected at even places, and a plus sign or the end
    marker at odd places. -/
def Misplaced (i : Nat) (t : Symbol) : Prop :=
  (i % 2 = 0 ∧ t ≠ "id") ∨ (i % 2 = 1 ∧ t ≠ "+" ∧ t ≠ "$")

/-- The first token of a list that is out of place. -/
structure FirstMisplaced (tokens : List Symbol) (i : Nat) (t : Symbol) : Prop where
  /-- It is the token at this place. -/
  token : tokens[i]? = some t
  /-- It is out of place. -/
  misplaced : Misplaced i t
  /-- No token in front of it is. -/
  first : ∀ j u, j < i → tokens[j]? = some u → ¬Misplaced j u

/-- What is not out of place is what a sum has there, but for the end marker. -/
theorem eq_place_of_not_misplaced (h : ¬Misplaced i t) (hend : t ≠ "$") : t = place i := by
  rw [Misplaced, not_or, not_and, not_and, place] at *
  split_ifs with hi
  · exact not_not.1 (h.1 hi)
  · exact not_not.1 fun hne => h.2 (by omega) ⟨hne, hend⟩

theorem not_misplaced_place (i : Nat) : ¬Misplaced i (place i) := by
  rw [Misplaced, place]
  split_ifs with hi <;> simp [hi]

/-- In front of the first token that is out of place there are the tokens of a sum. -/
theorem FirstMisplaced.places (h : FirstMisplaced (w ++ ["$"]) i t) (hend : "$" ∉ w) {j : Nat}
    (hj : j < i) : (w ++ ["$"])[j]? = some (place j) := by
  obtain ⟨hi, -⟩ := List.getElem?_eq_some_iff.1 h.token
  rw [List.length_append, List.length_singleton] at hi
  have hjw : j < w.length := by omega
  rw [List.getElem?_append_left hjw, List.getElem?_eq_getElem hjw]
  have hnot : ¬Misplaced j w[j] := by
    refine h.first j w[j] hj ?_
    rw [List.getElem?_append_left hjw, List.getElem?_eq_getElem hjw]
  have hne : w[j] ≠ "$" := fun heq => hend (heq ▸ List.getElem_mem hjw)
  rw [← eq_place_of_not_misplaced hnot hne]

/-- If tokens are out of place, then one of them is the first. -/
theorem exists_firstMisplaced {tokens : List Symbol} (htoken : tokens[i]? = some t)
    (h : Misplaced i t) : ∃ i t, FirstMisplaced tokens i t := by
  induction i using Nat.strongRecOn generalizing t with
  | ind i ih =>
    by_cases hearlier : ∃ j u, j < i ∧ tokens[j]? = some u ∧ Misplaced j u
    · obtain ⟨j, u, hj, hu, hmisplaced⟩ := hearlier
      exact ih j hj hu hmisplaced
    · refine ⟨i, t, htoken, h, fun j u hj hu hmisplaced => ?_⟩
      exact hearlier ⟨j, u, hj, hu, hmisplaced⟩

/-- No token of a sum is out of place, and neither is the end marker behind it. -/
theorem not_misplaced_sum : ¬FirstMisplaced (sum n ++ ["$"]) i t := by
  rintro ⟨htoken, hmisplaced, -⟩
  obtain ⟨hi, -⟩ := List.getElem?_eq_some_iff.1 htoken
  rw [List.length_append, length_sum, List.length_singleton] at hi
  rcases Nat.lt_or_eq_of_le (Nat.le_of_lt_succ hi) with hlt | rfl
  · rw [getElem?_sum_append hlt] at htoken
    cases htoken
    exact not_misplaced_place i hmisplaced
  · rw [getElem?_sum_end] at htoken
    cases htoken
    rcases hmisplaced with ⟨heven, -⟩ | ⟨-, -, hne⟩
    · omega
    · exact hne rfl

/-- A list of tokens with the end marker behind it is a sum or has a token that is out of place. -/
theorem sum_or_misplaced (hend : "$" ∉ w) :
    (∃ n, w = sum n) ∨ ∃ i t, FirstMisplaced (w ++ ["$"]) i t := by
  by_cases hmisplaced : ∃ i t, (w ++ ["$"])[i]? = some t ∧ Misplaced i t
  · obtain ⟨i, t, htoken, h⟩ := hmisplaced
    exact .inr (exists_firstMisplaced htoken h)
  · left
    simp only [not_exists, not_and] at hmisplaced
    -- the end marker is not out of place, so it is at an odd place
    have hodd : w.length % 2 = 1 := by
      have hnot := hmisplaced w.length "$" (getElem?_end w)
      rw [Misplaced] at hnot
      by_contra heven
      exact hnot (.inl ⟨by omega, by decide⟩)
    refine ⟨w.length / 2, eq_sum_iff.2 ⟨by omega, fun i hi => ?_⟩⟩
    have htoken : (w ++ ["$"])[i]? = some w[i] := by
      rw [List.getElem?_append_left hi, List.getElem?_eq_getElem hi]
    have hne : w[i] ≠ "$" := fun heq => hend (heq ▸ List.getElem_mem hi)
    rw [List.getElem?_eq_getElem hi]
    exact congrArg some (eq_place_of_not_misplaced (hmisplaced i _ htoken) hne)

/-! ## What the tables for sums share -/

/-- The stack with a sum on it, in the two tables that read sums. -/
def sumStack : Stack := (Stack.initial ⟨"1"⟩).push "E" ⟨"2"⟩

/-- An entry that shifts, as data. -/
def shiftEntry (destination : Int) : Json :=
  .ofMembers [("type", .string "shift"), ("destination", .integer destination)]

/-- An entry that goes on after a reduction, as data. -/
def gotoEntry (destination : Int) : Json :=
  .ofMembers [("type", .string "goto"), ("destination", .integer destination)]

/-- An entry that reduces, as data. -/
def reduceEntry (rule : Int) : Json :=
  .ofMembers [("type", .string "reduce"), ("ruleNumber", .integer rule)]

/-- An entry that accepts, as data. -/
def acceptEntry : Json := .ofMembers [("type", .string "accept")]

/-- A production, as data. -/
def productionEntry (number : Int) (lhs : Symbol) (rhs : List Symbol) : Json :=
  .ofMembers [("productionNumber", .integer number), ("lhs", .string lhs),
    ("rhs", .array (rhs.map .string))]

end Sums

end ShiftReduce
