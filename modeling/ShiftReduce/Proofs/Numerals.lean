import Mathlib.Tactic.Common

/-!
# Numbers and their digits

Numbers are written in decimal, and a negative one has a sign in front of its digits. A number is
read back from its digits, and the sign is no digit, so that a number is known by its text.

Results:
* `notMem_number`: what is no digit is not in the text of a natural number.
* `number_inj`: a natural number is known by its text.
* `integer_inj`: so is an integer.
-/

namespace ShiftReduce

/-- What is no digit is not in the text of a natural number. -/
theorem notMem_number {c : Char} (hc : c.isDigit = false) (n : Nat) : c ∉ (toString n).toList := by
  intro hmem
  have hdigit := Nat.isDigit_of_mem_toDigits (by decide) (by decide) (Nat.toList_repr ▸ hmem)
  rw [hc] at hdigit
  cases hdigit

theorem ofDigitChars_number (n : Nat) : Nat.ofDigitChars 10 (toString n).toList 0 = n := by
  rw [Nat.toString_eq_repr, Nat.toList_repr, Nat.ofDigitChars_ten_toDigits]

/-- A natural number is known by its text. -/
theorem number_inj {n n' : Nat} (h : toString n = toString n') : n = n' := by
  rw [← ofDigitChars_number n, h, ofDigitChars_number]

theorem number_ne_negative (n n' : Nat) : toString n ≠ "-" ++ toString n' := by
  intro h
  refine notMem_number (c := '-') rfl n ?_
  rw [h, String.toList_append]
  exact List.mem_append_left _ List.mem_cons_self

/-- An integer is known by its text. -/
theorem integer_inj {a b : Int} (h : toString a = toString b) : a = b := by
  match a, b with
  | .ofNat n, .ofNat n' => exact congrArg Int.ofNat (number_inj h)
  | .ofNat n, .negSucc n' => exact absurd h (number_ne_negative n (n' + 1))
  | .negSucc n, .ofNat n' => exact absurd h.symm (number_ne_negative n' (n + 1))
  | .negSucc n, .negSucc n' =>
    have hdigits : toString (n + 1) = toString (n' + 1) := (String.append_right_inj "-").1 h
    exact congrArg Int.negSucc (Nat.succ.inj (number_inj hdigits))

end ShiftReduce
