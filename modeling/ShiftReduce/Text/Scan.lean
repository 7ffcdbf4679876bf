/-!
# Scanners

A scanner reads a value off the front of a list of characters, or fails. Alternatives start again
where the failed one began.
-/

namespace ShiftReduce

/-- Reads a value off the front of a list of characters and leaves the rest. -/
abbrev Scanner := StateT (List Char) Option

namespace Scanner

/-- Reads the whole of a text. -/
def run? {α : Type} (scanner : Scanner α) (text : String) : Option α :=
  match StateT.run scanner text.toList with
  | some (value, []) => some value
  | _ => none

/-- The next character, which stays in the input; `none` at the end. -/
def peek : Scanner (Option Char) := fun input => some (input.head?, input)

/-- Reads one character that satisfies `p`. -/
def satisfy (p : Char → Bool) : Scanner Char
  | [] => none
  | c :: rest => if p c then some (c, rest) else none

/-- Reads the character `c`. -/
def char (c : Char) : Scanner Unit := do let _ ← satisfy (· == c)

/-- Reads the characters of `text`. -/
def literal (text : String) : Scanner Unit := text.toList.forM char

/-- Reads the longest run of characters that satisfy `p`, which may be empty. -/
def takeWhile (p : Char → Bool) : Scanner (List Char) := fun input =>
  some (input.takeWhile p, input.dropWhile p)

/-- Reads the longest run of characters that satisfy `p`, of which there has to be one. -/
def takeWhile1 (p : Char → Bool) : Scanner (List Char) := do
  let first ← satisfy p
  return first :: (← takeWhile p)

/-- Reads exactly `count` characters that satisfy `p`. -/
def exactly : (count : Nat) → (p : Char → Bool) → Scanner (List Char)
  | 0, _ => pure []
  | count + 1, p => do
    let first ← satisfy p
    return first :: (← exactly count p)

/-- Succeeds at the end of the input alone. -/
def eof : Scanner Unit
  | [] => some ((), [])
  | _ :: _ => none

/-- Reads `item` up to `fuel` times, until it answers `none`. -/
def collectUpTo {α : Type} : (fuel : Nat) → (item : Scanner (Option α)) → Scanner (List α)
  | 0, _ => failure
  | fuel + 1, item => do
    match ← item with
    | none => pure []
    | some value => return value :: (← collectUpTo fuel item)

/-- Reads `item` until it answers `none`. An item that answers with a value has to read a character
    at least, so the length of the input bounds their number. -/
def collect {α : Type} (item : Scanner (Option α)) : Scanner (List α) := fun input =>
  collectUpTo (input.length + 1) item input

/-- Reads `item` as often as it succeeds. -/
def many {α : Type} (item : Scanner α) : Scanner (List α) := collect (optional item)

end Scanner

/-! ## Digits -/

/-- The value of a digit in a base up to sixteen; other characters count as zero. -/
def digitValue (c : Char) : Nat :=
  if c.isDigit then c.toNat - '0'.toNat
  else if 'a' ≤ c ∧ c ≤ 'f' then c.toNat - 'a'.toNat + 10
  else if 'A' ≤ c ∧ c ≤ 'F' then c.toNat - 'A'.toNat + 10
  else 0

/-- Whether a character is a hexadecimal digit, in either case. -/
def isHexDigit (c : Char) : Bool :=
  c.isDigit || ('a' ≤ c && c ≤ 'f') || ('A' ≤ c && c ≤ 'F')

/-- The number that a list of digits writes in a base. -/
def numberOfDigits (base : Nat) (digits : List Char) : Nat :=
  digits.foldl (fun n c => n * base + digitValue c) 0

/-- The character with a given code point, unless that is a surrogate or too large. -/
def charOfCode? (code : Nat) : Option Char :=
  if code.isValidChar then some (Char.ofNat code) else none

end ShiftReduce
