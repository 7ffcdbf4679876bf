import ShiftReduce.Text.Invisible

/-!
# Quoted text

A text between double quotes in which everything can be told apart on a screen: quotes,
backslashes and characters without a visible form are escaped, and all others stand for
themselves.
-/

namespace ShiftReduce

/-- The code point of a character in hexadecimal digits of lower case, without leading zeros. -/
def hexCode (c : Char) : List Char := Nat.toDigits 16 c.toNat

/-- The characters that stand for `c` in quoted text. -/
def quotedChar (c : Char) : List Char :=
  match c with
  | '\x00' => ['\\', '0']
  | '\t' => ['\\', 't']
  | '\r' => ['\\', 'r']
  | '\n' => ['\\', 'n']
  | '\\' => ['\\', '\\']
  | '"' => ['\\', '"']
  | c => if isInvisible c then ['\\', 'u', '\x7b'] ++ hexCode c ++ ['\x7d'] else [c]

/-- A text between double quotes. -/
def quoted (text : String) : String :=
  String.ofList ('"' :: text.toList.flatMap quotedChar ++ ['"'])

end ShiftReduce
