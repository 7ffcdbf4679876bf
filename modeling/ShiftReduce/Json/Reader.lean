import ShiftReduce.Binary64
import ShiftReduce.Json
import ShiftReduce.Text.Scan

/-!
# Reading JSON

The reader takes exactly the texts of RFC 8259 with these limits: arrays and objects nest at most
127 deep, an escaped surrogate has to be part of a pair, and a number must not exceed the range of
64-bit binary floating point. A whole number that fits 64 bits is an `integer`; `-0`, larger whole
numbers and numbers with a fraction or an exponent are `real`.

* `Json.parse?`: the value of a text, if it is valid.
-/

namespace ShiftReduce.Json

namespace Reader

open Scanner

/-! ## Numbers -/

/-- The largest significand that is kept; further digits only move the decimal point. -/
def maxSignificand : Nat := 18446744073709551615

/-- Appends digits to a significand for as long as it stays within bounds. Returns it with the
    number of digits that were left over. -/
def absorb (significand : Nat) : List Char → Nat × Nat
  | [] => (significand, 0)
  | d :: ds =>
    let next := significand * 10 + digitValue d
    if next ≤ maxSignificand then absorb next ds else (significand, ds.length + 1)

/-- Reads a run of decimal digits, of which there has to be one. -/
def digits : Scanner (List Char) := takeWhile1 Char.isDigit

/-- Reads the digits in front of a decimal point: a lone zero, or digits without leading zero. -/
def wholeDigits : Scanner (List Char) := do
  match ← peek with
  | some '0' => char '0'; return ['0']
  | _ => digits

/-- Reads the sign and the digits of an exponent. -/
def exponentPart : Scanner (Option Char × List Char) := do
  let sign ← optional (satisfy (fun c => c == '+' || c == '-'))
  return (sign, ← digits)

/-- A whole number that fits 64 bits, signed or unsigned, and is not a negative zero. -/
def integer? (negative : Bool) (whole : List Char) : Option Int :=
  let n := numberOfDigits 10 whole
  if negative then (if 0 < n ∧ n ≤ 9223372036854775808 then some (-(n : Int)) else none)
  else (if n ≤ 18446744073709551615 then some (n : Int) else none)

/-- Whether a number is beyond the range of floating point. -/
def outOfRange (whole fraction : List Char) (exponent : Int) : Bool :=
  let (significand, extraWhole) := absorb 0 whole
  let (significand, extraFraction) := absorb significand fraction
  let scale : Int := (extraWhole : Int) - ((fraction.length - extraFraction : Nat) : Int) + exponent
  Binary64.productOverflows significand scale

/-- Reads a number. -/
def number : Scanner Json := do
  let minus ← optional (char '-')
  let whole ← wholeDigits
  let fraction ← optional (do char '.'; digits)
  let exponent ← do
    match ← peek with
    | some 'e' => char 'e'; some <$> exponentPart
    | some 'E' => char 'E'; some <$> exponentPart
    | _ => pure none
  let written (e : Option Char × List Char) : String :=
    "e" ++ String.ofList (e.1.toList ++ e.2)
  let real : Json := .real ((if minus.isSome then "-" else "") ++ String.ofList whole ++
    (fraction.elim "" (fun f => "." ++ String.ofList f)) ++ exponent.elim "" written)
  let power : Int :=
    match exponent with
    | none => 0
    | some (some '-', ds) => -(numberOfDigits 10 ds : Int)
    | some (_, ds) => numberOfDigits 10 ds
  if fraction.isNone && exponent.isNone then
    match integer? minus.isSome whole with
    | some n => return .integer n
    | none => if outOfRange whole [] 0 then failure else return real
  else if outOfRange whole (fraction.getD []) power then failure
  else return real

/-! ## Strings -/

/-- Reads four hexadecimal digits. -/
def hex4 : Scanner Nat := numberOfDigits 16 <$> exactly 4 isHexDigit

/-- Reads what follows the letter of a numeric escape. A leading surrogate needs the escape of a
    trailing one behind it, and no other surrogate may be escaped. -/
def numericEscape : Scanner Char := do
  let code ← hex4
  if 0xD800 ≤ code ∧ code ≤ 0xDBFF then
    literal "\\u"
    let low ← hex4
    if 0xDC00 ≤ low ∧ low ≤ 0xDFFF then
      charOfCode? (0x10000 + (code - 0xD800) * 0x400 + (low - 0xDC00))
    else failure
  else charOfCode? code

/-- Reads what follows a backslash. -/
def escape : Scanner Char := do
  match ← satisfy (fun _ => true) with
  | '"' => return '"'
  | '\\' => return '\\'
  | '/' => return '/'
  | 'b' => return '\x08'
  | 'f' => return '\x0c'
  | 'n' => return '\n'
  | 'r' => return '\r'
  | 't' => return '\t'
  | 'u' => numericEscape
  | _ => failure

/-- Reads one character of a string, or the quote that ends it. -/
def stringItem : Scanner (Option Char) := do
  match ← satisfy (fun c => 0x20 ≤ c.toNat) with
  | '"' => return none
  | '\\' => some <$> escape
  | c => return some c

/-- Reads what follows the quote that opens a string. -/
def stringTail : Scanner String := String.ofList <$> collect stringItem

/-! ## Values -/

/-- Whether a character may stand between the parts of a value. -/
def isGap (c : Char) : Bool := c == ' ' || c == '\t' || c == '\n' || c == '\r'

/-- Skips what may stand between the parts of a value. -/
def gap : Scanner Unit := do let _ ← takeWhile isGap

mutual

/-- Reads a value that opens no more than `depth` arrays and objects inside one another. -/
def value : (fuel depth : Nat) → Scanner Json
  | 0, _ => failure
  | fuel + 1, depth => do
    match ← peek with
    | some 'n' => literal "null"; return .null
    | some 't' => literal "true"; return .bool true
    | some 'f' => literal "false"; return .bool false
    | some '"' => char '"'; return .string (← stringTail)
    | some '[' =>
      char '['
      if depth = 0 then failure
      gap
      match ← peek with
      | some ']' => char ']'; return .array []
      | _ => return .array (← items fuel (depth - 1))
    | some '{' =>
      char '{'
      if depth = 0 then failure
      gap
      match ← peek with
      | some '}' => char '}'; return .object []
      | _ => return ofMembers (← members fuel (depth - 1))
    | _ => number

/-- Reads the items of an array, of which there has to be one, and the bracket after them. -/
def items : (fuel depth : Nat) → Scanner (List Json)
  | 0, _ => failure
  | fuel + 1, depth => do
    gap
    let item ← value fuel depth
    gap
    match ← satisfy (fun c => c == ',' || c == ']') with
    | ',' => return item :: (← items fuel depth)
    | _ => return [item]

/-- Reads the members of an object, of which there has to be one, and the brace after them. -/
def members : (fuel depth : Nat) → Scanner (List (String × Json))
  | 0, _ => failure
  | fuel + 1, depth => do
    gap
    char '"'
    let key ← stringTail
    gap
    char ':'
    gap
    let item ← value fuel depth
    gap
    match ← satisfy (fun c => c == ',' || c == '}') with
    | ',' => return (key, item) :: (← members fuel depth)
    | _ => return [(key, item)]

end

/-- How deep arrays and objects may nest. -/
def maxDepth : Nat := 127

end Reader

/-- The value of a JSON text, if it is valid. Every two calls of the mutual readers read a
    character at least, so twice the length of the text is fuel enough. -/
def parse? (text : String) : Option Json :=
  Scanner.run? (do
    Reader.gap
    let v ← Reader.value (2 * text.length + 2) Reader.maxDepth
    Reader.gap
    return v) text

end ShiftReduce.Json
