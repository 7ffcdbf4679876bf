import ShiftReduce.Binary64
import ShiftReduce.Text.Scan
import ShiftReduce.Toml

/-!
# Reading TOML

The reader takes the documents of TOML 1.0 with these limits: arrays and inline tables nest at most
79 deep, a dotted key has at most 79 parts, whole numbers have 64 bits with a sign, and a positive
number must not exceed the range of 64-bit binary floating point.

* `Toml.parse?`: the root table of a document, if it is valid.
-/

namespace ShiftReduce.Toml

namespace Reader

open Scanner

/-! ## Blanks and comments -/

/-- Whether a character may stand between the parts of a line. -/
def isGap (c : Char) : Bool := c == ' ' || c == '\t'

/-- Skips blanks within a line. -/
def gap : Scanner Unit := do let _ ← takeWhile isGap

/-- Whether a character may stand in a line of text: anything but a control, the tab apart. -/
def isInline (c : Char) : Bool := c == '\t' || (0x20 ≤ c.toNat && c.toNat != 0x7F)

/-- Reads the end of a line. -/
def newline : Scanner Unit := char '\n' <|> literal "\r\n"

/-- Reads a comment up to the end of its line. -/
def comment : Scanner Unit := do
  char '#'
  let _ ← takeWhile isInline

/-- Reads what may follow on a line: blanks, a comment, and the end of the line or of the text. -/
def lineEnd : Scanner Unit := do
  gap
  let _ ← optional comment
  newline <|> eof

/-- Skips blanks, ends of lines and comments. -/
def wideGap : Scanner Unit := do
  let _ ← many ((do let _ ← takeWhile1 isGap) <|> newline <|> comment)

/-! ## Strings -/

/-- Reads the character of a numeric escape of a given length. -/
def numericEscape (length : Nat) : Scanner Char := do
  charOfCode? (numberOfDigits 16 (← exactly length isHexDigit))

/-- Reads what follows a backslash. -/
def escape : Scanner Char := do
  match ← satisfy (fun _ => true) with
  | 'b' => return '\x08'
  | 'f' => return '\x0c'
  | 'n' => return '\n'
  | 'r' => return '\r'
  | 't' => return '\t'
  | '"' => return '"'
  | '\\' => return '\\'
  | 'u' => numericEscape 4
  | 'U' => numericEscape 8
  | _ => failure

/-- Reads a string on one line, with escapes. -/
def basicString : Scanner String := do
  char '"'
  let letters ← collect do
    match ← satisfy isInline with
    | '"' => return none
    | '\\' => some <$> escape
    | c => return some c
  return String.ofList letters

/-- Reads a string on one line, without escapes. -/
def literalString : Scanner String := do
  char '\''
  let letters ← takeWhile (fun c => isInline c && c != '\'')
  char '\''
  return String.ofList letters

/-- Reads an end of line as a line feed. -/
def lineFeed : Scanner (List Char) := do newline; return ['\n']

/-- Reads a part of a string over several lines, with escapes. A backslash at the end of a line
    skips the blanks and line ends behind it. -/
def basicPart : Scanner (List Char) :=
  (do
    char '\\'
    gap
    newline
    let _ ← many ((do let _ ← takeWhile1 isGap) <|> newline)
    return []) <|>
  (do char '\\'; return [← escape]) <|>
  (do return [← satisfy (fun c => isInline c && c != '"' && c != '\\')]) <|>
  lineFeed

/-- Reads a part of a string over several lines, without escapes. -/
def literalPart : Scanner (List Char) :=
  (do return [← satisfy (fun c => isInline c && c != '\'')]) <|> lineFeed

/-- Reads the rest of a string over several lines. Three quotes end it, and up to two more quotes
    in front of them belong to it. -/
def multilineTail (quote : Char) (part : Scanner (List Char)) : (fuel : Nat) → Scanner (List Char)
  | 0 => failure
  | fuel + 1 => do
    let quotes ← takeWhile (· == quote)
    if 5 < quotes.length then failure
    else if 3 ≤ quotes.length then return quotes.drop 3
    else
      let letters ← part
      return quotes ++ letters ++ (← multilineTail quote part fuel)

/-- Reads a string over several lines. A line end directly behind the opening quotes does not
    count. -/
def multilineString (quote : Char) (part : Scanner (List Char)) : Scanner String := do
  literal (String.ofList [quote, quote, quote])
  let _ ← optional newline
  String.ofList <$> fun input => multilineTail quote part (input.length + 1) input

/-- Reads a string of any kind. -/
def anyString : Scanner String :=
  multilineString '"' basicPart <|> basicString <|> multilineString '\'' literalPart <|>
    literalString

/-! ## Keys -/

/-- Whether a character may stand in a key without quotes. -/
def isBare (c : Char) : Bool := c.isAlphanum || c == '_' || c == '-'

/-- Reads one part of a key, with the blanks around it. -/
def keyPart : Scanner String := do
  gap
  let part ← basicString <|> literalString <|> (String.ofList <$> takeWhile1 isBare)
  gap
  return part

/-- The number of parts that a key must not reach, and of levels that values must not reach. -/
def depthLimit : Nat := 80

/-- Reads a dotted key. -/
def key : Scanner (List String) := do
  let first ← keyPart
  let path := first :: (← many (do char '.'; keyPart))
  if path.length < depthLimit then return path else failure

/-! ## Numbers -/

/-- Reads digits, between which single underscores may stand. -/
def digitGroup (p : Char → Bool) : Scanner (List Char) := do
  let first ← satisfy p
  return first :: (← many (satisfy p <|> (do char '_'; satisfy p)))

/-- Reads a sign, if there is one. -/
def sign : Scanner (Option Char) := optional (satisfy (fun c => c == '+' || c == '-'))

/-- Reads a lone zero, or digits without leading zero. -/
def wholeDigits : Scanner (List Char) := do
  match ← peek with
  | some '0' => char '0'; return ['0']
  | _ => digitGroup Char.isDigit

/-- Reads a whole number in a base that its first two characters name. -/
def basedInteger (mark : String) (base : Nat) (p : Char → Bool) : Scanner Toml := do
  literal mark
  let n := numberOfDigits base (← digitGroup p)
  if n ≤ 9223372036854775807 then return .integer n else failure

/-- Reads a whole number in decimal. -/
def decimalInteger : Scanner Toml := do
  let s ← sign
  let n : Int := numberOfDigits 10 (← wholeDigits)
  let value := if s = some '-' then -n else n
  if -9223372036854775808 ≤ value ∧ value ≤ 9223372036854775807 then return .integer value
  else failure

/-- Reads a whole number. -/
def integer : Scanner Toml :=
  basedInteger "0x" 16 isHexDigit <|>
  basedInteger "0o" 8 (fun c => '0' ≤ c && c ≤ '7') <|>
  basedInteger "0b" 2 (fun c => c == '0' || c == '1') <|>
  decimalInteger

/-- Reads an exponent. -/
def exponent : Scanner (Option Char × List Char) := do
  let _ ← satisfy (fun c => c == 'e' || c == 'E')
  let s ← sign
  return (s, ← digitGroup Char.isDigit)

/-- Reads a number with a fraction or an exponent. -/
def decimal : Scanner Toml := do
  let s ← sign
  let whole ← wholeDigits
  let fraction ← optional (do char '.'; digitGroup Char.isDigit)
  let power ← if fraction.isSome then optional exponent else some <$> exponent
  let shift : Int :=
    match power with
    | none => 0
    | some (e, ds) =>
      if e = some '-' then -(numberOfDigits 10 ds : Int) else numberOfDigits 10 ds
  let places := fraction.getD []
  let significand := numberOfDigits 10 (whole ++ places)
  if s != some '-' && Binary64.decimalOverflows significand (shift - places.length) then failure
  else
    let written (e : Option Char × List Char) : List Char := 'e' :: (e.1.toList ++ e.2)
    return .real (String.ofList (s.toList ++ whole ++ fraction.elim [] ('.' :: ·) ++
      power.elim [] written))

/-- Reads an infinity or the value that is no number. -/
def special : Scanner Toml := do
  let s ← sign
  let name ← (do literal "inf"; return "inf") <|> (do literal "nan"; return "nan")
  return .real (String.ofList s.toList ++ name)

/-! ## Dates and times -/

/-- Reads a number of a fixed count of digits that lies in a range. -/
def fixed (count low high : Nat) : Scanner (List Char) := do
  let digits ← exactly count Char.isDigit
  let n := numberOfDigits 10 digits
  if low ≤ n ∧ n ≤ high then return digits else failure

/-- The number of days of a month in a year. -/
def daysOfMonth (year month : Nat) : Nat :=
  if month = 2 then
    if year % 4 = 0 ∧ (year % 100 ≠ 0 ∨ year % 400 = 0) then 29 else 28
  else if month = 4 ∨ month = 6 ∨ month = 9 ∨ month = 11 then 30
  else 31

/-- Reads a date. -/
def date : Scanner (List Char) := do
  let year ← fixed 4 0 9999
  char '-'
  let month ← fixed 2 1 12
  char '-'
  let day ← fixed 2 1 (daysOfMonth (numberOfDigits 10 year) (numberOfDigits 10 month))
  return year ++ '-' :: month ++ '-' :: day

/-- Reads a time of day. A minute may have a leap second. -/
def time : Scanner (List Char) := do
  let hour ← fixed 2 0 23
  char ':'
  let minute ← fixed 2 0 59
  char ':'
  let second ← fixed 2 0 60
  let fraction ← optional (do char '.'; takeWhile1 Char.isDigit)
  return hour ++ ':' :: minute ++ ':' :: second ++ fraction.elim [] ('.' :: ·)

/-- Reads the offset of a time from universal time. -/
def offset : Scanner (List Char) :=
  (do let _ ← satisfy (fun c => c == 'Z' || c == 'z'); return ['Z']) <|>
  (do
    let s ← satisfy (fun c => c == '+' || c == '-')
    let hour ← fixed 2 0 23
    char ':'
    let minute ← fixed 2 0 59
    return s :: hour ++ ':' :: minute)

/-- Reads a date, a time or both. -/
def moment : Scanner Toml :=
  (do
    let day ← date
    let rest ← optional do
      let _ ← satisfy (fun c => c == 'T' || c == 't' || c == ' ')
      let hour ← time
      return 'T' :: hour ++ (← optional offset).getD []
    return .moment (String.ofList (day ++ rest.getD []))) <|>
  (do return .moment (String.ofList (← time)))

/-! ## Values -/

/-- Reads a value that has no parts. -/
def scalar : Scanner Toml := do
  match ← peek with
  | some '"' => .string <$> anyString
  | some '\'' => .string <$> anyString
  | some 't' => literal "true"; return .bool true
  | some 'f' => literal "false"; return .bool false
  | _ => moment <|> decimal <|> special <|> integer

mutual

/-- Reads a value that opens no more than `depth` arrays and inline tables inside one another. -/
def value : (fuel depth : Nat) → Scanner Toml
  | 0, _ => failure
  | fuel + 1, depth => do
    match ← peek with
    | some '[' =>
      char '['
      if depth = 0 then failure else return .array (← items fuel (depth - 1))
    | some '\x7b' =>
      char '\x7b'
      gap
      if depth = 0 then failure
      else
        match ← peek with
        | some '\x7d' => char '\x7d'; return .inline []
        | _ =>
          let entries ← pairs fuel (depth - 1)
          return .inline (← defineAll entries [])
    | _ => scalar

/-- Reads the items of an array and the bracket after them. A comma may follow the last item. -/
def items : (fuel depth : Nat) → Scanner (List Toml)
  | 0, _ => failure
  | fuel + 1, depth => do
    wideGap
    match ← peek with
    | some ']' => char ']'; return []
    | _ =>
      let item ← value fuel depth
      wideGap
      match ← satisfy (fun c => c == ',' || c == ']') with
      | ',' => return item :: (← items fuel depth)
      | _ => return [item]

/-- Reads the pairs of an inline table, of which there has to be one, and the brace after them. -/
def pairs : (fuel depth : Nat) → Scanner (List (List String × Toml))
  | 0, _ => failure
  | fuel + 1, depth => do
    let path ← key
    char '='
    gap
    let item ← value fuel depth
    gap
    match ← satisfy (fun c => c == ',' || c == '\x7d') with
    | ',' => return (path, item) :: (← pairs fuel depth)
    | _ => return [(path, item)]

end

/-! ## Documents -/

/-- What a line of a document is. -/
inductive Line where
  /-- Nothing but blanks and a comment. -/
  | blank
  /-- A key with its value. -/
  | pair (path : List String) (value : Toml)
  /-- A header. -/
  | header (header : Header)

/-- Reads a key with its value. Every two calls of the mutual readers read a character at least. -/
def pair : Scanner Line := do
  let path ← key
  char '='
  gap
  let item ← fun input => value (2 * input.length + 2) (depthLimit - 1) input
  lineEnd
  return .pair path item

/-- Reads a header. -/
def header : Scanner Line := do
  char '['
  match ← peek with
  | some '[' =>
    char '['
    let path ← key
    literal "]]"
    lineEnd
    return .header (.entry path)
  | _ =>
    let path ← key
    char ']'
    lineEnd
    return .header (.table path)

/-- Reads a line, unless the document is at its end. -/
def line : Scanner (Option Line) := do
  gap
  match ← peek with
  | none => return none
  | some '#' => comment; (newline <|> eof); return some .blank
  | some '\n' => newline; return some .blank
  | some '\r' => newline; return some .blank
  | some '[' => some <$> header
  | some _ => some <$> pair

/-- The pairs in front of the first header, and the sections after it. -/
def sectionsOf (lines : List Line) : List (List String × Toml) × List Section :=
  lines.foldr (fun line (pairs, sections) =>
    match line with
    | .blank => (pairs, sections)
    | .pair path value => ((path, value) :: pairs, sections)
    | .header header => ([], ⟨header, pairs⟩ :: sections)) ([], [])

end Reader

/-- The root table of a document, if it is valid. A byte order mark in front of it does not
    count. -/
def parse? (text : String) : Option Members := do
  let document : Scanner (List Reader.Line) := do
    let _ ← optional (Scanner.char '\uFEFF')
    Scanner.collect Reader.line
  let lines ← document.run? text
  let (pairs, sections) := Reader.sectionsOf lines
  ofSections? pairs sections

end ShiftReduce.Toml
