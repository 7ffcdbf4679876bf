/-!
# Plain text

Text for a stream that is not a terminal: control sequences and control characters other than
white space are left out.

The reader works in two phases. It *skips* characters of the sequence that it is in, until one
shows; then it *shows* all characters up to the next one that never shows. A sequence that white
space has interrupted is not forgotten: the reader takes it up again when it next skips, unless a
character beyond ASCII has been shown in between.

* `ControlMode.next`: what a skipped character does to the sequence.
* `plain`: the text without what is skipped.
-/

namespace ShiftReduce

/-! ## Sequences -/

/-- The control sequence that a reader is in. -/
inductive ControlMode where
  /-- None. -/
  | text
  /-- One of which only the escape character is known. -/
  | escape
  /-- An escape sequence with intermediate characters. -/
  | escapeTail
  /-- A sequence with parameters. -/
  | parameters
  /-- A command that a bell ends. -/
  | command
  /-- The head of a device control string, before its parameters. -/
  | deviceHead
  /-- The head of a device control string, in its parameters. -/
  | deviceParameters
  /-- The head of a device control string, behind its parameters. -/
  | deviceTail
  /-- The body of a string. -/
  | string
deriving DecidableEq, Repr

/-- Whether one of the bytes behind the first one of a character in UTF-8 is the byte 0x9C, which
    ends the body of a string. -/
def holdsTerminator (c : Char) : Bool :=
  let n := c.toNat
  (0x80 ≤ n && n % 64 == 0x1C) || (0x800 ≤ n && n / 64 % 64 == 0x1C) ||
    (0x10000 ≤ n && n / 4096 % 64 == 0x1C)

namespace ControlMode

/-- The mode behind a character that is skipped. A new escape character begins a new sequence, and
    the characters 0x18 and 0x1A abandon every sequence. -/
def next (mode : ControlMode) (c : Char) : ControlMode :=
  let n := c.toNat
  if n == 0x18 || n == 0x1A then text
  else if n == 0x1B then escape
  else
    match mode with
    | text => text
    | escape =>
      if 0x20 ≤ n && n ≤ 0x2F then escapeTail
      else if c == '[' then parameters
      else if c == ']' then command
      else if c == 'P' then deviceHead
      else if c == 'X' || c == '^' || c == '_' then string
      else if 0x30 ≤ n && n ≤ 0x7E then text
      else escape
    | escapeTail => if 0x30 ≤ n && n ≤ 0x7E then text else escapeTail
    | parameters => if 0x40 ≤ n && n ≤ 0x7E then text else parameters
    | command => if n == 0x07 then text else command
    | deviceHead =>
      if 0x20 ≤ n && n ≤ 0x2F then deviceTail
      else if 0x30 ≤ n && n ≤ 0x3F then deviceParameters
      else if 0x40 ≤ n && n ≤ 0x7E then string
      else deviceHead
    | deviceParameters =>
      if 0x20 ≤ n && n ≤ 0x2F then deviceTail
      else if 0x3C ≤ n && n ≤ 0x7E then string
      else deviceParameters
    | deviceTail => if 0x30 ≤ n && n ≤ 0x7E then string else deviceTail
    | string => if holdsTerminator c then text else string

/-- Whether a character is white space that keeps its place in a line of text. -/
def isLayout (c : Char) : Bool := c == '\t' || c == '\n' || c == '\x0c' || c == '\r'

/-- Whether a character shows when a reader skips in a mode. Sequences are interrupted by white
    space, and strings and commands are not. -/
def shows (mode : ControlMode) (c : Char) : Bool :=
  match mode with
  | text => isLayout c || (0x20 ≤ c.toNat && c.toNat != 0x7F)
  | escape => isLayout c
  | escapeTail => isLayout c
  | parameters => isLayout c
  | command => false
  | deviceHead => false
  | deviceParameters => false
  | deviceTail => false
  | string => false

/-- The mode behind a character that is shown. -/
def behindShown (mode : ControlMode) (c : Char) : ControlMode :=
  if 0x80 ≤ c.toNat then text else mode

end ControlMode

/-! ## Text -/

/-- The characters that are shown, from a mode and a phase on. -/
def plainFrom (mode : ControlMode) (showing : Bool) : List Char → List Char
  | [] => []
  | c :: rest =>
    if mode.shows c || (showing && ControlMode.text.shows c) then
      c :: plainFrom (mode.behindShown c) true rest
    else plainFrom (mode.next c) false rest

/-- The text without control sequences and control characters. -/
def plain (text : String) : String := String.ofList (plainFrom .text false text.toList)

end ShiftReduce
