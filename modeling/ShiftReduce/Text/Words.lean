/-!
# Words

A text is split into words at blanks, by the `White_Space` property of Unicode. Words are not
empty, and runs of blanks count as one.
-/

namespace ShiftReduce

/-- Whether a character has the `White_Space` property. -/
def isBlank (c : Char) : Bool :=
  let n := c.toNat
  (0x09 ≤ n && n ≤ 0x0D) || n == 0x20 || n == 0x85 || n == 0xA0 || n == 0x1680 ||
    (0x2000 ≤ n && n ≤ 0x200A) || n == 0x2028 || n == 0x2029 || n == 0x202F || n == 0x205F ||
    n == 0x3000

/-- A word, unless there are no characters for one. -/
def wordOf (letters : List Char) : List String :=
  match letters with
  | [] => []
  | letters => [String.ofList letters]

/-- The words of a list of characters, where the characters of `before`, last one first, belong to
    the word that is being read. -/
def wordsFrom (before : List Char) : List Char → List String
  | [] => wordOf before.reverse
  | c :: rest =>
    if isBlank c then wordOf before.reverse ++ wordsFrom [] rest
    else wordsFrom (c :: before) rest

/-- The words of a text. -/
def words (text : String) : List String := wordsFrom [] text.toList

end ShiftReduce
