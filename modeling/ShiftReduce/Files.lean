/-!
# Files

What a program finds where it looks for a text file. That there is something at a path and that it
can be read as a text are two questions, each with an answer of its own.

* `ReadFault`: why a path cannot be read.
* `Files`: the answers for all paths.
-/

namespace ShiftReduce

/-- Why a path cannot be read as a text. -/
inductive ReadFault where
  /-- There is nothing at the path. -/
  | notFound
  /-- The path leads through a file. -/
  | notDirectory
  /-- There is a directory at the path. -/
  | isDirectory
  /-- The file is not valid UTF-8. -/
  | notText
  /-- The path or a name in it is longer than file systems allow. -/
  | nameTooLong
  /-- The path holds the character that ends a path. -/
  | embeddedNul
  /-- The system refuses for another reason. -/
  | refused (reason : String) (code : Nat)
deriving DecidableEq, Repr

/-- The fault in words. -/
def ReadFault.message : ReadFault → String
  | notFound => "No such file or directory (os error 2)"
  | notDirectory => "Not a directory (os error 20)"
  | isDirectory => "Is a directory (os error 21)"
  | notText => "stream did not contain valid UTF-8"
  | nameTooLong => "File name too long (os error 36)"
  | embeddedNul => "file name contained an unexpected NUL byte"
  | refused reason code => reason ++ " (os error " ++ toString code ++ ")"

/-- The files around a program. -/
structure Files where
  /-- What reading a path gives. -/
  read (path : String) : Except ReadFault String
  /-- Whether there is a file or a directory at a path. A path that leads to neither for any reason,
      be it that the system refuses to follow it, counts as one with nothing there. -/
  present (path : String) : Bool

end ShiftReduce
