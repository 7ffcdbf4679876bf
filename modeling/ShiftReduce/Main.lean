import ShiftReduce.CommandLine.Program

/-!
# The command line

Reads the files that an invocation names, runs it, and writes what it leaves behind.
-/

namespace ShiftReduce.Main

/-- The number of a system error. Some calls report it negated. -/
def systemCode (code : UInt32) : Nat :=
  if code.toNat < 2147483648 then code.toNat else 4294967296 - code.toNat

/-- The fault of a system error with its number and its text. -/
def faultOfCode (code : Nat) (reason : String) : ReadFault :=
  match code with
  | 2 => .notFound
  | 20 => .notDirectory
  | 21 => .isDirectory
  | 22 => .embeddedNul
  | 36 => .nameTooLong
  | code => .refused reason.capitalize code

/-- Why the system refuses to read a path. -/
def faultOf : IO.Error → ReadFault
  | .noFileOrDirectory _ code reason => faultOfCode (systemCode code) reason
  | .inappropriateType _ code reason => faultOfCode (systemCode code) reason
  | .invalidArgument _ code reason => faultOfCode (systemCode code) reason
  | .permissionDenied _ code reason => faultOfCode (systemCode code) reason
  | error => .refused error.toString 0

/-- Reads a path as a text. -/
def readPath (path : String) : IO (Except ReadFault String) := do
  try
    let content ← IO.FS.readBinFile path
    match String.fromUTF8? content with
    | some text => return .ok text
    | none => return .error .notText
  catch error => return .error (faultOf error)

/-- Whether a path leads anywhere. -/
def isPresent (path : String) : IO Bool := do
  try
    let _ ← IO.FS.realPath path
    return true
  catch _ => return false

/-- The files at a list of paths. -/
def findPaths (paths : List String) : IO Files := do
  let found ← paths.mapM (fun path => return (path, ← readPath path, ← isPresent path))
  let lookUp (path : String) := found.find? (fun entry => entry.1 == path)
  return {
    read path := (lookUp path).elim (.error .notFound) (·.2.1)
    present path := (lookUp path).elim false (·.2.2) }

/-- The files that a list of arguments makes the program read. -/
def filesFor (arguments : List String) : IO Files := do
  match Readers.standard.arguments arguments with
  | .error _ => findPaths []
  | .ok invocation =>
    let config := invocation.config.getD defaultConfig
    let files ← findPaths [config]
    match loadSettings .standard files invocation.config with
    | .error _ => return files
    | .ok settings => findPaths (config :: invocation.documentPaths settings)

/-- Runs for as long as it takes. -/
partial def settle (fuel : Nat) (run : Nat → Option Outcome) : IO Outcome := do
  match run fuel with
  | some outcome => return outcome
  | none => settle (16 * fuel) run

end ShiftReduce.Main

open ShiftReduce in
/-- Runs the program. -/
def main (arguments : List String) : IO UInt32 := do
  let files ← Main.filesFor arguments
  let surrounding := ((← IO.getEnv "RUST_LOG").bind LogFilter.ofName?).getD .standard
  let outcome ← Main.settle 4096 (fun fuel => execute? fuel files surrounding arguments)
  IO.eprint outcome.errors
  IO.print outcome.output
  return outcome.exitCode.toUInt32
