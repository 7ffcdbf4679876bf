import ShiftReduce.Files

/-!
# Directories in memory

Files that are kept in memory, for a program that has no others. They take the place of the
parameter `Files`.

* `Location`: where a path leads, whatever its spelling.
* `FileTree.read`: what a program finds in the directories.
* `FileTree.present_of_read`: what can be read is there.
-/

namespace ShiftReduce

/-! ## Locations -/

/-- The directory that the names of a location start from. -/
inductive Anchor where
  /-- The root of all directories. -/
  | root
  /-- The directory so many levels above the working directory. -/
  | above (levels : Nat)
deriving DecidableEq, Repr

/-- A place among the directories: names to follow from an anchor, none of them empty or made of
    one or two dots. -/
structure Location where
  /-- Where the names start. -/
  anchor : Anchor
  /-- The names that lead there. -/
  names : List String
deriving DecidableEq, Repr

namespace Location

/-- The working directory. -/
def working : Location := ⟨.above 0, []⟩

/-- The directory around a location. The root stands in itself. -/
def parent : Location → Location
  | ⟨.root, []⟩ => ⟨.root, []⟩
  | ⟨.above levels, []⟩ => ⟨.above (levels + 1), []⟩
  | ⟨anchor, names⟩ => ⟨anchor, names.dropLast⟩

/-- Whether a name leads nowhere but to where it stands: an empty name and a single dot. -/
def isIdle (name : String) : Bool := name == "" || name == "."

/-- Where a name leads. Two dots lead to the directory around. -/
def enter (location : Location) (name : String) : Location :=
  if isIdle name then location
  else if name = ".." then location.parent
  else ⟨location.anchor, location.names ++ [name]⟩

/-- The locations on the way along names, from the first to the last. -/
def along (location : Location) : List String → List Location
  | [] => [location]
  | name :: rest => location :: (location.enter name).along rest

/-- The location that a path starts from and the names to follow: what stands between its
    slashes. A path with a slash in front starts from the root. -/
def route (path : String) : Location × List String :=
  match (path.toList.splitOn '/').map String.ofList with
  | "" :: name :: rest => (⟨.root, []⟩, name :: rest)
  | names => (working, names)

end Location

/-! ## Directories in memory -/

/-- Directories with their files. The anchors of locations are directories that need not be
    listed. -/
structure FileTree where
  /-- The files, each with its content. -/
  files : List (Location × ByteArray)
  /-- The directories. -/
  directories : List Location

namespace FileTree

/-- What stands at a location. -/
inductive Place where
  /-- A directory. -/
  | directory
  /-- A file. -/
  | file (content : ByteArray)

/-- What stands at a location, if anything does. -/
def place? (tree : FileTree) (location : Location) : Option Place :=
  match tree.files.find? (fun f => f.1 == location) with
  | some (_, content) => some (.file content)
  | none =>
    if location.names.isEmpty || tree.directories.contains location then some .directory else none

/-- The number of bytes that a name may have. -/
def maxName : Nat := 255

/-- The number of bytes that a path may have. -/
def maxPath : Nat := 4095

/-- Follows names from a place at a location. Only a directory leads on. -/
def walk (tree : FileTree) : List String → Location → Place → Except ReadFault Place
  | [], _, place => .ok place
  | _ :: _, _, .file _ => .error .notDirectory
  | name :: rest, location, .directory =>
    if maxName < name.utf8ByteSize then .error .nameTooLong
    else
      match tree.place? (location.enter name) with
      | some place => walk tree rest (location.enter name) place
      | none => .error .notFound

/-- What a path leads to. -/
def find (tree : FileTree) (path : String) : Except ReadFault Place :=
  if path.toList.contains '\x00' then .error .embeddedNul
  else if maxPath < path.utf8ByteSize then .error .nameTooLong
  else if path = "" then .error .notFound
  else
    let (start, names) := Location.route path
    walk tree names start .directory

/-- What a program finds at a path. Directories and files that are no texts are there as well. -/
def read (tree : FileTree) : Files where
  read path :=
    match tree.find path with
    | .error fault => .error fault
    | .ok .directory => .error .isDirectory
    | .ok (.file content) =>
      match String.fromUTF8? content with
      | some text => .ok text
      | none => .error .notText
  present path := (tree.find path).isOk

/-- What can be read is there. -/
theorem present_of_read {tree : FileTree} {path text : String}
    (h : tree.read.read path = .ok text) : tree.read.present path = true := by
  simp only [read] at h ⊢
  cases hfind : tree.find path with
  | error fault =>
    rw [hfind] at h
    cases h
  | ok place => rfl

/-- What stands outside the working directory: the usual directories below the root, and the
    device that reads as an empty file. -/
def surroundings : FileTree :=
  let below (names : List String) : Location := ⟨.root, names⟩
  { files := [(below ["dev", "null"], .empty)]
    directories :=
      ["bin", "dev", "etc", "home", "lib", "proc", "sbin", "sys", "tmp", "usr", "var"].map
        fun name => below [name] }

/-- The tree with the directories on the way along names. -/
def makeDirectories (tree : FileTree) (start : Location) (names : List String) : FileTree :=
  { tree with directories := start.along names ++ tree.directories }

/-- The tree with a file at a location, in place of one that was there. -/
def write (tree : FileTree) (location : Location) (content : ByteArray) : FileTree :=
  { tree with files := (location, content) :: tree.files.filter (fun f => f.1 != location) }

/-- The tree with a path added, and with the directories on the way to it. A path that ends in a
    slash is a directory, and any other one is a file. -/
def add (tree : FileTree) (path : String) (content : ByteArray) : FileTree :=
  let (start, names) := Location.route path
  if path.endsWith "/" then tree.makeDirectories start names
  else
    (tree.makeDirectories start names.dropLast).write (names.foldl Location.enter start) content

/-- The tree of a list of paths with their contents, added one after the other. -/
def ofList (entries : List (String × ByteArray)) : FileTree :=
  entries.foldl (fun tree (path, content) => tree.add path content) surroundings

end FileTree

end ShiftReduce
