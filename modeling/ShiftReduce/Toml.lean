import ShiftReduce.SortedMap

/-!
# TOML documents

A configuration document is a sequence of sections, each with key-value pairs. The pairs of a
section go into the table that its header names. What makes a document invalid is that something
would be defined twice, or extended although it is complete:

* a key may be given a value once;
* a table may have one header, and none if dotted keys made it;
* dotted keys extend only tables that dotted keys made;
* inline tables and plain arrays are complete as they are written.

`Toml.ofSections?` is the root table of a sequence of sections, if none of this happens.
-/

namespace ShiftReduce

/-- How a table came about. -/
inductive TableOrigin where
  /-- A header names it. -/
  | header
  /-- A header names a table below it. -/
  | implied
  /-- A dotted key names a value below it. -/
  | dotted
deriving DecidableEq, Repr

/-- A TOML value. -/
inductive Toml where
  /-- A text. -/
  | string (text : String)
  /-- A whole number. -/
  | integer (value : Int)
  /-- A number with a fraction or an exponent, an infinity or no number, as it is written. -/
  | real (literal : String)
  /-- A truth value. -/
  | bool (value : Bool)
  /-- A date, a time or both, as it is written. -/
  | moment (literal : String)
  /-- An array that is written as a value. -/
  | array (items : List Toml)
  /-- A table that is written as a value. -/
  | inline (members : List (String × Toml))
  /-- Any other table. -/
  | table (origin : TableOrigin) (members : List (String × Toml))
  /-- An array of tables that have headers, each with its members. -/
  | tables (entries : List (List (String × Toml)))

namespace Toml

/-- The members of a table, in the order in which their keys appear. -/
abbrev Members := List (String × Toml)

/-! ## Members -/

/-- Puts `value` at `key`, in the place of an earlier value, or else at the end. -/
def setMember (key : String) (value : Toml) : Members → Members
  | [] => [(key, value)]
  | (k, v) :: rest => if key = k then (key, value) :: rest else (k, v) :: setMember key value rest

/-- Applies `change` to the last of several tables. -/
def changeLast (change : Members → Option Members) : List Members → Option (List Members)
  | [] => none
  | [last] => (change last).map ([·])
  | entry :: rest => (changeLast change rest).map (entry :: ·)

/-- Gives the key at the end of `path` a value. The keys before it lead through tables that are
    made on the way. `extensible` tells whether `members` may have a key of their own added. -/
def define (value : Toml) : (path : List String) → (extensible : Bool) → Members → Option Members
  | [], _, _ => none
  | [key], extensible, members =>
    if extensible && (lookupEntry key members).isNone then some (members ++ [(key, value)])
    else none
  | key :: rest, _, members =>
    match lookupEntry key members with
    | none => do
      let inner ← define value rest true []
      return members ++ [(key, .table .dotted inner)]
    | some (.table .header _) => none
    | some (.table .implied inner) => do
      let inner ← define value rest false inner
      return setMember key (.table .implied inner) members
    | some (.table .dotted inner) => do
      let inner ← define value rest true inner
      return setMember key (.table .dotted inner) members
    | some (.tables entries) => do
      let entries ← changeLast (define value rest false) entries
      return setMember key (.tables entries) members
    | some _ => none

/-- Gives every path of a list its value, one after the other. -/
def defineAll (pairs : List (List String × Toml)) (members : Members) : Option Members :=
  pairs.foldlM (fun members (path, value) => define value path true members) members

/-! ## Sections -/

/-- Whose pairs a section holds. -/
inductive Header where
  /-- Those of the table at a path. -/
  | table (path : List String)
  /-- Those of a new last entry of the array of tables at a path. -/
  | entry (path : List String)
deriving DecidableEq, Repr

/-- A header with the pairs below it. -/
structure Section where
  /-- Whose pairs they are. -/
  header : Header
  /-- The pairs of a dotted key and its value. -/
  pairs : List (List String × Toml)

/-- Changes what stands at the end of `path`. The keys before it lead through tables, which are
    implied where there are none, and through the last entries of arrays of tables. -/
def place (change : Option Toml → Option Toml) : (path : List String) → Members → Option Members
  | [], _ => none
  | [key], members => do return setMember key (← change (lookupEntry key members)) members
  | key :: rest, members =>
    match lookupEntry key members with
    | none => do return setMember key (.table .implied (← place change rest [])) members
    | some (.table origin inner) => do
      return setMember key (.table origin (← place change rest inner)) members
    | some (.tables entries) => do
      return setMember key (.tables (← changeLast (place change rest) entries)) members
    | some _ => none

/-- The table of a header with `pairs` added. There must be no table yet, or one that is merely
    implied. -/
def openTable (pairs : List (List String × Toml)) : Option Toml → Option Toml
  | none => (defineAll pairs []).map (.table .header)
  | some (.table .implied members) => (defineAll pairs members).map (.table .header)
  | some _ => none

/-- The array of tables of a header with an entry of `pairs` added. -/
def openEntry (pairs : List (List String × Toml)) : Option Toml → Option Toml
  | none => (defineAll pairs []).map (fun entry => .tables [entry])
  | some (.tables entries) => (defineAll pairs []).map (fun entry => .tables (entries ++ [entry]))
  | some _ => none

/-- Adds a section to the root table. -/
def addSection (root : Members) (part : Section) : Option Members :=
  match part.header with
  | .table path => place (openTable part.pairs) path root
  | .entry path => place (openEntry part.pairs) path root

/-- The root table of the pairs before the first header and the sections after it. -/
def ofSections? (pairs : List (List String × Toml)) (sections : List Section) : Option Members := do
  sections.foldlM addSection (← defineAll pairs [])

end Toml

end ShiftReduce
