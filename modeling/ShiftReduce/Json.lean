import ShiftReduce.SortedMap

/-!
# JSON values

Values of the data format in which tables are stored and verdicts are reported. Object members are
kept in increasing order of their keys, each key once.
-/

namespace ShiftReduce

/-- A JSON value. -/
inductive Json where
  /-- The literal `null`. -/
  | null
  /-- A truth value. -/
  | bool (value : Bool)
  /-- A number that is written as a whole number. -/
  | integer (value : Int)
  /-- Any other number, as it is written. -/
  | real (literal : String)
  /-- A text. -/
  | string (value : String)
  /-- A list of values. -/
  | array (items : List Json)
  /-- An object with its members. -/
  | object (members : List (String × Json))

namespace Json

/-- An object with the given members, of which the last counts where keys repeat. -/
def ofMembers (members : List (String × Json)) : Json :=
  .object (SortedMap.ofList members).entries

/-- A whole number. -/
def ofNat (n : Nat) : Json := .integer n

/-- The member `key` of an object. Other values have no members. -/
def member? (value : Json) (key : String) : Option Json :=
  match value with
  | .object members => lookupEntry key members
  | _ => none

/-- The members of an object. -/
def object? : Json → Option (List (String × Json))
  | .object members => some members
  | _ => none

/-- The items of an array. -/
def array? : Json → Option (List Json)
  | .array items => some items
  | _ => none

/-- The text of a string. -/
def string? : Json → Option String
  | .string value => some value
  | _ => none

/-- The object with `value` at `key`. Other values stay as they are. -/
def setMember (object : Json) (key : String) (value : Json) : Json :=
  match object with
  | .object members => .object (insertEntry key value members)
  | other => other

end Json

end ShiftReduce
