import ShiftReduce.Settings
import ShiftReduce.Toml.Reader

/-!
# Settings in TOML documents

Settings are in the section `parser` of a document. Other keys are left to other programs. This is
a reader of settings for the parameter `Readers`.

* `Settings.parse?`: the settings in a text.
-/

namespace ShiftReduce

namespace Settings

/-- The text of a value. Values of other kinds have none. -/
def textOf? : Toml → Option String
  | .string text => some text
  | _ => none

/-- The text under `key`, if there is anything; fails if it is no text. -/
def textField (members : Toml.Members) (key : String) : Option (Option String) :=
  match lookupEntry key members with
  | none => some none
  | some value => (textOf? value).map some

/-- The settings in the members of a table. -/
def ofMembers? (members : Toml.Members) : Option Settings := do
  return {
    endMarker := ← textField members "end_marker"
    startState := ← textField members "start_state"
    overrides := ← textField members "overrides" }

/-- The settings in a section. A table has them by name, and an array has the three of them in
    order and perhaps more items. A date is a table of a single private key. -/
def ofSection? : Toml → Option Settings
  | .table _ members => ofMembers? members
  | .inline members => ofMembers? members
  | .array (endMarker :: startState :: overrides :: _) => do
    return {
      endMarker := some (← textOf? endMarker)
      startState := some (← textOf? startState)
      overrides := some (← textOf? overrides) }
  | .moment _ => some {}
  | _ => none

/-- The settings in a document. -/
def ofDocument? (root : Toml.Members) : Option Settings :=
  match lookupEntry "parser" root with
  | none => some {}
  | some part => ofSection? part

/-- The settings in a text, if it is a document that has them. -/
def parse? (text : String) : Option Settings := (Toml.parse? text).bind ofDocument?

end Settings

end ShiftReduce
