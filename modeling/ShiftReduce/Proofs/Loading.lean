import ShiftReduce.CommandLine.Program
import ShiftReduce.Proofs.EntryKinds
import ShiftReduce.Proofs.Run

/-!
# What a command loads

A run needs its settings, its table and, if there are any in effect, its overrides. Each of them is
in a file that has to be there, has to be text, has to be a valid document and has to hold what is
asked of it. When all of that is so, there is one machine that the command runs. Which texts are
valid documents is up to the readers.

* `Files.Holds`: what a JSON document holds.
* `Files.HasSettings`: the settings in force.
* `OverridesInEffect`: which override document counts.
* `Files.Readies`: the machine that is run.
* `Readers.KeepsKeys`: objects that are read have every key once.
* `Files.HasDocument`: the document at a path.

Results:
* `loadModel_eq_ok_iff`, `loadOverrides_eq_ok_iff`, `loadSettings_eq_ok_iff`: loading succeeds
  exactly when the files hold what is asked of them.
* `readies_iff`: a machine is made exactly when loading succeeds at each of its stages.
* `Files.Readies.unique`: no other machine is made.
* `keepsKeys_standard`: the reader of JSON texts in this library keeps to the order of keys.
* `Files.Readies.exists_documents`: what the machine that is run finds in its tables is what the
  documents write.
-/

namespace ShiftReduce

/-! ## What files hold -/

/-- There is a text at the path, it is valid JSON, and `read` makes `x` of the value. -/
def Files.Holds {α : Type} (files : Files) (r : Readers) (path : String)
    (read : Json → Except DocumentError α) (x : α) : Prop :=
  ∃ text value, files.read path = .ok text ∧ r.json text = .ok value ∧ read value = .ok x

/-- There is a text at the path, and it has the settings. -/
def Files.HoldsSettings (files : Files) (r : Readers) (path : String) (settings : Settings) :
    Prop :=
  ∃ text, files.read path = .ok text ∧ r.settings text = .ok settings

/-- The settings in force, given the path of a configuration document or none. -/
inductive Files.HasSettings (files : Files) (r : Readers) : Option String → Settings → Prop
  /-- They are in the document at the path. -/
  | given {path : String} {settings : Settings} (h : files.HoldsSettings r path settings) :
      HasSettings files r (some path) settings
  /-- There is a document at the usual place, and they are in it. -/
  | found {settings : Settings} (hpresent : files.present "lrtable.toml" = true)
      (h : files.HoldsSettings r "lrtable.toml" settings) : HasSettings files r none settings
  /-- There is nothing at the usual place, and all settings are left open. -/
  | absent (habsent : files.present "lrtable.toml" = false) : HasSettings files r none {}

/-- The path of the override document in effect, given the settings, the path of a document or none,
    and whether none at all is asked for. -/
inductive OverridesInEffect (settings : Settings) : Option String → Bool → Option String → Prop
  /-- None at all is asked for. -/
  | disabled (overrides : Option String) : OverridesInEffect settings overrides true none
  /-- One is given, whatever the settings name. -/
  | given (path : String) : OverridesInEffect settings (some path) false (some path)
  /-- None is given, so it is the one that the settings name, if they name one. -/
  | configured : OverridesInEffect settings none false settings.overrides

/-- A model, and what becomes of it with the overrides at a path, if there is one. -/
inductive Files.Overrides (files : Files) (r : Readers) : Option String → Model → Model → Prop
  /-- No overrides are in effect. -/
  | absent (M : Model) : Overrides files r none M M
  /-- The overrides are in the document at the path. -/
  | given {path : String} {overrides : Table} (M : Model)
      (h : files.Holds r path Document.overrides overrides) :
      Overrides files r (some path) M (M.withOverrides overrides)

/-- What is to be run, and with which overrides. -/
structure RunTask where
  /-- The path of a configuration document, if one is given. -/
  config : Option String
  /-- The path of the table document. -/
  table : String
  /-- The text that is split into words. -/
  input : String
  /-- The path of an override document, if one is given. -/
  overrides : Option String
  /-- Whether no overrides at all are to be in effect. -/
  noOverrides : Bool

/-- All that a run needs can be loaded, and `m` is the machine that is run. Settings that are left
    open are a dollar sign for the end marker and 1 for the start state. -/
def Files.Readies (files : Files) (r : Readers) (task : RunTask) (m : Machine) : Prop :=
  ∃ settings M path M', files.HasSettings r task.config settings ∧
    files.Holds r task.table Document.model M ∧
    OverridesInEffect settings task.overrides task.noOverrides path ∧
    files.Overrides r path (M.withStartState ⟨settings.startState.getD "1"⟩) M' ∧
    m = Machine.start M' (words task.input ++ [settings.endMarker.getD "$"])

/-! ## Loading -/

variable {r : Readers} {files : Files} {config : Option String} {path : String}
variable {settings : Settings}

theorem mapError_eq_ok_iff {ε ε' α : Type} {x : Except ε α} {f : ε → ε'} {a : α} :
    x.mapError f = .ok a ↔ x = .ok a := by
  cases x <;> simp [Except.mapError]

theorem readJson_eq_ok_iff {role : DocumentRole} {value : Json} :
    readJson r files role path = .ok value ↔
      ∃ text, files.read path = .ok text ∧ r.json text = .ok value := by
  rw [readJson]
  cases files.read path with
  | error fault => simp
  | ok text => simp [mapError_eq_ok_iff]

/-- Loading a document of either role comes down to reading its value. -/
theorem exists_readJson_iff {α : Type} {role : DocumentRole} {read : Json → Except DocumentError α}
    {x : α} : (∃ value, readJson r files role path = .ok value ∧ read value = .ok x) ↔
      files.Holds r path read x := by
  simp only [readJson_eq_ok_iff, Files.Holds]
  constructor
  · rintro ⟨value, ⟨text, htext, hvalue⟩, hx⟩
    exact ⟨text, value, htext, hvalue, hx⟩
  · rintro ⟨text, value, htext, hvalue, hx⟩
    exact ⟨value, ⟨text, htext, hvalue⟩, hx⟩

theorem loadModel_eq_ok_iff {M : Model} :
    loadModel r files path = .ok M ↔ files.Holds r path Document.model M := by
  simp only [loadModel, bind_eq_ok_iff, mapError_eq_ok_iff, exists_readJson_iff]

theorem loadOverrides_eq_ok_iff {overrides : Table} :
    loadOverrides r files path = .ok overrides ↔
      files.Holds r path Document.overrides overrides := by
  simp only [loadOverrides, bind_eq_ok_iff, mapError_eq_ok_iff, exists_readJson_iff]

theorem readSettings_eq_ok_iff :
    readSettings r files path = .ok settings ↔ files.HoldsSettings r path settings := by
  rw [readSettings, Files.HoldsSettings]
  cases files.read path with
  | error fault => simp
  | ok text => simp [mapError_eq_ok_iff]

theorem loadSettings_eq_ok_iff :
    loadSettings r files config = .ok settings ↔ files.HasSettings r config settings := by
  cases config with
  | some path =>
    rw [loadSettings, readSettings_eq_ok_iff]
    constructor
    · exact .given
    · rintro ⟨h⟩
      exact h
  | none =>
    rw [loadSettings]
    split_ifs with hpresent
    · rw [readSettings_eq_ok_iff]
      constructor
      · exact .found hpresent
      · intro h
        cases h with
        | found _ h => exact h
        | absent habsent => exact absurd hpresent (Bool.eq_false_iff.1 habsent)
    · constructor
      · rintro ⟨⟩
        exact .absent (Bool.eq_false_iff.2 hpresent)
      · intro h
        cases h with
        | found h => exact absurd h hpresent
        | absent => rfl

theorem overridePath?_eq_iff {overrides effective : Option String} {noOverrides : Bool} :
    overridePath? settings overrides noOverrides = effective ↔
      OverridesInEffect settings overrides noOverrides effective := by
  constructor
  · rintro rfl
    cases noOverrides with
    | true => exact .disabled overrides
    | false =>
      cases overrides with
      | none => exact .configured
      | some path => exact .given path
  · rintro (_ | _ | _) <;> rfl

theorem exists_applyOverrides_iff {M M' : Model} {overrides : Option String} :
    (∃ records, applyOverrides r files overrides M = .ok (M', records)) ↔
      files.Overrides r overrides M M' := by
  cases overrides with
  | none =>
    constructor
    · rintro ⟨records, ⟨⟩⟩
      exact .absent M
    · rintro ⟨⟩
      exact ⟨[], rfl⟩
  | some path =>
    simp only [applyOverrides, bind_eq_ok_iff, loadOverrides_eq_ok_iff]
    constructor
    · rintro ⟨records, o, ho, ⟨⟩⟩
      exact .given M ho
    · intro h
      cases h with
      | given _ ho => exact ⟨_, _, ho, rfl⟩

/-! ## The machine that is run -/

variable {task : RunTask} {m m' : Machine}

/-- A machine is made exactly when the settings, the model and the overrides load. -/
theorem readies_iff :
    files.Readies r task m ↔
      ∃ settings M M' records, loadSettings r files task.config = .ok settings ∧
        loadModel r files task.table = .ok M ∧
        applyOverrides r files (overridePath? settings task.overrides task.noOverrides)
          (M.withStartState settings.effectiveStartState) = .ok (M', records) ∧
        m = Machine.start M' (tokenize task.input settings.effectiveEndMarker) := by
  simp only [Files.Readies, ← loadSettings_eq_ok_iff, ← loadModel_eq_ok_iff,
    ← exists_applyOverrides_iff, ← overridePath?_eq_iff]
  constructor
  · rintro ⟨settings, M, _, M', hsettings, hM, rfl, ⟨records, hM'⟩, hm⟩
    exact ⟨settings, M, M', records, hsettings, hM, hM', hm⟩
  · rintro ⟨settings, M, M', records, hsettings, hM, hM', hm⟩
    exact ⟨settings, M, _, M', hsettings, hM, rfl, ⟨records, hM'⟩, hm⟩

theorem Files.Readies.unique (h : files.Readies r task m) (h' : files.Readies r task m') :
    m = m' := by
  obtain ⟨settings, M, M₁, records, hsettings, hM, hM₁, rfl⟩ := readies_iff.1 h
  obtain ⟨settings', M', M₁', records', hsettings', hM', hM₁', rfl⟩ := readies_iff.1 h'
  rw [hsettings] at hsettings'
  cases hsettings'
  rw [hM] at hM'
  cases hM'
  rw [hM₁] at hM₁'
  cases hM₁'
  rfl

/-- The machine that is run has not made a step. -/
theorem Files.Readies.running (h : files.Readies r task m) : m.verdict = none := by
  obtain ⟨settings, M, path, M', -, -, -, -, rfl⟩ := h
  rfl

/-! ## What the documents write -/

/-- The objects in a value that is read have every key once, in the order of the keys. -/
def Readers.KeepsKeys (r : Readers) : Prop :=
  ∀ text value, r.json text = .ok value → value.WellKeyed

/-- There is a text at the path, and it is a JSON document. -/
def Files.HasDocument (files : Files) (r : Readers) (path : String) (document : Json) : Prop :=
  ∃ text, files.read path = .ok text ∧ r.json text = .ok document

theorem keepsKeys_standard : Readers.standard.KeepsKeys := by
  intro text value h
  have hread : (Json.parse? text).elim (.error "<json error>") .ok = Except.ok value := h
  cases hparse : Json.parse? text with
  | none =>
    rw [hparse] at hread
    cases hread
  | some value' =>
    rw [hparse] at hread
    cases hread
    exact Json.wellKeyed_of_parse? hparse

/-- The model that is run is loaded from the table document, with the overrides of the document in
    effect if there is one. -/
theorem Files.Readies.exists_loadedFrom (hr : r.KeepsKeys) (h : files.Readies r task m) :
    ∃ settings path document patch, files.HasSettings r task.config settings ∧
      OverridesInEffect settings task.overrides task.noOverrides path ∧
      files.HasDocument r task.table document ∧ Option.Rel (files.HasDocument r) path patch ∧
      Document.WellKeyedPair document patch ∧ Document.LoadedFrom document patch m.model := by
  obtain ⟨settings, M, path, M', hsettings, ⟨text, document, htext, hdocument, hM⟩, hpath, hM',
    rfl⟩ := h
  have hkeys : document.WellKeyed := hr text document hdocument
  cases hM' with
  | absent =>
    refine ⟨settings, none, document, none, hsettings, hpath, ⟨text, htext, hdocument⟩, .none,
      ⟨hkeys, fun hp => ?_⟩, (Document.LoadedFrom.table hM).startingAt _⟩
    cases hp
  | @given path _ _ ho =>
    obtain ⟨text', patch, htext', hpatch, ho⟩ := ho
    refine ⟨settings, some path, document, some patch, hsettings, hpath, ⟨text, htext, hdocument⟩,
      .some ⟨text', htext', hpatch⟩, ⟨hkeys, fun hp => ?_⟩,
      (Document.LoadedFrom.patched hM ho).startingAt _⟩
    cases hp
    exact hr text' patch hpatch

/-- What a run of the program looks up in its tables is what the documents write at the site: an
    entry of the overrides in effect if there is one, or else one of the table document. -/
theorem Files.Readies.exists_documents (h : files.Readies .standard task m) :
    ∃ settings path document patch, files.HasSettings .standard task.config settings ∧
      OverridesInEffect settings task.overrides task.noOverrides path ∧
      files.HasDocument .standard task.table document ∧
      Option.Rel (files.HasDocument .standard) path patch ∧
      ∀ enabled s X a, (∃ source, m.model.lookupAction s X enabled = .found a source) ↔
        ∃ value, Document.entryAt? document patch enabled s X = some value ∧
          Document.Writes value a := by
  obtain ⟨settings, path, document, patch, hsettings, hpath, hdocument, hpatch, hkeys, hload⟩ :=
    h.exists_loadedFrom keepsKeys_standard
  exact ⟨settings, path, document, patch, hsettings, hpath, hdocument, hpatch,
    fun enabled s X a => hload.found_iff hkeys⟩

end ShiftReduce
