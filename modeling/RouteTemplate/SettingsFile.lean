import RouteTemplate.Error
import RouteTemplate.Expander
import RouteTemplate.Toml.Document

/-!
Settings files. A file may set any of the settings in its table `expander`, and add fragments to the
standard ones in its table `patterns`; all else in it is ignored. What it does not set is as if there
were no file.
-/

namespace RouteTemplate

/-- What stands under a name in a directory. -/
inductive FileContent where
  | missing
  | directory
  | bytes (b : ByteArray)
  deriving Inhabited

structure SettingsFile where
  settings : Settings
  patterns : List (List Char × List Char)
  deriving DecidableEq, Repr, Inhabited

namespace SettingsFile

def standard : SettingsFile := ⟨.standard, []⟩

/-- The name under which a settings file is looked for. -/
def defaultName : List Char := "easyroute.toml".toList

/-! ### Settings of a document -/

/-- A field that may be left out, with what it stands for then, but not have another type. -/
def field (read : Toml.Value → Option α) (default : α) : Option Toml.Value → Option α
  | none => some default
  | some x => read x

/-- The fragment of settings that do not name one. -/
def unsetFragment : List Char := "\\d+".toList

/-- The settings of a table by their names. -/
def settingsOfEntries (entries : Toml.Entries) : Option Settings := do
  return {
    defaultFragment :=
      ← field Toml.Value.string? unsetFragment (entries.lookup "default_fragment".toList)
    anchor := ← field Toml.Value.boolean? true (entries.lookup "anchor".toList)
    terminate := ← field Toml.Value.boolean? true (entries.lookup "terminate".toList)
    appendSlash := ← field Toml.Value.boolean? true (entries.lookup "append_slash".toList) }

/-- The settings of an array by their order. -/
def settingsOfItems (items : List Toml.Value) : Option Settings := do
  return {
    defaultFragment := ← field Toml.Value.string? unsetFragment items[0]?
    anchor := ← field Toml.Value.boolean? true items[1]?
    terminate := ← field Toml.Value.boolean? true items[2]?
    appendSlash := ← field Toml.Value.boolean? true items[3]? }

def settings? : Toml.Value → Option Settings
  | .array items => settingsOfItems items
  | x => x.entries?.bind settingsOfEntries

/-- The fragments that a table adds. -/
def patterns? (x : Toml.Value) : Option (List (List Char × List Char)) := do
  (← x.entries?).mapM fun (name, x) => do return (name, ← x.string?)

/-- What a document says. -/
def ofDocument? (document : Toml.Entries) : Option SettingsFile := do
  return {
    settings := ← field settings? .standard (document.lookup "expander".toList)
    patterns := ← field patterns? [] (document.lookup "patterns".toList) }

/-! ### Loading -/

def isBlank (s : List Char) : Bool := s.all Unicode.isBlank

/-- What a text says. A blank one says nothing. -/
def ofText? (s : List Char) : Option SettingsFile :=
  if isBlank s then some standard else (Toml.parse? s).bind ofDocument?

/-- What a file of a given name says. One that is missing says nothing. -/
def load (name : List Char) : FileContent → Except Error SettingsFile
  | .missing => .ok standard
  | .directory => .error (.configRead name .directory)
  | .bytes b =>
    match String.fromUTF8? b with
    | none => .error (.configRead name .notText)
    | some text =>
      match ofText? text.toList with
      | none => .error (.configParse name)
      | some file => .ok file

/-- The expander that a file describes. -/
def expander (file : SettingsFile) : Expander :=
  ⟨FragmentTable.standard.extend file.patterns, file.settings⟩

end SettingsFile

end RouteTemplate
