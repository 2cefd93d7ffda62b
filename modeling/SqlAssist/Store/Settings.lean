import SqlAssist.Json.Shown
import SqlAssist.Store.JsonFile

/-!
# Settings

Settings are kept in one JSON object. What the file does not set has its default; a setting that is
null counts as not set. Setting a key keeps all others and their order.
-/

namespace SqlAssist

/-- Where the program finds its files: the directory for its own ones and the environment. -/
structure Site where
  /-- The directory of the settings and the catalog. -/
  directory : Path
  /-- The variables of the environment. -/
  environment : OrderedMap Text Text := []
  deriving DecidableEq, Repr

namespace Site

/-- The value of a variable of the environment; empty if it is not set. -/
def value (s : Site) (name : String) : Text :=
  (s.environment.get? name.toList).getD []

/-- The path that a text names, a tilde standing for the home directory. -/
def path (s : Site) (t : Text) : Report Path :=
  .ofOption .unknownHome ((Path.ofText t).expandHome? (s.value "HOME"))

/-- The variable that names another settings file. -/
def settingsVariable : String := "SQLSENSE_SETTINGS_PATH"

/-- The settings file: the one that the environment names, else the program's own. -/
def settingsPath (s : Site) : Report Path :=
  let other := (s.value settingsVariable).trim
  if other.isEmpty then .pure (s.directory.child "settings.json".toList) else s.path other

end Site

namespace Settings

/-- Settings by their keys. -/
abbrev Values := OrderedMap Text Json.Value

/-- The settings of a program that has none. -/
def defaults : Values :=
  [("database_type".toList, .string "oracle".toList), ("catalog_path".toList, .null)]

/-- The second settings put over the first ones. -/
def override (base other : Values) : Values :=
  other.foldl (fun m p => m.insert p.1 p.2) base

/-- The settings that a file holds, without defaults. -/
def stored (d : Disk) (p : Path) : Report Values := do
  let v ← JsonFile.read d p
  pure (v.members?.getD [])

/-- All settings. -/
def load (d : Disk) (p : Path) : Report Values := do
  pure (override defaults (← stored d p))

/-- A setting, or the given value where it is null or not set. -/
def get (d : Disk) (p : Path) (key : Text) (default : Json.Value) : Report Json.Value := do
  let v := ((← load d p).get? key).getD .null
  pure (if v.isNull then default else v)

/-- Saves settings in place of all earlier ones. -/
def save (d : Disk) (p : Path) (values : Values) : Disk × Report Unit :=
  match JsonFile.save none d p (.object values) with
  | (d, none) => (d, .pure ())
  | (d, some e) => (d, .fail (.file e))

/-- Sets one key. -/
def set (d : Disk) (p : Path) (key : Text) (value : Json.Value) : Disk × Report Unit :=
  let r := stored d p
  match r.result with
  | .error e => (d, ⟨r.notes, .error e⟩)
  | .ok values =>
    let (d, saved) := save d p (values.insert key value)
    (d, ⟨r.notes ++ saved.notes, saved.result⟩)

/-- The type of the database. -/
def databaseType (d : Disk) (p : Path) : Report Text := do
  let v ← get d p "database_type".toList (.string "oracle".toList)
  pure v.shown

/-- The catalog file: the one that is set, else the program's own. -/
def catalogPath (site : Site) (d : Disk) (p : Path) : Report Path := do
  let v ← get d p "catalog_path".toList .null
  if v.isGiven then site.path v.shown else pure (site.directory.child "catalog.json".toList)

end Settings

end SqlAssist
