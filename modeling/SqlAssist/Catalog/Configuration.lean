import SqlAssist.Catalog.Defaults
import SqlAssist.Text.CaseMap
import SqlAssist.Text.Space

/-!
# Configurations

A configuration is what completion works with: a catalog, the lexical tables and the type of the
database, which selects the functions on offer. Database types are compared without case and without
white space around them.
-/

namespace SqlAssist

/-- A catalog with its lexical tables. -/
structure Configuration where
  /-- The type of the database. -/
  databaseType : Text := "oracle".toList
  /-- The schemas. -/
  schemas : List Schema := []
  /-- The functions of each type of database. -/
  builtinsByType : OrderedMap Text (List Builtin) := Defaults.builtins
  /-- The keywords on offer. -/
  keywords : List Text := Defaults.keywords
  /-- The operators on offer. -/
  operators : List Text := Defaults.operators
  /-- The workflow variables. -/
  workflowVariables : List Variable := []
  deriving DecidableEq, Repr

namespace Configuration

/-- The common spelling of a database type. -/
def normalizeType (t : Text) : Text :=
  t.trim.lower

/-- The functions of the configured database: those of the first type that is spelt alike. -/
def builtins (c : Configuration) : List Builtin :=
  match c.builtinsByType.find? fun p => normalizeType p.1 = normalizeType c.databaseType with
  | some p => p.2
  | none => []

/-- The editor language of a database type. -/
def languageFor (databaseType : Text) : Text :=
  (Defaults.languages.lookup (normalizeType databaseType)).getD Defaults.language

end Configuration

end SqlAssist
