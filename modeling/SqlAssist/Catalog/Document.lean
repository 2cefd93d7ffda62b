import SqlAssist.Catalog.Configuration
import SqlAssist.Json.Shown

/-!
# Catalog documents

A configuration is stored as a JSON object. Reading is lenient: what does not fit is left out, and
each part that is missing takes its default. A strict reader refuses a document with a structural
defect, such as a schema without a name, and names the first one.
-/

namespace SqlAssist

open Json

/-- What a strict reader refuses in a catalog document. -/
inductive Defect where
  /-- The document is no object. -/
  | notAnObject
  /-- The schemas are no list. -/
  | schemasNotAList
  /-- A schema has no name. -/
  | namelessSchema (entry : Value)
  /-- A table of the schema has no name. -/
  | namelessTable (schema : Text)
  /-- The functions are not grouped by database type. -/
  | builtinsNotAnObject

namespace Defect

/-- The words for a defect. -/
def message : Defect → Text
  | notAnObject => "catalog must be a JSON object".toList
  | schemasNotAList => "'schemas' must be a list".toList
  | namelessSchema entry => "schema entry without a name: ".toList ++ entry.quoted
  | namelessTable schema => "table without a name in schema ".toList ++ schema.quoted
  | builtinsNotAnObject => "'builtins' must be an object keyed by database type".toList

end Defect

namespace Document

/-- The member of an object under the first of the names that it has; null if it has none. -/
def first (members : List (Text × Value)) : List String → Value
  | [] => .null
  | name :: names => (OrderedMap.get? members name.toList).getD (first members names)

/-- The members of an object; none of any other value. -/
def membersOf (v : Value) : List (Text × Value) :=
  v.members?.getD []

/-- The items of an array; none of any other value. -/
def itemsOf (v : Value) : List Value :=
  v.items?.getD []

/-- The non-empty strings of an array. -/
def strings (v : Value) : List Text :=
  (itemsOf v).filterMap fun item => item.string?.filter (!·.isEmpty)

/-- The name of an entry that has one, as it is written. -/
def name? (entry : Value) : Option Text :=
  (first (membersOf entry) ["name"]).string?.filter fun n => !n.trim.isEmpty

/-- The table of an entry that has a name. -/
def table? (entry : Value) : Option Table :=
  (name? entry).map fun n => ⟨n.trim, strings (first (membersOf entry) ["columns"])⟩

/-- The schema of an entry that has a name. -/
def schema? (entry : Value) : Option Schema :=
  (name? entry).map fun n =>
    ⟨n.trim, (itemsOf (first (membersOf entry) ["tables"])).filterMap table?⟩

/-- The function of an entry whose name is given. -/
def builtin? (entry : Value) : Option Builtin :=
  let ms := membersOf entry
  let text (v : Value) (given : Bool) : Text := if given then v.shown else []
  let has (name : String) : Bool := (OrderedMap.get? ms name.toList).isSome
  let name := first ms ["name"]
  if name.isGiven then
    some ⟨name.shown, text (first ms ["description"]) (has "description"),
      text (first ms ["sample", "sampleUsage"]) (has "sample" || has "sampleUsage")⟩
  else none

/-- The functions of each database type. -/
def builtins (v : Value) : OrderedMap Text (List Builtin) :=
  (membersOf v).map fun m => (m.1, (itemsOf m.2).filterMap builtin?)

/-- The variable of an entry whose scope and key are strings. -/
def variableOf? (entry : Value) : Option Variable :=
  let ms := membersOf entry
  match first ms ["scope"], first ms ["variableKey", "variable_key", "key"] with
  | .string scope, .string key => some ⟨scope, key⟩
  | _, _ => none

/-- The schemas of a document. -/
def schemasIn (members : List (Text × Value)) : Value :=
  first members ["schemas", "metadata"]

/-- The functions of a document. -/
def builtinsIn (members : List (Text × Value)) : Value :=
  first members ["builtins", "dbBuiltins", "builtins_by_database_type"]

/-- A part of a document, or its default where the document has null or nothing. -/
def orDefault {α : Type} (v : Value) (default : α) (f : Value → α) : α :=
  if v.isNull then default else f v

/-- Reads a document; what does not fit is left out. -/
def read (defaultType : Text) : Value → Configuration
  | .object ms =>
    let databaseType := first ms ["databaseType", "database_type", "dbType"]
    { databaseType := if databaseType.isGiven then databaseType.shown else defaultType
      schemas := (itemsOf (schemasIn ms)).filterMap schema?
      builtinsByType := orDefault (builtinsIn ms) Defaults.builtins builtins
      keywords := orDefault (first ms ["keywords", "sqlKeywords"]) Defaults.keywords strings
      operators := orDefault (first ms ["operators", "sqlOperators"]) Defaults.operators strings
      workflowVariables :=
        (itemsOf (first ms ["workflowVariables", "workflow_variables", "workflowVars"])).filterMap
          variableOf? }
  | _ => { databaseType := defaultType }

/-- The first defect among the tables of a schema. -/
def tableDefect? (schema : Text) (v : Value) : Option Defect :=
  if (itemsOf v).all fun entry => (name? entry).isSome then none else some (.namelessTable schema)

/-- The defect of a schema's entry. -/
def schemaDefect? (entry : Value) : Option Defect :=
  match name? entry with
  | some n => tableDefect? n (first (membersOf entry) ["tables"])
  | none => some (.namelessSchema entry)

/-- The first defect of a document. The schemas are looked at before the functions. -/
def defect? : Value → Option Defect
  | .object ms =>
    let schemas := match schemasIn ms with
      | .null => none
      | .array entries => entries.findSome? schemaDefect?
      | _ => some .schemasNotAList
    let builtins := match builtinsIn ms with
      | .null | .object _ => none
      | _ => some .builtinsNotAnObject
    schemas.or builtins
  | _ => some .notAnObject

/-- Reads a document without defects. -/
def readStrict (defaultType : Text) (v : Value) : Except Defect Configuration :=
  match defect? v with
  | some d => .error d
  | none => .ok (read defaultType v)

/-- An object with the given members. -/
def object (members : List (String × Value)) : Value :=
  .object (members.map fun m => (m.1.toList, m.2))

/-- A list of strings. -/
def texts (l : List Text) : Value :=
  .array (l.map .string)

/-- Writes a table. -/
def ofTable (t : Table) : Value :=
  object [("name", .string t.name), ("columns", texts t.columns)]

/-- Writes a schema. -/
def ofSchema (s : Schema) : Value :=
  object [("name", .string s.name), ("tables", .array (s.tables.map ofTable))]

/-- Writes a function. -/
def ofBuiltin (b : Builtin) : Value :=
  object
    [("name", .string b.name), ("description", .string b.description),
      ("sample", .string b.sample)]

/-- Writes a variable. -/
def ofVariable (v : Variable) : Value :=
  object [("scope", .string v.scope), ("variableKey", .string v.key)]

/-- Writes a configuration, with all its tables spelt out. -/
def write (c : Configuration) : Value :=
  object
    [("databaseType", .string c.databaseType),
      ("schemas", .array (c.schemas.map ofSchema)),
      ("builtins", .object (c.builtinsByType.map fun p => (p.1, .array (p.2.map ofBuiltin)))),
      ("keywords", texts c.keywords),
      ("operators", texts c.operators),
      ("workflowVariables", .array (c.workflowVariables.map ofVariable))]

end Document

end SqlAssist
