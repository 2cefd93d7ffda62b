import SqlAssist.Catalog.Schema
import SqlAssist.Sql.TableRef
import SqlAssist.Text.Space

/-!
# The catalog index

The index finds schemas, tables and variables by name, whatever the case. Tables are found by their
own name and with their schema in front; of several under one name the last in the catalog counts.
-/

namespace SqlAssist

/-- A table together with the name of its schema. -/
structure TableEntry where
  /-- The name of the schema. -/
  schema : Text
  /-- The table. -/
  table : Table
  deriving DecidableEq, Repr

namespace TableEntry

/-- The name of the table within its schema. -/
def qualifiedName (e : TableEntry) : Text :=
  e.schema ++ '.' :: e.table.name

/-- The reference that names the table with its schema. -/
def ref (e : TableEntry) : TableRef :=
  { table := e.table.name, schema := some e.schema }

end TableEntry

/-- What is looked up in a catalog. -/
structure CatalogIndex where
  /-- The schemas, in the order of the catalog. -/
  schemas : List Schema := []
  /-- Each schema under its name in capitals. -/
  schemaByName : OrderedMap Text Schema := []
  /-- Each table under its own name and under its qualified name, both in capitals. -/
  tableByKey : OrderedMap Text TableEntry := []
  /-- The keys of each variable scope, sorted and without repetition. -/
  keysByScope : OrderedMap Text (List Text) := []
  deriving DecidableEq, Repr

namespace CatalogIndex

/-- All tables of the schemas with their schemas' names, in order. -/
def entries (schemas : List Schema) : List TableEntry :=
  schemas.flatMap fun s => s.tables.map fun t => ⟨s.name, t⟩

/-- The texts in the order of their characters' code points, each once. -/
def sortedOnce (l : List Text) : List Text :=
  l.eraseDups.mergeSort Text.notAfter

/-- The scopes and keys of the variables, without white space around them; a variable whose scope or
key is blank is left out. -/
def namedVariables (vars : List Variable) : List (Text × Text) :=
  (vars.map fun v => (v.scope.trim, v.key.trim)).filter fun p => !p.1.isEmpty && !p.2.isEmpty

/-- The keys of each scope, in the order of the scopes' first variables. -/
def scopes (vars : List Variable) : OrderedMap Text (List Text) :=
  let named := namedVariables vars
  (named.map (·.1)).eraseDups.map fun scope =>
    (scope, sortedOnce ((named.filter (·.1 = scope)).map (·.2)))

/-- The index of the schemas and variables of a catalog. -/
def build (schemas : List Schema) (vars : List Variable) : CatalogIndex where
  schemas := schemas
  schemaByName := OrderedMap.ofList (schemas.map fun s => (s.name.upper, s))
  tableByKey := OrderedMap.ofList ((entries schemas).flatMap fun e =>
    [(e.qualifiedName.upper, e), (e.table.name.upper, e)])
  keysByScope := scopes vars

/-- The schema of a name. -/
def findSchema (i : CatalogIndex) (name : Text) : Option Schema :=
  i.schemaByName.get? name.upper

/-- The table of a name, within a schema if one is given. -/
def findTable (i : CatalogIndex) (table : Text) (schema : Option Text := none) :
    Option TableEntry :=
  i.tableByKey.get? (TableRef.qualify schema table).upper

/-- The columns of a table that a statement refers to; none if the catalog does not know it, and
none of a subquery. -/
def columnsFor (i : CatalogIndex) (r : TableRef) : List Text :=
  if r.derived then []
  else match i.tableByKey.get? r.lookupKey with
    | some e => e.table.columns
    | none => []

/-- The scopes of the variables, sorted. -/
def scopeNames (i : CatalogIndex) : List Text :=
  i.keysByScope.keys.mergeSort Text.notAfter

/-- The keys of a scope: of that very name, else of the first one that differs in case only. -/
def keysForScope (i : CatalogIndex) (scope : Text) : List Text :=
  match i.keysByScope.get? scope with
  | some keys => keys
  | none =>
    match i.keysByScope.find? fun p => p.1.upper = scope.upper with
    | some p => p.2
    | none => []

end CatalogIndex

end SqlAssist
