import SqlAssist.Completion.Suggestion
import SqlAssist.Sql.Resolution

/-!
# Dotted paths

A path such as `schema.`, `alias.` or `schema.table.` before the cursor asks for what the name
before its last dot holds. Schemas come before aliases, and aliases before tables of the catalog.
-/

namespace SqlAssist

/-- What a dotted path before the cursor asks for. -/
inductive DotPath where
  /-- The tables of a schema. -/
  | tablesOf (schema : Text)
  /-- The columns behind an alias. -/
  | columnsOfAlias (aliasName : Text) (ref : TableRef)
  /-- The columns of a table of the catalog. -/
  | columnsOfTable (entry : TableEntry)
  /-- The columns behind an alias or a table, asked for by a path of two names and a dot. -/
  | columnsOfPath (ref : TableRef)
  /-- The columns of a table named with its schema, the column being typed. -/
  | columnsIn (schema table : Text)
  deriving DecidableEq, Repr

namespace DotPath

/-- What one name and a dot ask for. -/
def ofName? (i : CatalogIndex) (r : Resolution) (name : Text) : Option DotPath :=
  if (i.findSchema name).isSome then some (.tablesOf name)
  else match r.lookup name with
    | some ref => some (.columnsOfAlias name ref)
    | none => (i.findTable name).map .columnsOfTable

/-- What two names and a dot ask for. -/
def ofNames? (i : CatalogIndex) (r : Resolution) (first second : Text) : Option DotPath :=
  match r.lookup first with
  | some ref => some (.columnsOfPath ref)
  | none =>
    if (i.findTable second (some first)).isSome then
      some (.columnsOfPath { table := second, schema := some first })
    else none

/-- What the path at the end of the text asks for, if it ends in one and the catalog or the tables
of the statement know it. -/
def detect? (t : Text) (i : CatalogIndex) (r : Resolution) : Option DotPath :=
  let parts := t.lastPath.split '.'
  let names := parts.dropLast
  if names.any (·.isEmpty) then none
  else match names with
    | [] => none
    | [name] => ofName? i r name
    | [first, second] =>
      if parts.getLast? = some [] then ofNames? i r first second else some (.columnsIn first second)
    | first :: second :: _ => some (.columnsIn first second)

/-- The candidates that the path asks for. -/
def candidates (i : CatalogIndex) : DotPath → List Candidate
  | tablesOf schema => Suggestion.schemaTables i schema
  | columnsOfAlias _ ref => Suggestion.columnsOf i ref
  | columnsOfTable entry => Suggestion.columnsOf i entry.ref
  | columnsOfPath ref => Suggestion.columnsOf i ref
  | columnsIn schema table => Suggestion.columnsOf i { table, schema := some schema }

end DotPath

end SqlAssist
