import SqlAssist.Text.CaseMap
import SqlAssist.Text.OrderedMap

/-!
# Table references

A statement refers to a table by its name, with or without a schema, or to the result of a subquery
by its alias.
-/

namespace SqlAssist

/-- A table that a statement refers to. -/
structure TableRef where
  /-- The name of the table, or the alias of a subquery. -/
  table : Text
  /-- The name of its schema, if given. -/
  schema : Option Text := none
  /-- It stands for the result of a subquery. -/
  derived : Bool := false
  deriving DecidableEq, Repr

namespace TableRef

/-- A name within a schema; an empty schema name counts as none. -/
def qualify (schema : Option Text) (table : Text) : Text :=
  match schema with
  | none | some [] => table
  | some s => s ++ '.' :: table

/-- The name with its schema, if given. -/
def qualifiedName (r : TableRef) : Text :=
  qualify r.schema r.table

/-- The key under which a catalog knows the table. -/
def lookupKey (r : TableRef) : Text :=
  r.qualifiedName.upper

/-- Reads a dotted name: its last two parts are schema and table. Empty parts do not count. -/
def ofName (name : Text) : TableRef :=
  match ((name.split '.').filter (!·.isEmpty)).reverse with
  | table :: schema :: _ => { table, schema := some schema }
  | [table] => { table }
  | [] => { table := name }

end TableRef

end SqlAssist
