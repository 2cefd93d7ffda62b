import SqlAssist.Text.Basic

/-!
# The contents of a catalog

A catalog lists schemas with their tables and columns, the variables of workflows and the functions
that come with a database.
-/

namespace SqlAssist

/-- A table and its columns, in order. -/
structure Table where
  /-- The name of the table. -/
  name : Text
  /-- The names of its columns. -/
  columns : List Text := []
  deriving DecidableEq, Repr

/-- A schema and its tables, in order. -/
structure Schema where
  /-- The name of the schema. -/
  name : Text
  /-- Its tables. -/
  tables : List Table := []
  deriving DecidableEq, Repr

/-- A variable of a workflow, written with its scope and its key. -/
structure Variable where
  /-- The scope that the variable belongs to. -/
  scope : Text
  /-- Its name within the scope. -/
  key : Text
  deriving DecidableEq, Repr

/-- A function that comes with a database. -/
structure Builtin where
  /-- The name of the function. -/
  name : Text
  /-- What the function does. -/
  description : Text := []
  /-- An example of its use. -/
  sample : Text := []
  deriving DecidableEq, Repr

/-- All columns of the schemas with their schema and table, in order. -/
def Schema.allColumns (schemas : List Schema) : List (Schema × Table × Text) :=
  schemas.flatMap fun s => s.tables.flatMap fun t => t.columns.map fun c => (s, t, c)

end SqlAssist
