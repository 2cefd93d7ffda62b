import SqlAssist.Catalog.Index
import SqlAssist.Completion.Candidate

/-!
# Suggestions

What the catalog and the lexical tables have on offer, in their order.
-/

namespace SqlAssist.Suggestion

/-- A candidate that inserts its own label. -/
def plain (kind : Kind) (label : Text) (detail : Option Text := none) : Candidate where
  label := label
  insertText := label
  kind := kind
  detail := detail

/-- A number of things. -/
def counted (n : Nat) (things : String) : Text :=
  Text.ofNat n ++ ' ' :: things.toList

/-- A table under the given name. -/
def table (name : Text) (t : Table) : Candidate :=
  plain .table name (some (counted t.columns.length "columns"))

/-- All schemas. -/
def schemas (i : CatalogIndex) : List Candidate :=
  i.schemas.map fun s => plain .schema s.name (some (counted s.tables.length "tables"))

/-- All tables with their schemas. -/
def tables (i : CatalogIndex) : List Candidate :=
  (CatalogIndex.entries i.schemas).map fun e => table e.qualifiedName e.table

/-- The tables of one schema. -/
def schemaTables (i : CatalogIndex) (schema : Text) : List Candidate :=
  match i.findSchema schema with
  | some s => s.tables.map fun t => table t.name t
  | none => []

/-- The columns of one table; none of a subquery. -/
def columnsOf (i : CatalogIndex) (r : TableRef) : List Candidate :=
  match i.findTable r.table r.schema with
  | some e =>
    if r.derived then []
    else e.table.columns.map fun c => plain .field c (some (e.qualifiedName ++ '.' :: c))
  | none => []

/-- The columns of the tables, each behind the key that reaches its table and, where it has not been
`seen` yet, without it. -/
def activeFrom (i : CatalogIndex) (seen : List Text) :
    List (Text × TableRef × Text) → List Candidate
  | [] => []
  | (key, ref, column) :: rest =>
    let dotted := key ++ '.' :: column
    plain .field dotted (some (ref.qualifiedName ++ '.' :: column))
      :: if column ∈ seen then activeFrom i seen rest
        else plain .field column (some dotted) :: activeFrom i (column :: seen) rest

/-- The columns of all tables that a level refers to. -/
def activeColumns (i : CatalogIndex) (tables : OrderedMap Text TableRef) : List Candidate :=
  activeFrom i [] (tables.flatMap fun p => (i.columnsFor p.2).map fun c => (p.1, p.2, c))

/-- Keywords. -/
def keywords (words : List Text) : List Candidate :=
  words.map (plain .keyword ·)

/-- Operators. -/
def operators (words : List Text) : List Candidate :=
  words.map (plain .operator ·)

/-- Functions, inserted with an empty argument list. -/
def builtins (functions : List Builtin) : List Candidate :=
  functions.map fun f =>
    { label := f.name, insertText := f.name ++ "()".toList, kind := .function,
      detail := [f.description, f.sample].find? (!·.isEmpty) }

end SqlAssist.Suggestion
