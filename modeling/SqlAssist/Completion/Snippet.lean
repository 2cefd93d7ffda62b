import SqlAssist.Catalog.Index
import SqlAssist.Completion.Candidate

/-!
# Snippets

A snippet is put together from plain texts and tab stops; the stops are numbered from one and know
where their default text stands. Two kinds are on offer: assignments behind `UPDATE … SET` and
column lists behind `INSERT INTO … (`.
-/

namespace SqlAssist

/-- A piece of a snippet. -/
inductive Piece where
  /-- A plain text. -/
  | text (t : Text)
  /-- A tab stop with its default text. -/
  | stop (defaultText : Text)
  deriving DecidableEq, Repr

namespace Piece

/-- What the piece adds to the inserted text. -/
def inserted : Piece → Text
  | text t => t
  | stop d => d

/-- The tab stops of pieces whose first stop has the number `index` and which start at `offset`. -/
def stopsFrom (index offset : Nat) : List Piece → List TabStop
  | [] => []
  | text t :: ps => stopsFrom index (offset + t.length) ps
  | stop d :: ps => ⟨index, d, offset⟩ :: stopsFrom (index + 1) (offset + d.length) ps

/-- The snippet made of the pieces. -/
def build (pieces : List Piece) (label : Text) (detail : Option Text := none) : Candidate where
  label := label
  insertText := pieces.flatMap inserted
  kind := .snippet
  detail := detail
  isSnippet := true
  stops := stopsFrom 1 0 pieces

end Piece

namespace Snippet

/-- The greatest number of columns in one snippet. -/
def maxColumns : Nat := 25

/-- The default text of a stop for a value. -/
def value : Piece :=
  .stop "value".toList

/-- The pieces of `column = value` for one column. -/
def assignment (column : Text) : List Piece :=
  [.text (column ++ " = ".toList), value]

/-- The groups of pieces with a text between them. -/
def separate (sep : Text) : List (List Piece) → List Piece
  | [] => []
  | [g] => g
  | g :: gs => g ++ .text sep :: separate sep gs

/-- All columns, or as many as a snippet may hold. -/
def capped (columns : List Text) : List Text :=
  columns.take maxColumns

/-- There are more columns than a snippet may hold. -/
def isCapped (columns : List Text) : Bool :=
  columns.length > maxColumns

/-- The assignments of all columns, one a line. -/
def assignments (columns : List Text) : List Piece :=
  .text "  ".toList :: separate ",\n  ".toList ((capped columns).map assignment)
    ++ (if isCapped columns then [.text ",\n  -- ...".toList] else [])

/-- The snippets behind `SET`: one for all columns of the table, then one for each. -/
def ofUpdate (i : CatalogIndex) (target : TableRef) : List Candidate :=
  let columns := i.columnsFor target
  if columns.isEmpty then []
  else
    Piece.build (assignments columns) "SET all columns (snippet)".toList
        (some (target.qualifiedName ++ " - generates assignments".toList))
      :: columns.map fun c =>
        Piece.build (assignment c) (c ++ " = (snippet)".toList) (some ("Assign ".toList ++ c))

/-- The columns of a list, with a mark where there are more. -/
def columnList (columns : List Text) : Text :=
  Text.join ", ".toList (capped columns) ++ (if isCapped columns then ", /*...*/".toList else [])

/-- The columns and a value for each of them. -/
def columnsAndValues (columns : List Text) : List Piece :=
  .text (columnList columns ++ ") VALUES (".toList)
    :: separate ", ".toList ((capped columns).map fun _ => [value]) ++ [.text ")".toList]

/-- What is on offer in the column list of an insertion: each column, then the whole list, then the
list with its values. -/
def ofInsert (i : CatalogIndex) (target : TableRef) (closeList : Bool := true)
    (withValues : Bool := true) : List Candidate :=
  let columns := i.columnsFor target
  if columns.isEmpty then []
  else
    (columns.map fun c =>
      { label := c, insertText := c, kind := .field,
        detail := some (target.qualifiedName ++ '.' :: c) })
    ++ [Piece.build [.text (columnList columns ++ if closeList then ")".toList else [])]
        "Columns list (auto-close )".toList
        (some (target.qualifiedName ++ " - column list".toList))]
    ++ (if withValues then
          [Piece.build (columnsAndValues columns) "Columns + VALUES (snippet)".toList
            (some "Generates VALUES placeholders".toList)]
        else [])

end Snippet

end SqlAssist
