import SqlAssist.Sql.Level
import SqlAssist.Text.CaseMap

/-!
# Clauses

The clause at the cursor is the last clause keyword of its level. `ON` counts only after a `JOIN`
and `SET` only after an `UPDATE`; elsewhere they introduce no clause. A level that opens right after
`INSERT INTO` and a name is that statement's column list.
-/

namespace SqlAssist

/-- The clause that the cursor is in. -/
inductive Clause where
  /-- No clause. -/
  | absent
  /-- Behind `SELECT`. -/
  | select
  /-- Behind `FROM`. -/
  | fromTables
  /-- Behind `JOIN`. -/
  | join
  /-- Behind the `ON` of a join. -/
  | on
  /-- Behind `WHERE`. -/
  | whereCondition
  /-- Behind `UPDATE`. -/
  | update
  /-- Behind the `SET` of an update. -/
  | set
  /-- Behind `DELETE`. -/
  | delete
  /-- Behind `INSERT`. -/
  | insert
  /-- Behind `INTO`. -/
  | into
  /-- Behind `VALUES`. -/
  | values
  /-- Behind `GROUP BY`. -/
  | group
  /-- Behind `ORDER BY`. -/
  | order
  /-- Behind `HAVING`. -/
  | having
  /-- In the column list of an `INSERT INTO`. -/
  | insertColumns
  deriving DecidableEq, Repr

namespace Clause

/-- The name of the clause. -/
def name : Clause → String
  | absent => "NONE"
  | select => "SELECT"
  | fromTables => "FROM"
  | join => "JOIN"
  | on => "ON"
  | whereCondition => "WHERE"
  | update => "UPDATE"
  | set => "SET"
  | delete => "DELETE"
  | insert => "INSERT"
  | into => "INTO"
  | values => "VALUES"
  | group => "GROUP"
  | order => "ORDER"
  | having => "HAVING"
  | insertColumns => "INSERT_COLS"

/-- The clauses that one word introduces. -/
def ofWords : List Clause :=
  [select, fromTables, join, on, whereCondition, having, update, set, delete, insert, into, values]

/-- The clauses that a word followed by a space and `BY` introduces. -/
def ofByWords : List Clause :=
  [group, order]

/-- The clause whose keyword stands at the start of a text in capitals with single spaces. -/
def ofKeyword? (t : Text) : Option Clause :=
  let word := t.firstWord
  match ofWords.find? (·.name.toList == word) with
  | some c => some c
  | none =>
    match t.afterWord with
    | ' ' :: r =>
      if Text.firstWord r = "BY".toList then ofByWords.find? (·.name.toList == word) else none
    | _ => none

/-- Adds a keyword to those admitted so far, unless it introduces nothing there. -/
def addTo (seen : List Clause) (c : Clause) : List Clause :=
  if (c = on ∧ join ∉ seen) ∨ (c = set ∧ update ∉ seen) then seen else seen ++ [c]

/-- The keywords of a text in capitals with single spaces that introduce a clause, in order. -/
def keywords (tail : Text) : List Clause :=
  (tail.wordStarts.filterMap ofKeyword?).foldl addTo []

/-- A text in capitals, with single spaces between its words and none around it. -/
def normalize (t : Text) : Text :=
  Text.upper (Text.trim t.collapseSpace)

/-- The clause that the last keyword of a level's text introduces. -/
def classify (t : Text) : Clause :=
  ((keywords (normalize t)).getLast?).getD absent

/-- The words before the target of an insertion. -/
def insertWords : List Text :=
  ["INSERT".toList, "INTO".toList]

/-- The text is one dotted name, followed by nothing but white space. -/
def isTargetOnly (t : Text) : Bool :=
  !(t.takeWhile Text.isPathChar).isEmpty && (t.dropWhile Text.isPathChar).all Text.isSpace

/-- The level is the column list of an insertion: the level around it ends in `INSERT INTO` and a
name. -/
def isColumnList (l : Level) : Bool :=
  l.parent?.any fun p => (Text.afterEachKeywords insertWords p.masked).any isTargetOnly

/-- The clause at the cursor and the level that it is read from: the one around a column list, else
the nearest one with a clause. -/
def detect (l : Level) : Clause × Level :=
  if isColumnList l then (insertColumns, l.parent?.getD l)
  else (classify l.effective.masked, l.effective)

end Clause

end SqlAssist
