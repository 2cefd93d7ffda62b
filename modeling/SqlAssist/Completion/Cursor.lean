import SqlAssist.Sql.Clause
import SqlAssist.Sql.Resolution
import SqlAssist.Sql.Statement

/-!
# The cursor's place in its statement

From the text before the cursor follow its statement, its level and its clause; the text behind it
adds the tables that are named later. Inside a literal or a comment there is nothing to find.
-/

namespace SqlAssist

/-- Where the cursor stands in its statement. -/
structure CursorPlace where
  /-- The statement up to the cursor, its comments blanked. -/
  statement : Text
  /-- The cursor's level. -/
  level : Level
  /-- The clause that the cursor is in. -/
  clause : Clause
  /-- The level that the clause is read from. -/
  clauseLevel : Level
  /-- The tables that this level refers to. -/
  resolution : Resolution
  deriving DecidableEq, Repr

namespace CursorPlace

/-- The rest of the cursor's statement, its comments and literals blanked. -/
def continuation (after : Text) : Text :=
  Literal.blank (Statement.afterCursor (Comment.mask after))

/-- The place between two texts, unless it is inside a literal or a comment. -/
def find? (before after : Text) : Option CursorPlace :=
  let statement := Statement.beforeCursor (Comment.mask before)
  if Literal.isOpen statement || Comment.isOpen before then none
  else
    let level := Level.atCursor (Literal.blank statement)
    let (clause, clauseLevel) := Clause.detect level
    some
      { statement, level, clause, clauseLevel
        resolution :=
          Resolution.ofText (Text.upper (clauseLevel.extended (continuation after))) }

end CursorPlace

end SqlAssist
