import SqlAssist.Sql.Paren
import SqlAssist.Text.Word

/-!
# Levels of a statement

A level is the part of a statement between an open parenthesis and the cursor or the next open one.
A group without a clause of its own, such as `COUNT(` or `IN (`, follows the level around it.
-/

namespace SqlAssist

/-- One parenthesis level of a statement. -/
structure Level where
  /-- The statement up to the cursor, its literals blanked. -/
  statement : Text
  /-- The offsets of the open parentheses, outermost first. -/
  opens : List Nat
  /-- The number of parentheses around the level. -/
  depth : Nat
  deriving DecidableEq, Repr

namespace Level

/-- The level of the cursor. -/
def atCursor (statement : Text) : Level :=
  let opens := Paren.enclosing statement
  ⟨statement, opens, opens.length⟩

/-- The offset of the first character of the level. -/
def start (l : Level) : Nat :=
  match l.depth with
  | 0 => 0
  | d + 1 => l.opens.getD d 0 + 1

/-- The offset just past the last character of the level. -/
def stop (l : Level) : Nat :=
  l.opens.getD l.depth l.statement.length

/-- The text of the level. -/
def text (l : Level) : Text :=
  l.statement.slice l.start l.stop

/-- The text of the level with its closed groups blanked. -/
def masked (l : Level) : Text :=
  Paren.maskGroups l.text

/-- The level around this one, which ends just before the parenthesis that opens this one. -/
def parent? (l : Level) : Option Level :=
  match l.depth with
  | 0 => none
  | d + 1 => some { l with depth := d }

/-- The words that open a clause. -/
def clauseWords : List Text :=
  ["SELECT", "FROM", "JOIN", "WHERE", "UPDATE", "SET", "DELETE", "INSERT", "INTO", "VALUES",
    "HAVING"].map String.toList

/-- A clause keyword stands at the start of the text: one of the single words, or `GROUP BY` or
`ORDER BY`. -/
def startsClause (t : Text) : Bool :=
  clauseWords.any (Text.isKeyword · t.firstWord) ||
    [["GROUP".toList], ["ORDER".toList]].any fun ks =>
      (Text.afterKeywords? ks t).any fun r => Text.isKeyword "BY".toList (Text.firstWord r)

/-- The level holds a clause keyword outside its closed groups. -/
def hasClause (l : Level) : Bool :=
  l.masked.wordStarts.any startsClause

/-- The nearest level with a clause, from the given depth outwards; the outermost one if none has.
-/
def effectiveFrom (statement : Text) (opens : List Nat) : Nat → Level
  | 0 => ⟨statement, opens, 0⟩
  | d + 1 =>
    let l : Level := ⟨statement, opens, d + 1⟩
    if l.hasClause then l else effectiveFrom statement opens d

/-- The nearest level with a clause, from this one outwards; the outermost one if none has. -/
def effective (l : Level) : Level :=
  effectiveFrom l.statement l.opens l.depth

/-- The whole text of the level: what stands before the cursor and, from the text behind it, all up
to the parenthesis that closes the level. Closed groups are blanked. -/
def extended (l : Level) (continuation : Text) : Text :=
  Paren.maskGroups
    (l.statement.drop l.start ++ Paren.untilClosed (l.opens.length - l.depth) continuation)

end Level

end SqlAssist
