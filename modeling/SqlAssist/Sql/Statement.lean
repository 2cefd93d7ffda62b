import SqlAssist.Sql.Lexicon

/-!
# Literals, comments and statements

A literal starts at a single or double quote and ends at the next quote of the same kind; two such
quotes in a row stand for one inside the literal. A literal that is never closed runs to the end of
the text.

Comments are blanked, so that nothing in them reaches the analysis. The cursor is inside a comment
when the text before it ends in a line comment whose line goes on, or when it holds a block comment
opener that is never closed.

A buffer holds statements that end at semicolons outside literals. The statement at the cursor
reaches from the last semicolon before the cursor to the first one after it.
-/

namespace SqlAssist

/-! ### String literals -/

namespace Literal

/-- A quote that opens a literal. -/
def isQuote (c : Char) : Bool :=
  c = '\'' || c = '"'

/-- The text with the contents of its literals replaced by spaces, read with the given quote open.
The quotes that open and close a literal stay. -/
def blankFrom : Option Char → Text → Text
  | _, [] => []
  | none, c :: r => c :: blankFrom (if isQuote c then some c else none) r
  | some q, [c] => [if c = q then c else ' ']
  | some q, c :: d :: r =>
    if c = q then
      if d = q then ' ' :: ' ' :: blankFrom (some q) r else c :: blankFrom none (d :: r)
    else ' ' :: blankFrom (some q) (d :: r)

/-- The quote that is open at the end of the text, if any, when the given one is open at its start.
-/
def openQuoteFrom : Option Char → Text → Option Char
  | o, [] => o
  | none, c :: r => openQuoteFrom (if isQuote c then some c else none) r
  | some q, [c] => if c = q then none else some q
  | some q, c :: d :: r =>
    if c = q then
      if d = q then openQuoteFrom (some q) r else openQuoteFrom none (d :: r)
    else openQuoteFrom (some q) (d :: r)

/-- The text with the contents of its literals replaced by spaces. -/
def blank (t : Text) : Text :=
  blankFrom none t

/-- The end of the text lies inside a literal. -/
def isOpen (t : Text) : Bool :=
  (openQuoteFrom none t).isSome

end Literal

/-! ### Comments -/

namespace Comment

open Lexicon

/-- The text holds something that can open a comment. -/
def hasMarker (t : Text) : Bool :=
  Text.hasInfix "--".toList t || Text.hasInfix "/*".toList t || t.contains '#'

/-- The text with its comments blanked. -/
def mask (t : Text) : Text :=
  if hasMarker t then
    List.zipWith (fun kind c => if kind = .code then c else Text.blankChar c) (kinds t) t
  else t

/-- The end of the text lies inside a comment. -/
def isOpen (t : Text) : Bool :=
  if hasMarker t then
    if (kinds t).getLast? = some .lineComment then !t.getLast?.any Text.isLineBreak
    else Text.hasInfix "/*".toList (Literal.blank (mask t))
  else false

end Comment

/-! ### Statements -/

namespace Statement

/-- The part of the cursor's statement that stands before the cursor. -/
def beforeCursor (t : Text) : Text :=
  t.drop (Text.lastOffset ';' (Literal.blank t))

/-- The part of the cursor's statement that stands after the cursor. -/
def afterCursor (t : Text) : Text :=
  t.take (Text.firstOffset ';' (Literal.blank t))

end Statement

end SqlAssist
