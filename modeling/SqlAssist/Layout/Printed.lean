import SqlAssist.Layout.Wrap

/-!
# Printed text

Text from outside is printed line by line. The control characters that move the cursor of a terminal
are left out, a tab becomes the spaces up to the next tab stop, and a line that is wider than the
page is wrapped.
-/

namespace SqlAssist.Layout

/-- The number of columns of a page. -/
def pageWidth : Nat := 500

/-- A control character that is not printed: bell, backspace, vertical tab, form feed or carriage
return. -/
def isUnprinted (c : Char) : Bool :=
  c = '\x07' || c = '\x08' || c = '\x0b' || c = '\x0c' || c = '\r'

/-- The lines of a text, as far as they are printed. -/
def printedLines (t : Text) : List Text :=
  Text.split '\n' (t.filter (!isUnprinted ·))

/-- Parts of a line from a column on, a tab between them: there is a tab stop every `size` columns,
and `measure` says how many of them a text takes. -/
def joinAtStops (measure : Text → Nat) (size column : Nat) : List Text → Text
  | [] => []
  | [p] => p
  | p :: ps =>
    let p := p ++ [' ']
    let column := column + measure p
    let gap := (size - column % size) % size
    p ++ List.replicate gap ' ' ++ joinAtStops measure size (column + gap) ps

/-- A line with spaces up to the next stop in place of its tabs. -/
def expandTabs (measure : Text → Nat) (size : Nat) (line : Text) : Text :=
  joinAtStops measure size 0 (line.split '\t')

/-- The distance of the tab stops. -/
def tabSize : Nat := 8

/-- The lines of a text on a page of a width. -/
def printedWithin (width : Nat) (overlong : Overlong) (t : Text) : List Text :=
  (printedLines t).flatMap fun l =>
    wrap width overlong (expandTabs Text.width tabSize l)

/-- The lines of a text on a whole page. -/
def printed (t : Text) : List Text :=
  printedWithin pageWidth .folded t

/-- Lines put together, a line feed behind each. -/
def joinLines (ls : List Text) : Text :=
  ls.flatMap fun l => l ++ ['\n']

end SqlAssist.Layout
