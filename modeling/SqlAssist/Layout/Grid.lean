import SqlAssist.Layout.Printed
import SqlAssist.Text.Basic

/-!
# Grids

A grid of cells is printed without lines around its cells. Every column is as wide as its widest
cell, with a space on either side; a cell with line breaks makes its row several lines high. Where
the columns do not fit the page, the widest of them are narrowed, and their cells are wrapped.
-/

namespace SqlAssist.Layout

/-- The side of a column that its cells stand at. -/
inductive Side where
  /-- The left side. -/
  | left
  /-- The right side. -/
  | right
  deriving DecidableEq, Repr

/-- A grid: the side of each column and the rows, a header among them. -/
structure Grid where
  /-- The sides that cells stand at. -/
  sides : List Side
  /-- The rows of cells. -/
  rows : List (List Text)
  deriving DecidableEq, Repr

/-- The quotient rounded to the nearest number, a half to the even one. -/
def roundedQuotient (n d : Nat) : Nat :=
  let q := n / d
  if d < 2 * (n % d) ∨ d = 2 * (n % d) ∧ q % 2 = 1 then q + 1 else q

namespace Grid

/-- The columns of space beside a cell. -/
def margin : Nat := 2

/-- The width that a cell asks for. What ends a line of a document ends a line here. -/
def wantedWidth (cell : Text) : Nat :=
  let lines := Text.lines (cell.filter (!isUnprinted ·))
  min pageWidth ((lines.map Text.width).foldl max 0 + margin)

/-- The widths that columns ask for: of each the greatest width of a cell in it. -/
def wantedWidths (columns : Nat) (rows : List (List Text)) : List Nat :=
  (List.range columns).map fun k =>
    (rows.map fun row => wantedWidth (row.getD k [])).foldl max 0

/-- The widths with `excess` taken evenly from the `left` columns that are `widest`, from each at
most `limit`. -/
def takeExcess (widest limit left excess : Nat) : List Nat → List Nat
  | [] => []
  | w :: ws =>
    if w = widest then
      let share := min limit (roundedQuotient excess left)
      (w - share) :: takeExcess widest limit (left - 1) (excess - share) ws
    else w :: takeExcess widest limit left excess ws

/-- The widths narrowed to a page in at most `rounds` rounds. Each takes from the widest columns,
down to the width of the next. -/
def narrow (page : Nat) : (rounds : Nat) → List Nat → List Nat
  | 0, ws => ws
  | rounds + 1, ws =>
    let excess := ws.sum - page
    if excess = 0 then ws
    else
      let widest := ws.foldl max 0
      let next := (ws.filter (· ≠ widest)).foldl max 0
      narrow page rounds
        (takeExcess widest (min excess (widest - next)) (ws.count widest) excess ws)

/-- The widths of the columns. There are as many rounds as columns: each round but the last makes
the widest columns as wide as the next. -/
def widths (columns : Nat) (rows : List (List Text)) : List Nat :=
  narrow pageWidth columns (wantedWidths columns rows)

/-- A line with spaces behind it up to a width. -/
def padEnd (width : Nat) (line : Text) : Text :=
  line ++ List.replicate (width - line.width) ' '

/-- A line filled up with spaces to a width. A joiner at its end swallows the first space behind it,
and one more makes up for it. -/
def pad (side : Side) (width : Nat) (line : Text) : Text :=
  match side with
  | .left => padEnd width (padEnd width line)
  | .right => List.replicate (width - line.width) ' ' ++ line

/-- One line of a row: the line of each of its cells. -/
def rowLine (sides : List Side) (widths : List Nat) (row : List (List Text)) (k : Nat) : Text :=
  ((sides.zip widths).zip row).flatMap fun c =>
    ' ' :: pad c.1.1 (c.1.2 - margin) (c.2.getD k []) ++ [' ']

/-- The lines of a row. -/
def rowLines (sides : List Side) (widths : List Nat) (row : List Text) : List Text :=
  let cells := (widths.zip row).map fun c => printedWithin (c.1 - margin) .cut c.2
  (List.range ((cells.map List.length).foldl max 0)).map (rowLine sides widths cells)

/-- The lines of a grid. -/
def lines (g : Grid) : List Text :=
  g.rows.flatMap (rowLines g.sides (widths g.sides.length g.rows))

end Grid

end SqlAssist.Layout
