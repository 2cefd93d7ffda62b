import SqlAssist.Text.Space
import SqlAssist.Text.Width

/-!
# Wrapping

A line that is too wide is broken in front of words. A word stands with the space behind it, and
space that does not fit at the end of a line is dropped. A word that is wider than a whole line is
folded or cut.
-/

namespace SqlAssist.Layout

/-- What becomes of a word that is wider than a line. -/
inductive Overlong where
  /-- It goes on in the lines below. -/
  | folded
  /-- It is cut, and an ellipsis stands for the rest. -/
  | cut
  deriving DecidableEq, Repr

/-- The rest of a word and the words behind it; `inSpace` says that its space has begun. -/
def wordsFrom (inSpace : Bool) : Text → List Text
  | [] => [[]]
  | c :: r =>
    let isSpace := Text.isSpace c
    let rest :=
      match wordsFrom isSpace r with
      | [] => [[c]]
      | w :: ws => (c :: w) :: ws
    if inSpace && !isSpace then [] :: rest else rest

/-- The words of a line, each with the space behind it and the first also with the space in front
of it. They join to the line. -/
def words (line : Text) : List Text :=
  let space := line.takeWhile Text.isSpace
  match wordsFrom false (line.drop space.length) with
  | [] => [space]
  | w :: ws => (space ++ w) :: ws

/-- The lines that hold words, the first of them with `line` at its start, which takes `used`
columns. -/
def fillFrom (width : Nat) (overlong : Overlong) (used : Nat) (line : Text) :
    List Text → List Text
  | [] => [line]
  | w :: ws =>
    let size := w.trimEnd.width
    if used + size ≤ width then fillFrom width overlong (used + w.width) (line ++ w) ws
    else if size ≤ width then line :: fillFrom width overlong w.width w ws
    else
      let parts :=
        match overlong with
        | .folded => w.chop width
        | .cut => [w]
      let last := parts.getLastD []
      (if line.isEmpty then [] else [line]) ++ parts.dropLast
        ++ fillFrom width overlong last.width last ws

/-- A line without the space at its end that does not fit. -/
def dropExcess (width : Nat) (line : Text) : Text :=
  line.take (line.length - min (line.length - line.trimEnd.length) (line.length - width))

/-- A line cut to exactly a width: a space stands for half of a wide cluster. -/
def cutTo (width : Nat) (line : Text) : Text :=
  let start := line.takeWidth width
  start ++ List.replicate (width - start.width) ' '

/-- A line that is not wider than `width`. -/
def fit (width : Nat) (overlong : Overlong) (line : Text) : Text :=
  if line.width ≤ width then line
  else match overlong with
    | .folded => cutTo width line
    | .cut => cutTo (width - 1) line ++ ['…']

/-- The lines that a line becomes on a page of a width. -/
def wrap (width : Nat) (overlong : Overlong) (line : Text) : List Text :=
  (fillFrom width overlong 0 [] (words line)).map fun l =>
    fit width overlong (dropExcess width l)

end SqlAssist.Layout
