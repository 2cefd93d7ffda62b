import SqlAssist.Text.Basic

/-!
# Parentheses

Parentheses split a statement into levels. An unmatched closing parenthesis closes nothing: it never
takes the depth below zero. All scans are plain recursions over the characters.
-/

namespace SqlAssist.Paren

/-- The depth behind one more character. -/
def depthStep (depth : Nat) (c : Char) : Nat :=
  if c = '(' then depth + 1 else if c = ')' then depth - 1 else depth

/-- The number of parentheses that are still open at the end of the text. -/
def depth (t : Text) : Nat :=
  t.foldl depthStep 0

/-- Walks backward over the reversed text, at `depth`, having come as low as `lowest`. An opening
parenthesis that takes the depth below the lowest so far encloses the end of the text; its offset is
put before those `found` so far. -/
def enclosingFrom (depth lowest : Nat) (found : List Nat) : Text → List Nat
  | [] => found
  | c :: r =>
    if lowest = 0 then found
    else if c = ')' then enclosingFrom (depth + 1) lowest found r
    else if c = '(' then
      if depth - 1 < lowest then enclosingFrom (depth - 1) (depth - 1) (r.length :: found) r
      else enclosingFrom (depth - 1) lowest found r
    else enclosingFrom depth lowest found r

/-- The offsets of the parentheses that are still open at the end of the text, outermost first. -/
def enclosing (t : Text) : List Nat :=
  enclosingFrom (depth t) (depth t) [] t.reverse

/-- The offset where the innermost level at the end of the text starts. -/
def levelStart (t : Text) : Nat :=
  match (enclosing t).getLast? with
  | some i => i + 1
  | none => 0

/-- The part of the text that lies in the innermost level at its end. -/
def innermost (t : Text) : Text :=
  t.drop (levelStart t)

/-- A group that has `inner` groups open inside it is closed in the text. -/
def closes (inner : Nat) : Text → Bool
  | [] => false
  | c :: r =>
    if c = '(' then closes (inner + 1) r
    else if c = ')' then (if inner = 0 then true else closes (inner - 1) r)
    else closes inner r

/-- The text with the contents of its closed groups blanked, read inside `inside` closed groups. -/
def maskFrom : (inside : Nat) → Text → Text
  | _, [] => []
  | 0, c :: r => c :: maskFrom (if c = '(' && closes 0 r then 1 else 0) r
  | n + 1, c :: r =>
    if c = '(' then ' ' :: maskFrom (n + 2) r
    else if c = ')' then (if n = 0 then ')' else ' ') :: maskFrom n r
    else Text.blankChar c :: maskFrom (n + 1) r

/-- The text with the contents of every closed group blanked. Parentheses that have no partner stay
as they are, and so does what they would enclose. -/
def maskGroups (t : Text) : Text :=
  maskFrom 0 t

/-- The text up to the closing parenthesis that leaves the level `spare` levels below the start. -/
def untilClosed (spare : Nat) : Text → Text
  | [] => []
  | c :: r =>
    if c = '(' then c :: untilClosed (spare + 1) r
    else if c = ')' then (if spare = 0 then [] else c :: untilClosed (spare - 1) r)
    else c :: untilClosed spare r

end SqlAssist.Paren
