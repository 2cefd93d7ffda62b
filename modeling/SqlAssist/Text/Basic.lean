/-!
# Texts

A text is its list of characters, so an offset counts characters. Everything that blanks a part of
a text keeps its length and its line breaks, and offsets stay valid.

Text that comes from outside marks its line ends in several ways. They are made uniform when it is
read; where a document is cut into lines, further separators count. A property of characters is
given as a list of closed intervals of code points.
-/

namespace SqlAssist

/-- A text, character by character. -/
abbrev Text := List Char

namespace Text

/-- A carriage return or a line feed. -/
def isLineBreak (c : Char) : Bool :=
  c = '\n' || c = '\r'

/-- A space in place of every character but the line breaks. -/
def blankChar (c : Char) : Char :=
  if isLineBreak c then c else ' '

/-- The text with every character but the line breaks replaced by a space. -/
def blank (t : Text) : Text :=
  t.map blankChar

/-- `p` occurs in the text. -/
def hasInfix (p : Text) : Text → Bool
  | [] => p.isEmpty
  | c :: r => p.isPrefixOf (c :: r) || hasInfix p r

/-- What follows the last occurrence of `p`, if there is one. -/
def afterLastInfix? (p : Text) : Text → Option Text
  | [] => none
  | c :: r =>
    match afterLastInfix? p r with
    | some s => some s
    | none => if p.isPrefixOf (c :: r) then some ((c :: r).drop p.length) else none

/-- The number of characters before the first `c`; all of them if there is none. -/
def firstOffset (c : Char) (t : Text) : Nat :=
  (t.takeWhile (· ≠ c)).length

/-- The offset just past the last `c`; zero if there is none. -/
def lastOffset (c : Char) : Text → Nat
  | [] => 0
  | d :: r =>
    match lastOffset c r with
    | 0 => if d = c then 1 else 0
    | n + 1 => n + 2

/-- The parts between the occurrences of `c`; a text without `c` is one part. -/
def split (c : Char) : Text → List Text
  | [] => [[]]
  | d :: r =>
    if d = c then [] :: split c r
    else match split c r with
      | [] => [[d]]
      | p :: ps => (d :: p) :: ps

/-- The texts joined by `sep`. -/
def join (sep : Text) : List Text → Text
  | [] => []
  | [t] => t
  | t :: ts => t ++ sep ++ join sep ts

/-- The text without one line feed at its very end. -/
def dropFinalBreak (t : Text) : Text :=
  if t.getLast? = some '\n' then t.dropLast else t

/-- The characters from the end backwards while `p` holds, in text order. -/
def takeWhileEnd (p : Char → Bool) (t : Text) : Text :=
  (t.reverse.takeWhile p).reverse

/-- The text without the characters at its end for which `p` holds. -/
def dropWhileEnd (p : Char → Bool) (t : Text) : Text :=
  (t.reverse.dropWhile p).reverse

/-- The offset that a signed cursor means: a negative one counts from the end, and one outside
the text stops at its edge. -/
def offsetOf (t : Text) (cursor : Int) : Nat :=
  if cursor < 0 then (t.length + cursor).toNat else min cursor.toNat t.length

/-- The text before a signed cursor. -/
def before (t : Text) (cursor : Int) : Text :=
  t.take (t.offsetOf cursor)

/-- The text after a signed cursor. -/
def after (t : Text) (cursor : Int) : Text :=
  t.drop (t.offsetOf cursor)

/-- Whether a text is not behind another one when texts are ordered by the code points of their
characters. -/
def notAfter (a b : Text) : Bool :=
  !List.lex b a

/-- The characters from `start` up to `stop`; none if `stop` is not past `start`. -/
def slice (t : Text) (start stop : Nat) : Text :=
  (t.drop start).take (stop - start)

/-! ### Lines -/

/-- The text with each line end written as one line feed. -/
def unifyBreaks : Text → Text
  | [] => []
  | ['\r'] => ['\n']
  | '\r' :: d :: r => if d = '\n' then '\n' :: unifyBreaks r else '\n' :: unifyBreaks (d :: r)
  | c :: r => c :: unifyBreaks r

/-- A character that ends a line. -/
def endsLine (c : Char) : Bool :=
  c = '\n' || c = '\r' || c = '\x0b' || c = '\x0c' || c = '\x1c' || c = '\x1d' || c = '\x1e'
    || c = '\u0085' || c = '\u2028' || c = '\u2029'

/-- The lines of a text without their ends; a line feed behind a carriage return belongs to it. A
text that ends with a line end has no further line. -/
def lines : Text → List Text
  | [] => []
  | '\r' :: '\n' :: r => [] :: lines r
  | c :: r =>
    if endsLine c then [] :: lines r
    else match lines r with
      | l :: ls => (c :: l) :: ls
      | [] => [[c]]

end Text

/-! ### Ranges of code points -/

/-- Closed intervals of code points. -/
abbrev Ranges := List (Nat × Nat)

/-- The code point of the character lies in one of the intervals. -/
def Ranges.covers (rs : Ranges) (c : Char) : Bool :=
  rs.any fun r => r.1 ≤ c.toNat && c.toNat ≤ r.2

end SqlAssist
