import SqlAssist.Text.Digit
import SqlAssist.Text.Word

/-!
# Patterns

A pattern describes pieces of a text. Matching is anchored at a spot of the text and lists every
way to match, in order of preference: the first branch of a choice before the second, more
repetitions before fewer (fewer before more for the reluctant repetition). A rule that wants one
match takes the first of the list.
-/

namespace SqlAssist

/-- A place in a text: its offset from where a match started, the character before it, if any, and
what follows. -/
structure Spot where
  /-- The number of characters since the start of the match. -/
  offset : Nat := 0
  /-- The character just before the place. -/
  before : Option Char
  /-- The text from the place on. -/
  rest : Text
  deriving DecidableEq, Repr

/-- A description of pieces of a text. -/
inductive Pattern where
  /-- The empty piece. -/
  | empty
  /-- One character with a property. -/
  | one (p : Char → Bool)
  /-- A piece of the first followed by a piece of the second. -/
  | seq (a b : Pattern)
  /-- A piece of either, the first preferred. -/
  | alt (a b : Pattern)
  /-- Any number of pieces in a row, more preferred. -/
  | many (a : Pattern)
  /-- Any number of pieces in a row, fewer preferred. -/
  | reluctant (a : Pattern)
  /-- The empty piece, where the pattern matches. -/
  | ahead (a : Pattern)
  /-- The empty piece, where the pattern does not match. -/
  | notAhead (a : Pattern)
  /-- The empty piece, after a character with a property. -/
  | behind (p : Char → Bool)
  /-- The empty piece, unless after a character with a property. -/
  | notBehind (p : Char → Bool)
  /-- The empty piece, at the edge of a word. -/
  | wordEdge
  /-- The empty piece, at the end of the text or before a line feed that ends it. -/
  | textEnd

namespace Pattern

/-- At most as many repetitions as the first text has characters, longest runs first, in front of
`others`. -/
def repeatMany (step : Spot → List Spot) : Text → Spot → List Spot → List Spot
  | [], s, others => s :: others
  | _ :: fuel, s, others => (step s).foldr (repeatMany step fuel) (s :: others)

/-- At most as many repetitions as the first text has characters, shortest runs first, in front of
`others`. -/
def repeatReluctant (step : Spot → List Spot) : Text → Spot → List Spot → List Spot
  | [], s, others => s :: others
  | _ :: fuel, s, others => s :: (step s).foldr (repeatReluctant step fuel) others

/-- The spots where a match that starts at the given spot can end, best first, in front of `others`.
A repetition is tried at most once per remaining character, as each round takes one. -/
def endsBefore : Pattern → Spot → List Spot → List Spot
  | empty, s, others => s :: others
  | one p, s, others =>
    match s.rest with
    | c :: r => if p c then ⟨s.offset + 1, some c, r⟩ :: others else others
    | [] => others
  | seq a b, s, others => (a.endsBefore s []).foldr b.endsBefore others
  | alt a b, s, others => a.endsBefore s (b.endsBefore s others)
  | many a, s, others => repeatMany (a.endsBefore · []) s.rest s others
  | reluctant a, s, others => repeatReluctant (a.endsBefore · []) s.rest s others
  | ahead a, s, others => if (a.endsBefore s []).isEmpty then others else s :: others
  | notAhead a, s, others => if (a.endsBefore s []).isEmpty then s :: others else others
  | behind p, s, others => if s.before.any p then s :: others else others
  | notBehind p, s, others => if s.before.any p then others else s :: others
  | wordEdge, s, others =>
    if s.before.any Text.isWordChar != s.rest.head?.any Text.isWordChar then s :: others else others
  | textEnd, s, others => if s.rest = [] ∨ s.rest = ['\n'] then s :: others else others

/-- The spots where a match that starts at the given spot can end, best first. -/
def ends (a : Pattern) (s : Spot) : List Spot :=
  a.endsBefore s []

/-- The number of characters of the best match at the spot, if there is a match. -/
def length? (a : Pattern) (s : Spot) : Option Nat :=
  (a.ends s).head?.map fun e => e.offset - s.offset

/-- The patterns one after the other. -/
def all : List Pattern → Pattern
  | [] => empty
  | [a] => a
  | a :: as => seq a (all as)

/-- One of the patterns, earlier ones preferred. -/
def any : List Pattern → Pattern
  | [] => notAhead empty
  | [a] => a
  | a :: as => alt a (any as)

/-- At least one piece, more preferred. -/
def some1 (a : Pattern) : Pattern :=
  seq a (many a)

/-- A piece or nothing, the piece preferred. -/
def maybe (a : Pattern) : Pattern :=
  alt a empty

/-- One given character. -/
def char (c : Char) : Pattern :=
  one (· == c)

/-- The characters of the text, exactly. -/
def exactly (t : String) : Pattern :=
  all (t.toList.map char)

/-- One character of the text. -/
def oneOf (t : String) : Pattern :=
  one fun c => t.toList.contains c

/-- One character that is not in the text. -/
def noneOf (t : String) : Pattern :=
  one fun c => !t.toList.contains c

/-- The letters of the keyword (given in capitals), ignoring case. -/
def keyword (k : String) : Pattern :=
  all (k.toList.map fun c => one fun d => Text.letterKey d == c)

/-- One white space character. -/
def space : Pattern :=
  one Text.isSpace

/-- At least one white space character. -/
def spaces : Pattern :=
  some1 space

/-- One decimal digit. -/
def digit : Pattern :=
  one Text.isDecimalDigit

/-- One word character. -/
def wordChar : Pattern :=
  one Text.isWordChar

/-- One character that does not end a line. -/
def inLine : Pattern :=
  one (· != '\n')

end Pattern

end SqlAssist
