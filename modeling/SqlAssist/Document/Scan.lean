import SqlAssist.Catalog.Index
import SqlAssist.Sql.Statement
import SqlAssist.Text.Digit

/-!
# Scans of a document

Scans of a whole document look at its lines with comments and the contents of literals blanked.
Blanking goes over the joined lines, so that what spans several of them is seen as one; the line
breaks stay where they are.

There are two scans. Statements that define or drop objects are not allowed, and each of their
keywords gives a warning. A semantic token marks the name of a schema, a table or a column; a name
that is used for several kinds counts as the first of these. Editors take the tokens as one list of
numbers, five for each, in which places are relative to the token before.
-/

namespace SqlAssist

/-! ### The lines of a document -/

namespace Document

/-- The second text, with the line breaks of the first. -/
def keepBreaks (t masked : Text) : Text :=
  List.zipWith (fun c m => if Text.isLineBreak c then c else m) t masked

/-- The lines with comments and the contents of literals blanked. -/
def maskedLines (lines : List Text) : List Text :=
  let t := Text.join ['\n'] lines
  (keepBreaks t (Literal.blank (Comment.mask t))).split '\n'

/-- What `f` finds in each line, given the line and its number counted from zero. -/
def scanLines {α : Type} (f : Nat → Text → List α) (lines : List Text) : List α :=
  (maskedLines lines).zipIdx.flatMap fun p => f p.2 p.1

end Document

/-! ### Warnings -/

/-- A keyword that is not allowed; line and columns count from one, the end is exclusive. -/
structure Warning where
  /-- The line of the keyword. -/
  line : Nat
  /-- The column where it starts. -/
  column : Nat
  /-- The column behind it. -/
  endColumn : Nat
  /-- The keyword in capitals. -/
  keyword : Text
  deriving DecidableEq, Repr

namespace Warning

/-- The words for every warning. -/
def message : Text :=
  "DDL not allowed".toList

/-- The keywords that are not allowed. -/
def keywords : List Text :=
  ["CREATE", "ALTER", "DROP"].map String.toList

/-- The warnings of one line. -/
def inLine (number : Nat) (line : Text) : List Warning :=
  line.wordStarts.filterMap fun rest =>
    (keywords.find? (Text.isKeyword · rest.firstWord)).map fun k =>
      let column := line.length - rest.length + 1
      ⟨number + 1, column, column + k.length, k⟩

/-- The warnings of a document, in order. -/
def scan (lines : List Text) : List Warning :=
  Document.scanLines inLine lines

end Warning

/-! ### Semantic tokens -/

/-- What a name in a document stands for. -/
inductive TokenType where
  /-- A schema. -/
  | schema
  /-- A table. -/
  | table
  /-- A column. -/
  | column
  deriving DecidableEq, Repr

namespace TokenType

/-- The name of the type. -/
def name : TokenType → String
  | schema => "schema"
  | table => "table"
  | column => "column"

/-- The number of the type. -/
def code : TokenType → Nat
  | schema => 0
  | table => 1
  | column => 2

end TokenType

/-- A name of the catalog in a document; line and start count from zero. -/
structure SemanticToken where
  /-- The line of the name. -/
  line : Int
  /-- The offset of the name in its line. -/
  start : Int
  /-- The number of its characters. -/
  length : Int
  /-- What it stands for. -/
  type : TokenType
  deriving DecidableEq, Repr

namespace SemanticToken

/-- A character that a name starts with: a word character, but no digit. -/
def startsName (c : Char) : Bool :=
  Text.isWordChar c && !Text.isDecimalDigit c

/-- The names in a line with their offsets. The line goes on at `offset`, within a name or not. -/
def namesFrom (inName : Bool) (offset : Nat) : Text → List (Nat × Text)
  | [] => []
  | c :: r =>
    if inName && Text.isNameChar c then namesFrom true (offset + 1) r
    else if startsName c then
      (offset, c :: r.takeWhile Text.isNameChar) :: namesFrom true (offset + 1) r
    else namesFrom false (offset + 1) r

/-- The names of the catalog in capitals, with their types; schemas first, then tables, then
columns. -/
def names (i : CatalogIndex) : List (Text × TokenType) :=
  i.schemas.map (fun s => (s.name.upper, .schema))
    ++ i.schemas.flatMap (fun s => s.tables.map fun t => (t.name.upper, .table))
    ++ (Schema.allColumns i.schemas).map fun p => (p.2.2.upper, .column)

/-- The type of a word in the document. -/
def typeOf? (i : CatalogIndex) (word : Text) : Option TokenType :=
  (names i).lookup word.upper

/-- The tokens of one line. -/
def inLine (i : CatalogIndex) (number : Nat) (line : Text) : List SemanticToken :=
  (namesFrom false 0 line).filterMap fun p =>
    (typeOf? i p.2).map fun type => ⟨number, p.1, p.2.length, type⟩

/-- The tokens of a document, in order. -/
def scan (i : CatalogIndex) (lines : List Text) : List SemanticToken :=
  Document.scanLines (inLine i) lines

/-- The numbers of tokens behind a token at the given line and start. -/
def encodeFrom (line start : Int) : List SemanticToken → List Int
  | [] => []
  | t :: ts =>
    [t.line - line, if t.line = line then t.start - start else t.start, t.length, t.type.code, 0]
      ++ encodeFrom t.line t.start ts

/-- The tokens as numbers: lines down, characters to the right (from the line's start after a line
change), length, type and no modifiers. -/
def encode (ts : List SemanticToken) : List Int :=
  encodeFrom 0 0 ts

end SemanticToken

end SqlAssist
