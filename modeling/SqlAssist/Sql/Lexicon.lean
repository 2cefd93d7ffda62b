import SqlAssist.Sql.Pattern

/-!
# The lexical rules of SQL

A SQL text is cut into lexemes from left to right. Block comments and dollar-quoted bodies are
found by their delimiters; everything else is the first rule of a list that matches, and a character
that no rule wants is a lexeme of its own. Only two things matter here: how far each lexeme reaches
and whether it is a comment.
-/

namespace SqlAssist.Lexicon

open Pattern

/-- What a lexeme is, as far as comments are concerned. -/
inductive Kind where
  /-- Anything but a comment. -/
  | code
  /-- A comment that ends with its line. -/
  | lineComment
  /-- A comment between a slash-star and a star-slash. -/
  | blockComment
  deriving DecidableEq, Repr

/-- A Latin letter that may start an identifier: A to Z and the capitals of Latin-1 up to `Ü`,
ignoring case. The multiplication sign stands among those capitals and counts. -/
def isLatinLetter (c : Char) : Bool :=
  let n := c.toNat
  c.isLower || c.isUpper || (0xc0 ≤ n && n ≤ 0xdc) || (0xe0 ≤ n && n ≤ 0xf6) ||
    (0xf8 ≤ n && n ≤ 0xfc) || c = 'ı' || c = 'İ' || c = 'ſ' || c = '\u212a' || c = '\u212b'

/-- A character that may start a tag or must not touch a number. -/
def isTagStart (c : Char) : Bool :=
  c = '_' || isLatinLetter c

/-- A hexadecimal digit; decimal digits of every script count. -/
def isHexDigit (c : Char) : Bool :=
  Text.isDecimalDigit c || ('a' ≤ c && c ≤ 'f') || ('A' ≤ c && c ≤ 'F')

/-- The end of a line or of the text. -/
def lineEnd : Pattern :=
  any [exactly "\r\n", char '\r', char '\n', textEnd]

/-- The two openers of a line comment: two hyphens, or a hash and a space. -/
def lineCommentOpener : Pattern :=
  any [exactly "--", exactly "# "]

/-- The rest of a line up to and with its end. -/
def restOfLine : Pattern :=
  seq (reluctant inLine) lineEnd

/-- The rules for line comments: an optimiser hint first, then any other. -/
def lineCommentRules : List Pattern :=
  [all [lineCommentOpener, some1 (char '+'), restOfLine], seq lineCommentOpener restOfLine]

/-- A body in which the quote may stand doubled or after the given escape character. -/
def quotedBody (quote : Char) (escape : Option Char) : Pattern :=
  many (any ([seq (char quote) (char quote)]
    ++ (match escape with | some e => [seq (char e) (char quote)] | none => [])
    ++ [one (· != quote)]))

/-- A possible word of a compound keyword, with the white space after it. -/
def leadWord (ks : List String) : Pattern :=
  maybe (any (ks.map fun k => seq (keyword k) spaces))

/-- Keywords that have to end at the edge of a word. -/
def keywords (ks : List String) : Pattern :=
  seq (any (ks.map keyword)) wordEdge

/-- A Latin letter and the word characters after it. -/
def latinName : Pattern :=
  seq (one isLatinLetter) (many wordChar)

/-- The rules for line breaks, blanks, punctuation with a meaning of its own, and placeholders. -/
def symbolRules : List Pattern :=
  [any [exactly "\r\n", char '\r', char '\n'],
    space,
    exactly ":=",
    exactly "::",
    char '*',
    all [char '\x60', quotedBody '\x60' none, char '\x60'],
    all [char '´', quotedBody '´' none, char '´'],
    char '?',
    all [char '%', maybe (all [char '(', some1 wordChar, char ')']), keyword "S"],
    all [notBehind Text.isWordChar, oneOf "$:?", some1 wordChar],
    seq (char '\\') (some1 wordChar)]

/-- The rules for identifiers, numbers and quoted texts. -/
def nameRules : List Pattern :=
  [keywords ["CASE", "IN", "VALUES", "USING", "FROM", "AS"],
    all [any [char '@', exactly "##", char '#'], one isLatinLetter, some1 wordChar],
    seq latinName (ahead (all [many space, char '.', notAhead digit])),
    seq (behind (· == '.')) latinName,
    seq latinName (ahead (char '(')),
    all [maybe (char '-'), char '0', keyword "X", some1 (one isHexDigit)],
    all [maybe (char '-'), some1 digit, maybe (seq (char '.') (some1 digit)), keyword "E",
      maybe (char '-'), some1 digit],
    all [notAhead (one isTagStart), maybe (char '-'),
      alt (all [some1 digit, char '.', many digit]) (seq (char '.') (some1 digit)),
      notAhead (one isTagStart)],
    all [notAhead (one isTagStart), maybe (char '-'), some1 digit, notAhead (one isTagStart)],
    all [char '\'', quotedBody '\'' (some '\\'), char '\''],
    all [char '"', quotedBody '"' (some '\\'), char '"'],
    alt (exactly "\"\"") (all [char '"', reluctant inLine, noneOf "\\", char '"']),
    all [notBehind fun c => Text.isWordChar c || c == ']' || c == ')', char '[',
      some1 (noneOf "[]"), char ']']]

/-- The rules for keywords of several words. -/
def phraseRules : List Pattern :=
  [all [maybe (any [seq (leadWord ["LEFT", "RIGHT", "FULL"])
      (leadWord ["INNER", "OUTER", "STRAIGHT"]),
      leadWord ["CROSS", "NATURAL"]]), keywords ["JOIN"]],
    all [keyword "END", maybe (any (["IF", "LOOP", "WHILE", "FOR", "CASE"].map fun k =>
      seq spaces (keyword k))), wordEdge],
    all [keyword "IF", spaces, leadWord ["NOT"], keywords ["EXISTS"]],
    all [keyword "NOT", spaces, keywords ["NULL"]],
    all [any [keyword "ASC", keyword "DESC"], maybe (all [spaces, keyword "NULLS", spaces,
      any [keyword "FIRST", keyword "LAST"]]), wordEdge],
    keywords ["ASC", "DESC"],
    all [keyword "NULLS", spaces, keywords ["FIRST", "LAST"]],
    all [keyword "UNION", spaces, keywords ["ALL"]],
    all [keyword "CREATE", maybe (all [spaces, keyword "OR", spaces, keyword "REPLACE"]), wordEdge],
    all [keyword "DOUBLE", spaces, keywords ["PRECISION"]],
    all [keyword "GROUP", spaces, keywords ["BY"]],
    all [keyword "ORDER", spaces, keywords ["BY"]],
    all [keyword "PRIMARY", spaces, keywords ["KEY"]],
    all [keyword "HANDLER", spaces, keywords ["FOR"]],
    all [keyword "GO", space, some1 digit, wordEdge],
    all [keyword "LATERAL", spaces, keyword "VIEW", spaces,
      keywords ["EXPLODE", "INLINE", "PARSE_URL_TUPLE", "POSEXPLODE", "STACK"]],
    all [any [keyword "AT", seq (keyword "WITH") (char '\'')], spaces, keyword "TIME", spaces,
      keyword "ZONE", spaces, char '\'', some1 (noneOf "'"), char '\''],
    seq (leadWord ["NOT"]) (keywords ["LIKE", "ILIKE", "RLIKE"]),
    all [leadWord ["NOT"], keyword "REGEXP", maybe (seq spaces (keyword "BINARY")), wordEdge]]

/-- The rules for all other words, punctuation and operators. -/
def operatorRules : List Pattern :=
  [seq wordChar (many (one fun c => Text.isWordChar c || c == '$' || c == '#')),
    oneOf ";:()[],.",
    any [seq (exactly "->") (maybe (char '>')), seq (exactly "#>") (maybe (char '>')),
      exactly "@>", exactly "<@", all [char '?', char '|', maybe (char '|')], exactly "?&",
      char '-', exactly "#-"],
    some1 (oneOf "<>=~!"),
    some1 (oneOf "+/@#%^&|-")]

/-- All rules for code, in the order in which they are tried. -/
def codeRules : List Pattern :=
  symbolRules ++ nameRules ++ phraseRules ++ operatorRules

/-- The length of the best match of the first pattern that matches. -/
def firstLength? (ps : List Pattern) (s : Spot) : Option Nat :=
  ps.findSome? (·.length? s)

/-- The number of characters up to and with the first occurrence of `p`. -/
def lengthThrough? (p : Text) : Text → Option Nat
  | [] => none
  | c :: r =>
    if p.isPrefixOf (c :: r) then some p.length else (lengthThrough? p r).map (· + 1)

/-- The length of the block comment at the start of the text. A hint's plus sign belongs to the
opener, so the closer is looked for behind it. -/
def blockCommentLength? (t : Text) : Option Nat :=
  if "/*+".toList.isPrefixOf t then (lengthThrough? "*/".toList (t.drop 3)).map (· + 3)
  else if "/*".toList.isPrefixOf t then (lengthThrough? "*/".toList (t.drop 2)).map (· + 2)
  else none

/-- The dollar tag at the start of the text: two dollar signs around a name or around nothing. -/
def dollarTag? : Text → Option Text
  | '$' :: r =>
    let name := if r.head?.any isTagStart then Text.firstWord r else []
    if (r.drop name.length).head? = some '$' then some ('$' :: name ++ ['$']) else none
  | _ => none

/-- The length of the dollar-quoted body at the spot: from a tag to the next tag with the same
name. A tag that touches a word, a double quote or a dollar sign before it opens nothing. -/
def dollarQuoteLength? (s : Spot) : Option Nat :=
  if s.before.any fun c => Text.isWordChar c || c == '"' || c == '$' then none
  else match dollarTag? s.rest with
    | some tag => (lengthThrough? tag (s.rest.drop tag.length)).map (· + tag.length)
    | none => none

/-- The lexeme at a spot: its kind and its length, which is at least one inside the text. -/
def lexeme (s : Spot) : Kind × Nat :=
  match blockCommentLength? s.rest with
  | some n => (.blockComment, n)
  | none =>
    match dollarQuoteLength? s with
    | some n => (.code, n)
    | none =>
      match firstLength? lineCommentRules s with
      | some n => (.lineComment, n)
      | none => (.code, (firstLength? codeRules s).getD 1)

/-- The kind of the lexeme that each character of the text belongs to. The current lexeme has the
given kind and `left` more characters; the character before the text is `before`. -/
def kindsFrom (kind : Kind) : (left : Nat) → (before : Option Char) → Text → List Kind
  | _, _, [] => []
  | left + 1, _, c :: r => kind :: kindsFrom kind left (some c) r
  | 0, before, c :: r =>
    let l := lexeme { before, rest := c :: r }
    l.1 :: kindsFrom l.1 (l.2 - 1) (some c) r

/-- The kind of the lexeme that each character of the text belongs to. -/
def kinds (t : Text) : List Kind :=
  kindsFrom .code 0 none t

end SqlAssist.Lexicon
