import SqlAssist.Text.Alphanumeric
import SqlAssist.Text.Space

/-!
# Words

A word is a maximal run of word characters: letters, numbers and the underscore. Keywords are
compared with whole words, whatever their case; names may also hold `$`.
-/

namespace SqlAssist.Text

/-- A character of a word. -/
def isWordChar (c : Char) : Bool :=
  isAlphanumeric c || c = '_'

/-- A character of a name: a word character or `$`. -/
def isNameChar (c : Char) : Bool :=
  isWordChar c || c = '$'

/-- A character of a dotted path: a name character or a dot. -/
def isPathChar (c : Char) : Bool :=
  isNameChar c || c = '.'

/-- The ASCII capital that a letter stands for when case is ignored: its own capital, `S` for the
long `ſ`, `K` for the Kelvin sign and `I` for the dotless and the dotted Turkish `i`. -/
def letterKey (c : Char) : Char :=
  if c.isLower then Char.ofNat (c.toNat - 32)
  else if c = 'ſ' then 'S'
  else if c = '\u212a' then 'K'
  else if c = 'ı' || c = 'İ' then 'I'
  else c

/-- The word is the keyword (given in capitals), ignoring case. -/
def isKeyword (keyword word : Text) : Bool :=
  word.map letterKey == keyword

/-- The word at the start of the text; empty if it does not start with a word character. -/
def firstWord (t : Text) : Text :=
  t.takeWhile isWordChar

/-- What follows the word at the start of the text. -/
def afterWord (t : Text) : Text :=
  t.dropWhile isWordChar

/-- The rests of the text that start at the first character of a word, from left to right;
`inWord` says that the character before is a word character. -/
def wordStartsFrom (inWord : Bool) : Text → List Text
  | [] => []
  | c :: r =>
    if isWordChar c && !inWord then (c :: r) :: wordStartsFrom true r
    else wordStartsFrom (isWordChar c) r

/-- The rests of the text that start at the first character of a word, from left to right. -/
def wordStarts (t : Text) : List Text :=
  wordStartsFrom false t

/-- What follows the keywords at the start of the text, each followed by white space. -/
def afterKeywords? : List Text → Text → Option Text
  | [], t => some t
  | k :: ks, t =>
    let r := afterWord t
    if isKeyword k (firstWord t) && r.head?.any isSpace then afterKeywords? ks (trimStart r)
    else none

/-- What follows each occurrence of the keywords, from left to right. -/
def afterEachKeywords (ks : List Text) (t : Text) : List Text :=
  t.wordStarts.filterMap (afterKeywords? ks)

/-- The word that ends at the end of the text. A line feed at the very end is looked past: the
word is then the one that ends just before it. -/
def lastWord (t : Text) : Text :=
  t.dropFinalBreak.takeWhileEnd isWordChar

/-- The name that ends at the end of the text, looking past a line feed at the very end. -/
def lastName (t : Text) : Text :=
  t.dropFinalBreak.takeWhileEnd isNameChar

/-- The dotted path that ends at the end of the text, looking past a line feed at the very end. -/
def lastPath (t : Text) : Text :=
  t.dropFinalBreak.takeWhileEnd isPathChar

end SqlAssist.Text
