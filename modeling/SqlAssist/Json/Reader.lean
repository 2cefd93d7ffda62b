import SqlAssist.Json.Value

/-!
# Reading JSON

The reader goes through the text once. The first fault ends it; a fault names the offset it was
found at. Besides the standard's values it takes `NaN`, `Infinity` and `-Infinity`. Of two members
with one name the later gives the value and the earlier the place. Very long whole numbers and very
deep nesting are beyond the reader's limits.
-/

namespace SqlAssist.Json

/-- What is beyond the limits of the reader. -/
inductive Limit where
  /-- A whole number with this many digits. -/
  | digits (n : Nat)
  /-- An array in too many others. -/
  | arrayDepth
  /-- An object in too many others. -/
  | objectDepth
  deriving DecidableEq, Repr

/-- The greatest number of digits of a whole number. -/
def maxDigits : Nat := 4300

/-- The greatest number of arrays and objects around a value. -/
def maxDepth : Nat := 980

/-- The words for what is beyond a limit. -/
def Limit.message : Limit → String
  | digits n =>
    s!"Exceeds the limit ({maxDigits} digits) for integer string conversion: value has {n} digits; "
      ++ "use sys.set_int_max_str_digits() to increase the limit"
  | arrayDepth => "maximum recursion depth exceeded while decoding a JSON array from a unicode string"
  | objectDepth =>
    "maximum recursion depth exceeded while decoding a JSON object from a unicode string"

/-- What is wrong with a text that is no JSON document, or none that can be read. -/
inductive Fault where
  /-- A value should start here. -/
  | expectingValue
  /-- The name of a member should start here. -/
  | expectingName
  /-- A colon should follow a name. -/
  | expectingColon
  /-- A comma, or the end of the array or object, should follow a value. -/
  | expectingComma
  /-- A string is never closed. -/
  | unterminatedString
  /-- A string holds a control character. -/
  | controlCharacter
  /-- A backslash is followed by no escape. -/
  | badEscape
  /-- Four hexadecimal digits are missing. -/
  | badUnicodeEscape
  /-- Something follows the document. -/
  | extraData
  /-- The text starts with a byte order mark. -/
  | byteOrderMark
  /-- Something is beyond a limit. -/
  | beyond (limit : Limit)
  deriving DecidableEq, Repr

/-- The words for a fault. -/
def Fault.message : Fault → String
  | expectingValue => "Expecting value"
  | expectingName => "Expecting property name enclosed in double quotes"
  | expectingColon => "Expecting ':' delimiter"
  | expectingComma => "Expecting ',' delimiter"
  | unterminatedString => "Unterminated string starting at"
  | controlCharacter => "Invalid control character at"
  | badEscape => "Invalid \\escape"
  | badUnicodeEscape => "Invalid \\uXXXX escape"
  | extraData => "Extra data"
  | byteOrderMark => "Unexpected UTF-8 BOM (decode using utf-8-sig)"
  | beyond limit => limit.message

/-- A fault and the offset of the place where it shows. -/
structure ReadError where
  /-- What is wrong. -/
  fault : Fault
  /-- Where it shows. -/
  offset : Nat
  deriving DecidableEq, Repr

/-- A place in the document: its offset and what follows. -/
structure Place where
  /-- The number of characters before the place. -/
  offset : Nat
  /-- The text from the place on. -/
  rest : Text

namespace Place

/-- The place behind `n` more characters. -/
def advance (p : Place) (n : Nat) : Place :=
  ⟨p.offset + n, p.rest.drop n⟩

/-- A character that may stand between the parts of a document. -/
def isBlank (c : Char) : Bool :=
  c = ' ' || c = '\t' || c = '\n' || c = '\r'

/-- The place behind the blanks. -/
def skipBlanks (p : Place) : Place :=
  p.advance (p.rest.takeWhile isBlank).length

/-- The fault at this place. -/
def fail {α : Type} (p : Place) (fault : Fault) : Except ReadError α :=
  .error ⟨fault, p.offset⟩

end Place

/-- The value of a hexadecimal digit. -/
def hexValue? (c : Char) : Option Nat :=
  if c.isDigit then some (c.toNat - 48)
  else if 'a' ≤ c ∧ c ≤ 'f' then some (c.toNat - 87)
  else if 'A' ≤ c ∧ c ≤ 'F' then some (c.toNat - 55)
  else none

/-- The value of four hexadecimal digits. -/
def hexUnit? (a b c d : Char) : Option Nat :=
  match hexValue? a, hexValue? b, hexValue? c, hexValue? d with
  | some a, some b, some c, some d => some (((a * 16 + b) * 16 + c) * 16 + d)
  | _, _, _, _ => none

/-- The character that a short escape stands for. -/
def shortEscape? : Char → Option Char
  | '"' => some '"'
  | '\\' => some '\\'
  | '/' => some '/'
  | 'b' => some '\x08'
  | 'f' => some '\x0c'
  | 'n' => some '\n'
  | 'r' => some '\r'
  | 't' => some '\t'
  | _ => none

/-- The 16-bit units of a string as characters: two surrogates make one, a single one is replaced by
the replacement character. -/
def ofUnits : List Nat → Text
  | [] => []
  | [u] => [if 0xd800 ≤ u ∧ u < 0xe000 then '\ufffd' else Char.ofNat u]
  | u :: v :: us =>
    if 0xd800 ≤ u ∧ u < 0xdc00 ∧ 0xdc00 ≤ v ∧ v < 0xe000 then
      Char.ofNat (0x10000 + (u - 0xd800) * 0x400 + (v - 0xdc00)) :: ofUnits us
    else (if 0xd800 ≤ u ∧ u < 0xe000 then '\ufffd' else Char.ofNat u) :: ofUnits (v :: us)

/-- Reads the rest of a string that opened at `start`. The `units` of an unfinished run of unicode
escapes are kept, the last one first, as two of them may make one character. -/
def readString (start : Nat) (units : List Nat) (offset : Nat) : Text →
    Except ReadError (Text × Place)
  | [] => .error ⟨.unterminatedString, start⟩
  | '"' :: r => .ok (ofUnits units.reverse, ⟨offset + 1, r⟩)
  | '\\' :: 'u' :: a :: b :: c :: d :: r =>
    match hexUnit? a b c d with
    | some u => if r.isEmpty then .error ⟨.badUnicodeEscape, offset + 1⟩
      else readString start (u :: units) (offset + 6) r
    | none => .error ⟨.badUnicodeEscape, offset + 1⟩
  | '\\' :: 'u' :: _ => .error ⟨.badUnicodeEscape, offset + 1⟩
  | ['\\'] => .error ⟨.unterminatedString, start⟩
  | '\\' :: c :: r =>
    match shortEscape? c with
    | some e => do
      let (t, p) ← readString start [] (offset + 2) r
      pure (ofUnits units.reverse ++ e :: t, p)
    | none => .error ⟨.badEscape, offset⟩
  | c :: r =>
    if c.toNat < 32 then .error ⟨.controlCharacter, offset⟩
    else do
      let (t, p) ← readString start [] (offset + 1) r
      pure (ofUnits units.reverse ++ c :: t, p)

/-- The number that decimal digits stand for. -/
def digitsValue (digits : Text) : Nat :=
  digits.foldl (fun n c => n * 10 + (c.toNat - 48)) 0

/-- The exponent at the start of the text: its value and its length. -/
def readExponent? : Text → Option (Int × Nat)
  | e :: r =>
    if e = 'e' ∨ e = 'E' then
      let signed := r.head? = some '+' ∨ r.head? = some '-'
      let digits := (if signed then r.drop 1 else r).takeWhile Char.isDigit
      if digits.isEmpty then none
      else
        let n : Int := digitsValue digits
        some (if r.head? = some '-' then -n else n, digits.length + (if signed then 2 else 1))
    else none
  | [] => none

/-- The value of a whole number, if it has not too many digits. -/
def wholeNumber (negative : Bool) (digits : Text) : Except Limit Value :=
  if maxDigits < digits.length then .error (.digits digits.length)
  else
    let n : Int := digitsValue digits
    .ok (.integer (if negative then -n else n))

/-- The number at the start of the text and its length. -/
def readNumber? (t : Text) : Option (Except Limit Value × Nat) :=
  let negative := t.head? = some '-'
  let body := if negative then t.drop 1 else t
  let whole := if body.head? = some '0' then ['0'] else body.takeWhile Char.isDigit
  if whole.isEmpty then none
  else
    let r := body.drop whole.length
    let fraction := match r with
      | '.' :: s => s.takeWhile Char.isDigit
      | _ => []
    let r := if fraction.isEmpty then r else r.drop (fraction.length + 1)
    let length := whole.length + (if negative then 1 else 0)
      + (if fraction.isEmpty then 0 else fraction.length + 1)
    match readExponent? r with
    | some (e, n) =>
      let x := Binary64.ofDecimal negative (digitsValue (whole ++ fraction)) (e - fraction.length)
      some (.ok (.real x), length + n)
    | none =>
      if fraction.isEmpty then some (wholeNumber negative whole, length)
      else
        let x := Binary64.ofDecimal negative (digitsValue (whole ++ fraction)) (-fraction.length)
        some (.ok (.real x), length)

/-- The names of values, with what they stand for. -/
def literals : List (Text × Value) :=
  [("null".toList, .null), ("true".toList, .bool true), ("false".toList, .bool false),
    ("NaN".toList, .real .nan), ("Infinity".toList, .real (.infinite false)),
    ("-Infinity".toList, .real (.infinite true))]

/-- A value that is written without brackets or quotes. -/
def readPlain (p : Place) : Except ReadError (Value × Place) :=
  match literals.find? fun l => l.1.isPrefixOf p.rest with
  | some (name, v) => .ok (v, p.advance name.length)
  | none =>
    match readNumber? p.rest with
    | some (.ok v, n) => .ok (v, p.advance n)
    | some (.error limit, _) => p.fail (.beyond limit)
    | none => p.fail .expectingValue

mutual

/-- The value at a place that is `depth` arrays and objects deep. -/
def readValue (depth : Nat) : (fuel : Nat) → Place → Except ReadError (Value × Place)
  | 0, p => p.fail .expectingValue
  | fuel + 1, p =>
    match p.rest with
    | '"' :: r => do
      let (s, p) ← readString p.offset [] (p.offset + 1) r
      pure (.string s, p)
    | '[' :: _ =>
      let q := (p.advance 1).skipBlanks
      if depth = maxDepth then p.fail (.beyond .arrayDepth)
      else if q.rest.head? = some ']' then .ok (.array [], q.advance 1)
      else do
        let (items, p) ← readItems (depth + 1) fuel q
        pure (.array items, p)
    | '{' :: _ =>
      let q := (p.advance 1).skipBlanks
      if depth = maxDepth then p.fail (.beyond .objectDepth)
      else if q.rest.head? = some '}' then .ok (.object [], q.advance 1)
      else do
        let (members, p) ← readMembers (depth + 1) fuel [] q
        pure (.object members, p)
    | _ => readPlain p

/-- The items of an array from a place on, up to and with the closing bracket. -/
def readItems (depth : Nat) : (fuel : Nat) → Place → Except ReadError (List Value × Place)
  | 0, p => p.fail .expectingValue
  | fuel + 1, p => do
    let (v, q) ← readValue depth fuel p
    let q := q.skipBlanks
    match q.rest with
    | ']' :: _ => pure ([v], q.advance 1)
    | ',' :: _ =>
      let (vs, q) ← readItems depth fuel (q.advance 1).skipBlanks
      pure (v :: vs, q)
    | _ => q.fail .expectingComma

/-- The members of an object from a place on, up to and with the closing brace, added to those
found so far. -/
def readMembers (depth : Nat) : (fuel : Nat) → OrderedMap Text Value → Place →
    Except ReadError (OrderedMap Text Value × Place)
  | 0, _, p => p.fail .expectingValue
  | fuel + 1, found, p =>
    match p.rest with
    | '"' :: r => do
      let (name, q) ← readString p.offset [] (p.offset + 1) r
      let q := q.skipBlanks
      if q.rest.head? = some ':' then
        let (v, q) ← readValue depth fuel (q.advance 1).skipBlanks
        let found := found.insert name v
        let q := q.skipBlanks
        match q.rest with
        | '}' :: _ => pure (found, q.advance 1)
        | ',' :: _ => readMembers depth fuel found (q.advance 1).skipBlanks
        | _ => q.fail .expectingComma
      else q.fail .expectingColon
    | _ => p.fail .expectingName

end

/-- The value that a document holds. Every two steps of the reader take a character. -/
def read (t : Text) : Except ReadError Value :=
  if t.head? = some '\ufeff' then .error ⟨.byteOrderMark, 0⟩
  else do
    let (v, p) ← readValue 0 (2 * t.length + 2) (Place.skipBlanks ⟨0, t⟩)
    let p := p.skipBlanks
    if p.rest.isEmpty then pure v else p.fail .extraData

/-- The words for an error in a document, with line, column and offset. Lines and columns count
from one. -/
def ReadError.message (document : Text) (e : ReadError) : Text :=
  let done := document.take e.offset
  let line := done.count '\n' + 1
  let column := (done.reverse.takeWhile (· ≠ '\n')).length + 1
  s!"{e.fault.message}: line {line} column {column} (char {e.offset})".toList

end SqlAssist.Json
