import SqlAssist.Json.Value
import SqlAssist.Number.Shortest
import SqlAssist.Text.Quoted

/-!
# Writing JSON

A document is written in ASCII with two spaces of indentation a level and one item a line; empty
arrays and objects stay on their line.
-/

namespace SqlAssist.Json

/-- How documents spell the numbers that are not finite. -/
def spelling : Binary64.Spelling :=
  ⟨"Infinity".toList, "NaN".toList⟩

/-- One 16-bit unit as an escape. -/
def unitEscape (n : Nat) : Text :=
  "\\u".toList ++ Text.hexDigits 4 n

/-- One character of a string. -/
def stringChar (c : Char) : Text :=
  if c = '"' then "\\\"".toList
  else if c = '\\' then "\\\\".toList
  else if c = '\n' then "\\n".toList
  else if c = '\r' then "\\r".toList
  else if c = '\t' then "\\t".toList
  else if c = '\x08' then "\\b".toList
  else if c = '\x0c' then "\\f".toList
  else if 32 ≤ c.toNat ∧ c.toNat < 127 then [c]
  else if c.toNat < 0x10000 then unitEscape c.toNat
  else
    unitEscape (0xd800 + (c.toNat - 0x10000) / 0x400)
      ++ unitEscape (0xdc00 + (c.toNat - 0x10000) % 0x400)

/-- A string between its quotes. -/
def string (s : Text) : Text :=
  '"' :: s.flatMap stringChar ++ ['"']

/-- A line break and the indentation of a level. -/
def newLine (level : Nat) : Text :=
  '\n' :: List.replicate (2 * level) ' '

namespace Value

mutual

/-- The text of a value whose first line stands at a level of indentation. -/
def renderAt (level : Nat) : Value → Text
  | null => "null".toList
  | bool b => (if b then "true" else "false").toList
  | integer n => Text.ofInt n
  | real x => x.toText spelling
  | string s => Json.string s
  | array [] => "[]".toList
  | array (v :: vs) =>
    '[' :: newLine (level + 1) ++ renderAt (level + 1) v ++ renderItems (level + 1) vs
      ++ newLine level ++ [']']
  | object [] => "\x7b\x7d".toList
  | object (m :: ms) =>
    '\x7b' :: newLine (level + 1) ++ renderMember (level + 1) m ++ renderMembers (level + 1) ms
      ++ newLine level ++ ['\x7d']
termination_by structural v => v

/-- The items of an array behind the first one. -/
def renderItems (level : Nat) : List Value → Text
  | [] => []
  | v :: vs => ',' :: newLine level ++ renderAt level v ++ renderItems level vs
termination_by structural vs => vs

/-- The members of an object behind the first one. -/
def renderMembers (level : Nat) : List (Text × Value) → Text
  | [] => []
  | m :: ms => ',' :: newLine level ++ renderMember level m ++ renderMembers level ms
termination_by structural ms => ms

/-- One member of an object. -/
def renderMember (level : Nat) : Text × Value → Text
  | (name, v) => Json.string name ++ ": ".toList ++ renderAt level v
termination_by structural m => m

end

/-- The document that holds a value. -/
def render (v : Value) : Text :=
  renderAt 0 v

end Value

end SqlAssist.Json
