import SqlAssist.Json.Value
import SqlAssist.Number.Shortest
import SqlAssist.Text.Quoted

/-!
# Values inside messages

Inside a message a value is shown on one line: a string between quotes as `Text.quoted` writes it,
the constants as `None`, `True` and `False`. A value that stands alone and is a string is shown
without quotes.
-/

namespace SqlAssist.Json.Value

/-- How messages spell the numbers that are not finite. -/
def shownSpelling : Binary64.Spelling :=
  ⟨"inf".toList, "nan".toList⟩

mutual

/-- The value as a message shows it inside of others. -/
def quoted : Value → Text
  | null => "None".toList
  | bool b => (if b then "True" else "False").toList
  | integer n => Text.ofInt n
  | real x => x.toText shownSpelling
  | string s => Text.quoted s
  | array [] => "[]".toList
  | array (v :: vs) => '[' :: quoted v ++ quotedItems vs ++ [']']
  | object [] => "\x7b\x7d".toList
  | object (m :: ms) => '\x7b' :: quotedMember m ++ quotedMembers ms ++ ['\x7d']
termination_by structural v => v

/-- The items of an array behind the first one. -/
def quotedItems : List Value → Text
  | [] => []
  | v :: vs => ", ".toList ++ quoted v ++ quotedItems vs
termination_by structural vs => vs

/-- The members of an object behind the first one. -/
def quotedMembers : List (Text × Value) → Text
  | [] => []
  | m :: ms => ", ".toList ++ quotedMember m ++ quotedMembers ms
termination_by structural ms => ms

/-- One member of an object. -/
def quotedMember : Text × Value → Text
  | (name, v) => Text.quoted name ++ ": ".toList ++ quoted v
termination_by structural m => m

end

/-- The value as a message shows it when it stands alone. -/
def shown : Value → Text
  | string s => s
  | v => v.quoted

end SqlAssist.Json.Value
