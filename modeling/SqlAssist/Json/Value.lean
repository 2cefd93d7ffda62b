import SqlAssist.Number.Binary64
import SqlAssist.Text.OrderedMap
import SqlAssist.Text.Basic

/-!
# JSON values

An object keeps its members in order. Whole numbers are kept exactly, all other numbers as doubles.
-/

namespace SqlAssist

namespace Json

/-- A JSON value. -/
inductive Value where
  /-- The value `null`. -/
  | null
  /-- `true` or `false`. -/
  | bool (b : Bool)
  /-- A number without fraction and exponent. -/
  | integer (n : Int)
  /-- Any other number. -/
  | real (x : Binary64)
  /-- A string. -/
  | string (s : Text)
  /-- A list of values. -/
  | array (items : List Value)
  /-- Named values, in order. -/
  | object (members : List (Text × Value))
  deriving Inhabited

namespace Value

/-- The value counts as given: it is not null, false, zero or empty. -/
def isGiven : Value → Bool
  | null => false
  | bool b => b
  | integer n => n ≠ 0
  | real x => !x.isZero
  | string s => !s.isEmpty
  | array items => !items.isEmpty
  | object members => !members.isEmpty

/-- The value is `null`. -/
def isNull : Value → Bool
  | null => true
  | _ => false

/-- The members of an object. -/
def members? : Value → Option (List (Text × Value))
  | object members => some members
  | _ => none

/-- The items of an array. -/
def items? : Value → Option (List Value)
  | array items => some items
  | _ => none

/-- The text of a string. -/
def string? : Value → Option Text
  | string s => some s
  | _ => none

end Value

end Json

end SqlAssist
