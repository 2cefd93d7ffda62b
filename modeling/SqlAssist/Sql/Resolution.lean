import SqlAssist.Sql.TableRef
import SqlAssist.Text.Word

/-!
# The tables of a level

The tables that a level refers to are read off the names behind `FROM`, `JOIN`, `UPDATE`,
`INSERT INTO` and `DELETE FROM`. Behind `FROM` stands a list of targets, behind the others one. A
target is a dotted name or a blanked subquery, with an alias behind it; a reserved word is no alias.
-/

namespace SqlAssist

/-- The tables that a level refers to. -/
structure Resolution where
  /-- What each alias and each bare table name stands for. -/
  tables : OrderedMap Text TableRef := []
  /-- The table of an update. -/
  updateTarget : Option TableRef := none
  /-- The table of an insertion. -/
  insertTarget : Option TableRef := none
  deriving DecidableEq, Repr

/-- The words that no alias can be. -/
def reservedWords : List Text :=
  ["select", "from", "where", "join", "inner", "outer", "left", "right", "cross", "full", "on",
    "and", "or", "not", "in", "as", "order", "by", "group", "having", "union", "intersect",
    "except", "minus", "limit", "offset", "fetch", "insert", "into", "values", "update", "set",
    "delete", "case", "when", "then", "else", "end", "null", "is", "like", "between", "exists",
    "distinct", "all", "top", "with", "asc", "desc", "natural", "using", "window",
    "returning"].map String.toList

/-- One target behind `FROM`, `JOIN` or `UPDATE`. -/
structure Target where
  /-- The dotted name; none for a subquery. -/
  name : Option Text
  /-- The word in the place of the alias. -/
  aliasName : Option Text
  deriving DecidableEq, Repr

namespace Target

/-- The alias, unless it is a reserved word. -/
def properAlias (t : Target) : Option Text :=
  t.aliasName.filter fun a => !reservedWords.contains a.lower

/-- The dots and name parts that go on a dotted name, and the rest; `fuel` bounds their number. -/
def moreParts : (fuel : Nat) → Text → Text × Text
  | fuel + 1, '.' :: r =>
    let part := r.takeWhile Text.isNameChar
    if part.isEmpty then ([], '.' :: r)
    else
      let (more, rest) := moreParts fuel (r.dropWhile Text.isNameChar)
      ('.' :: part ++ more, rest)
  | _, t => ([], t)

/-- The dotted name at the start of the text and the rest. -/
def readName? (t : Text) : Option (Text × Text) :=
  let part := t.takeWhile Text.isNameChar
  if part.isEmpty then none
  else
    let r := t.dropWhile Text.isNameChar
    let (more, rest) := moreParts r.length r
    some (part ++ more, rest)

/-- The rest behind a blanked group at the start of the text. -/
def afterGroup? : Text → Option Text
  | '(' :: r =>
    match Text.trimStart r with
    | ')' :: s => some s
    | _ => none
  | _ => none

/-- The name after white space at the start of the text, and the rest. -/
def readSpacedName? (t : Text) : Option (Text × Text) :=
  let r := t.trimStart
  let word := r.takeWhile Text.isNameChar
  if r.length = t.length ∨ word.isEmpty then none else some (word, r.dropWhile Text.isNameChar)

/-- The alias at the start of the text and the rest. An `AS` with a name behind it is left out;
without one it stands in the place of the alias itself. -/
def readAlias? (t : Text) : Option (Text × Text) :=
  match readSpacedName? t with
  | none => none
  | some (word, rest) =>
    if Text.isKeyword "AS".toList word then (readSpacedName? rest).or (some (word, rest))
    else some (word, rest)

/-- Adds the alias at the start of the text, if there is one, to a target. -/
def withAlias (name : Option Text) (t : Text) : Target × Text :=
  match readAlias? t with
  | some (aliasName, rest) => (⟨name, some aliasName⟩, rest)
  | none => (⟨name, none⟩, t)

/-- The named target at the start of the text and the rest. -/
def readNamed? (t : Text) : Option (Target × Text) :=
  (readName? t).map fun (name, rest) => withAlias (some name) rest

/-- The target at the start of the text and the rest. -/
def read? (t : Text) : Option (Target × Text) :=
  match readNamed? t with
  | some r => some r
  | none => (afterGroup? t).map fun rest => withAlias none rest

/-- What follows a comma, with the white space around it. -/
def afterComma? (t : Text) : Option Text :=
  match t.trimStart with
  | ',' :: r => some (Text.trimStart r)
  | _ => none

/-- The targets of a list; `fuel` bounds their number. A list ends at a target whose alias is
reserved, as that word goes on the statement. -/
def readList : (fuel : Nat) → Text → List Target
  | 0, _ => []
  | fuel + 1, t =>
    match read? t with
    | none => []
    | some (target, rest) =>
      if target.aliasName.isSome ∧ target.properAlias = none then [target]
      else match afterComma? rest with
        | some r => target :: readList fuel r
        | none => [target]

end Target

namespace Resolution

/-- Some table is referred to. -/
def hasTables (r : Resolution) : Bool :=
  !r.tables.isEmpty

/-- What an alias or a bare table name stands for: as written, else in capitals. -/
def lookup (r : Resolution) (name : Text) : Option TableRef :=
  (r.tables.get? name).or (r.tables.get? name.upper)

/-- Registers a reference under its alias and, for a table, under its bare name. -/
def register (m : OrderedMap Text TableRef) (ref : TableRef) (aliasName : Option Text) :
    OrderedMap Text TableRef :=
  let m := match aliasName with
    | some a => m.insert a ref
    | none => m
  if ref.derived then m else m.insert ref.table ref

/-- Registers a target. A subquery without an alias cannot be referred to. -/
def registerTarget (m : OrderedMap Text TableRef) (t : Target) : OrderedMap Text TableRef :=
  match t.name, t.properAlias with
  | some name, aliasName => register m (TableRef.ofName name) aliasName
  | none, some aliasName => register m { table := aliasName, derived := true } (some aliasName)
  | none, none => m

/-- The targets behind the `FROM` or `JOIN` at the start of the text: a list behind the first, one
behind the second. -/
def targetsAt (t : Text) : List Target :=
  match Text.afterKeywords? ["FROM".toList] t, Text.afterKeywords? ["JOIN".toList] t with
  | some r, _ => Target.readList (r.length + 1) r
  | none, some r => (Target.read? r).toList.map (·.1)
  | none, none => []

/-- All targets behind `FROM` and `JOIN`, in order. -/
def targets (t : Text) : List Target :=
  t.wordStarts.flatMap targetsAt

/-- The first target behind `UPDATE`. -/
def updated? (t : Text) : Option Target :=
  (Text.afterEachKeywords ["UPDATE".toList] t).findSome? fun r => (Target.readNamed? r).map (·.1)

/-- The first name behind the keywords. -/
def firstName? (ks : List Text) (t : Text) : Option Text :=
  (Text.afterEachKeywords ks t).findSome? fun r => (Target.readName? r).map (·.1)

/-- The tables that a level's text refers to. -/
def ofText (t : Text) : Resolution :=
  let listed := (targets t).foldl registerTarget []
  let updated := updated? t
  let withUpdate := match updated with
    | some u => registerTarget listed u
    | none => listed
  let withDelete := match firstName? ["DELETE".toList, "FROM".toList] t with
    | some name => register withUpdate (TableRef.ofName name) none
    | none => withUpdate
  { tables := withDelete
    updateTarget := updated.bind fun u => u.name.map TableRef.ofName
    insertTarget := (firstName? ["INSERT".toList, "INTO".toList] t).map TableRef.ofName }

end Resolution

end SqlAssist
