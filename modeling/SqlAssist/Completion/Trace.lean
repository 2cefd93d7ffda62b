import SqlAssist.Completion.Answer

/-!
# The trace of an answer

The decisions that lead to an answer, in words: what the index holds, where the cursor stands and
what the request is answered from.
-/

namespace SqlAssist

/-- What an index holds. -/
def CatalogIndex.trace (i : CatalogIndex) : Text :=
  "Built catalog index: ".toList ++ Text.ofNat i.schemas.length ++ " schemas, ".toList
    ++ Text.ofNat i.tableByKey.length ++ " table keys, ".toList
    ++ Text.ofNat i.keysByScope.length ++ " variable scopes".toList

/-- Texts in quotes between brackets. -/
def Text.quotedList (l : List Text) : Text :=
  '[' :: Text.join ", ".toList (l.map Text.quoted) ++ [']']

/-- Where the cursor stands. -/
def CursorPlace.trace (p : CursorPlace) : Text :=
  "Context ".toList ++ p.clause.name.toList ++ " at depth ".toList ++ Text.ofNat p.level.depth
    ++ ", tables=".toList
    ++ Text.quotedList (p.resolution.tables.keys.mergeSort Text.notAfter)

/-- What has been typed of a variable. -/
def VariableContext.trace (v : VariableContext) : Text :=
  "Variable completion: scope=".toList ++ (v.scope.map Text.quoted).getD "None".toList
    ++ " prefix=".toList ++ v.typed.quoted

/-- What a dotted path asks for. Two names and a dot leave no trace. -/
def DotPath.trace : DotPath → List Text
  | tablesOf schema => ["Dot path: tables of schema ".toList ++ schema]
  | columnsOfAlias aliasName ref =>
    ["Dot path: alias ".toList ++ aliasName ++ " -> ".toList ++ ref.qualifiedName]
  | columnsOfTable entry => ["Dot path: columns of table ".toList ++ entry.qualifiedName]
  | columnsOfPath _ => []
  | columnsIn schema table => ["Dot path: columns of ".toList ++ schema ++ '.' :: table]

/-- The decisions on a request. -/
def Request.trace (i : CatalogIndex) (c : Configuration) (r : Request) : List Text :=
  match r.route i with
  | .openVariable v => [v.trace]
  | .nothing => ["Cursor inside a string literal or comment, no completions".toList]
  | .dotPath place path => place.trace :: path.trace
  | .clause place =>
    [place.trace,
      Text.ofNat (r.complete i c).length ++ " candidates for ".toList ++ place.clause.name.toList]

end SqlAssist
