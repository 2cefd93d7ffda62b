import SqlAssist.Completion.Suggestion
import SqlAssist.Sql.Statement

/-!
# Workflow variables

A variable is written `${scope.key}`. While the cursor stands in one that is still open, the scopes
or the keys of the scope are on offer. A marker with white space behind it has been left open
earlier and does not count.
-/

namespace SqlAssist

/-- What has been typed of a variable. -/
structure VariableContext where
  /-- The scope, if a dot follows it. -/
  scope : Option Text := none
  /-- What has been typed of the scope or the key. -/
  typed : Text := []
  deriving DecidableEq, Repr

namespace VariableContext

/-- What opens a variable. -/
def opener : Text :=
  "$\x7b".toList

/-- Reads what stands between the opener and the cursor. -/
def ofInside (inside : Text) : VariableContext :=
  match inside.split '.' with
  | [scope] => { typed := scope }
  | scope :: key :: _ => { scope := if scope.isEmpty then none else some scope, typed := key }
  | [] => {}

/-- The variable that the end of the text lies in. -/
def detect? (t : Text) : Option VariableContext :=
  match Text.afterLastInfix? opener (Statement.beforeCursor (Comment.mask t)) with
  | some inside =>
    if inside.contains '\x7d' || inside.any Text.isSpace then none else some (ofInside inside)
  | none => none

/-- The scopes, or the keys of the scope, that start with what has been typed. -/
def candidates (i : CatalogIndex) (v : VariableContext) : List Candidate :=
  let offered (names : List Text) : List Text :=
    names.filter fun n => v.typed.upper.isPrefixOf n.upper
  match v.scope with
  | none | some [] =>
    (offered i.scopeNames).map (Suggestion.plain .workflowVariable · (some "workflow scope".toList))
  | some scope =>
    (offered (i.keysForScope scope)).map fun k =>
      Suggestion.plain .workflowVariable k (some (scope ++ '.' :: k))

end VariableContext

end SqlAssist
