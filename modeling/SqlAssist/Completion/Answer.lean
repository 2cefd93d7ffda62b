import SqlAssist.Catalog.Configuration
import SqlAssist.Completion.Cursor
import SqlAssist.Completion.DotPath
import SqlAssist.Completion.Snippet
import SqlAssist.Completion.Variable

/-!
# Answers

A request is answered in one of four ways: an open workflow variable comes first, then literals and
comments, which get nothing, then a dotted path, and at last the clause.
-/

namespace SqlAssist

/-- A request for candidates. -/
structure Request where
  /-- The text before the cursor. -/
  before : Text
  /-- The word being typed. -/
  typed : Text := []
  /-- The text behind the cursor. -/
  after : Text := []
  deriving DecidableEq, Repr

/-- What a request is answered from. -/
inductive Route where
  /-- An open workflow variable. -/
  | openVariable (context : VariableContext)
  /-- Nothing, inside a literal or a comment. -/
  | nothing
  /-- A dotted path. -/
  | dotPath (place : CursorPlace) (path : DotPath)
  /-- The clause at the cursor. -/
  | clause (place : CursorPlace)
  deriving DecidableEq, Repr

/-- What a request is answered from. -/
def Request.route (i : CatalogIndex) (r : Request) : Route :=
  match VariableContext.detect? r.before with
  | some v => .openVariable v
  | none =>
    match CursorPlace.find? r.before r.after with
    | none => .nothing
    | some place =>
      match DotPath.detect? r.before i place.resolution with
      | some path => .dotPath place path
      | none => .clause place

namespace Clause

/-- The keywords on offer behind `UPDATE`. -/
def updateKeywords : List Text :=
  ["UPDATE", "SET", "WHERE"].map String.toList

/-- The keywords on offer in a condition. -/
def logicalKeywords : List Text :=
  ["AND", "OR", "NOT", "IN", "EXISTS", "LIKE", "BETWEEN", "IS", "NULL"].map String.toList

/-- The schemas and tables of the catalog. -/
def catalogNames (i : CatalogIndex) : List Candidate :=
  Suggestion.schemas i ++ Suggestion.tables i

/-- The columns behind `SET`, first as assignments. Without a table to update, those of the tables
at hand. -/
def setColumns (i : CatalogIndex) (r : Resolution) : List Candidate :=
  match r.updateTarget with
  | some target => Snippet.ofUpdate i target ++ Suggestion.columnsOf i target
  | none => if r.hasTables then Suggestion.activeColumns i r.tables else []

/-- All candidates that belong to a clause, in order. -/
def candidates (i : CatalogIndex) (c : Configuration) (r : Resolution) : Clause → List Candidate
  | insertColumns =>
    match r.insertTarget with
    | some target => Snippet.ofInsert i target
    | none => Suggestion.keywords c.keywords
  | update => Suggestion.tables i ++ Suggestion.keywords updateKeywords
  | set =>
    setColumns i r ++ Suggestion.operators c.operators ++ Suggestion.keywords ["WHERE".toList]
  | delete => Suggestion.keywords ["FROM".toList] ++ Suggestion.keywords c.keywords
  | fromTables | join | into => catalogNames i
  | whereCondition | having | on =>
    Suggestion.activeColumns i r.tables ++ Suggestion.operators c.operators
      ++ Suggestion.keywords logicalKeywords
  | absent | select | insert | values | group | order =>
    (if r.hasTables then Suggestion.activeColumns i r.tables else catalogNames i)
      ++ Suggestion.keywords c.keywords ++ Suggestion.builtins c.builtins

end Clause

namespace Request

/-- The candidates for a request. -/
def complete (i : CatalogIndex) (c : Configuration) (r : Request) : List Candidate :=
  match r.route i with
  | .openVariable v => Candidate.unique (v.candidates i)
  | .nothing => []
  | .dotPath _ path => Candidate.unique (path.candidates i)
  | .clause place =>
    Candidate.unique (Candidate.narrow r.typed (place.clause.candidates i c place.resolution))

end Request

end SqlAssist
