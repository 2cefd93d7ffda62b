import SqlAssist.Catalog.Document
import SqlAssist.Completion.Candidate
import SqlAssist.Completion.Cursor
import SqlAssist.Document.Hover
import SqlAssist.Document.Scan

/-!
# Records

The JSON records that commands print for what they have found.
-/

namespace SqlAssist

open Json

/-- The record of a tab stop. -/
def TabStop.record (s : TabStop) : Value :=
  Document.object
    [("index", .integer s.index), ("defaultText", .string s.defaultText),
      ("offset", .integer s.offset)]

/-- The record of a candidate. Only a snippet has its notation and its tab stops in it. -/
def Candidate.record (c : Candidate) : Value :=
  Document.object
    ([("label", .string c.label), ("insertText", .string c.insertText),
        ("kind", .string c.kind.name.toList), ("isSnippet", .bool c.isSnippet)]
      ++ (match c.detail with | some d => [("detail", .string d)] | none => [])
      ++ (if c.isSnippet then
            [("snippet", .string c.snippet), ("placeholders", .array (c.stops.map TabStop.record))]
          else []))

/-- The record of a reference that may be missing. -/
def TableRef.recordOf (r : Option TableRef) : Value :=
  (r.map fun r => .string r.qualifiedName).getD .null

/-- The record of the cursor's place. -/
def CursorPlace.record (p : CursorPlace) : Value :=
  Document.object
    [("context", .string p.clause.name.toList), ("depth", .integer p.level.depth),
      ("scope", .string p.clauseLevel.text.trim),
      ("tables", .object (p.resolution.tables.map fun t => (t.1, .string t.2.qualifiedName))),
      ("updateTarget", TableRef.recordOf p.resolution.updateTarget),
      ("insertTarget", TableRef.recordOf p.resolution.insertTarget)]

/-- Why there is no place to tell of. -/
def CursorPlace.absence : Text :=
  "cursor is inside a string literal or comment".toList

/-- The record where there is no place to tell of. -/
def CursorPlace.absenceRecord : Value :=
  Document.object [("context", .null), ("reason", .string CursorPlace.absence)]

/-- The record of a description. -/
def Hover.record (h : Hover) : Value :=
  Document.object [("title", .string h.title), ("contents", .array (h.contents.map .string))]

/-- The record of a token. -/
def SemanticToken.record (t : SemanticToken) : Value :=
  Document.object
    [("line", .integer t.line), ("start", .integer t.start), ("length", .integer t.length),
      ("type", .string t.type.name.toList)]

/-- The record of a warning. -/
def Warning.record (w : Warning) : Value :=
  Document.object
    [("line", .integer w.line), ("column", .integer w.column), ("endColumn", .integer w.endColumn),
      ("keyword", .string w.keyword), ("message", .string Warning.message)]

end SqlAssist
