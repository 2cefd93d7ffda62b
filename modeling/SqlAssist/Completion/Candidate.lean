import SqlAssist.Text.OrderedMap
import SqlAssist.Text.CaseMap
import SqlAssist.Text.Quoted

/-!
# Candidates

A candidate is one suggestion to the editor. A snippet is a candidate with tab stops, at which the
editor lets the user replace a default text. Lists of candidates are narrowed by the typed word and
keep one candidate per label.
-/

namespace SqlAssist

/-- What a candidate stands for. -/
inductive Kind where
  /-- A keyword. -/
  | keyword
  /-- An operator or a separator. -/
  | operator
  /-- A column. -/
  | field
  /-- A table. -/
  | table
  /-- A schema. -/
  | schema
  /-- A function. -/
  | function
  /-- A workflow variable or its scope. -/
  | workflowVariable
  /-- A text with tab stops. -/
  | snippet
  deriving DecidableEq, Repr

/-- The name that editors know the kind by. -/
def Kind.name : Kind → String
  | keyword => "keyword"
  | operator => "operator"
  | field => "field"
  | table => "class"
  | schema => "module"
  | function => "function"
  | workflowVariable => "variable"
  | snippet => "snippet"

/-- A place in a snippet where the editor lets the user replace a default text. -/
structure TabStop where
  /-- The number of the stop. -/
  index : Int
  /-- The text that stands there at first. -/
  defaultText : Text
  /-- The offset of that text in the snippet; a negative one counts from the end. -/
  offset : Int := 0
  deriving DecidableEq, Repr

/-- One suggestion to the editor. -/
structure Candidate where
  /-- What the editor shows. -/
  label : Text
  /-- What the editor inserts. -/
  insertText : Text
  /-- What the candidate stands for. -/
  kind : Kind
  /-- More about the candidate. -/
  detail : Option Text := none
  /-- The candidate has tab stops, or may have. -/
  isSnippet : Bool := false
  /-- The tab stops of a snippet. -/
  stops : List TabStop := []
  deriving DecidableEq, Repr

namespace Candidate

/-- A character with a backslash before it where it would have a meaning in a snippet. -/
def escapeChar (c : Char) : Text :=
  if c = '\\' || c = '$' || c = '\x7d' then ['\\', c] else [c]

/-- A text that reads as itself in a snippet. -/
def escape (t : Text) : Text :=
  t.flatMap escapeChar

/-- A tab stop in a snippet. -/
def stopText (s : TabStop) : Text :=
  "$\x7b".toList ++ Text.ofInt s.index ++ ':' :: escape s.defaultText ++ ['\x7d']

/-- The text from an offset on with the tab stops, which stand in the order of their offsets. -/
def snippetFrom (t : Text) (offset : Int) : List TabStop → Text
  | [] => escape (t.after offset)
  | s :: ss =>
    escape (t.slice (t.offsetOf offset) (t.offsetOf s.offset)) ++ stopText s
      ++ snippetFrom t (s.offset + s.defaultText.length) ss

/-- The inserted text in the editor's snippet notation. -/
def snippet (c : Candidate) : Text :=
  if c.isSnippet then
    snippetFrom c.insertText 0 (c.stops.mergeSort fun a b => decide (a.offset ≤ b.offset))
  else escape c.insertText

/-- The candidate stays on offer when `typed` has been typed: its label starts with it, whatever the
case. A dotted label always stays. -/
def isOffered (typed : Text) (c : Candidate) : Bool :=
  c.label.contains '.' || typed.upper.isPrefixOf c.label.upper

/-- The candidates that stay on offer when `typed` has been typed. -/
def narrow (typed : Text) (cs : List Candidate) : List Candidate :=
  cs.filter (isOffered typed)

/-- One candidate for each label but the empty one: at the place of the first with that label, the
last one. -/
def unique (cs : List Candidate) : List Candidate :=
  (OrderedMap.ofList ((cs.filter (!·.label.isEmpty)).map fun c => (c.label, c))).map (·.2)

end Candidate

end SqlAssist
