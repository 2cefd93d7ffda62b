import SqlAssist.Catalog.Index
import SqlAssist.CommandLine.Record
import SqlAssist.Layout.Grid
import SqlAssist.Layout.Markup
import SqlAssist.Layout.Tree

/-!
# Console text

What commands print for people: grids of candidates, tokens and the cursor's place, descriptions,
warnings, and the tree of a catalog.
-/

namespace SqlAssist.CommandLine

open Layout Layout.Markup

/-- The lines below a grid: how many entries it has. -/
def countLines (n : Nat) (noun : String) : List Text :=
  [[], '(' :: Text.ofNat n ++ ' ' :: noun.toList ++ "(s))".toList]

/-- The grid of candidates. -/
def candidateGrid (cs : List Candidate) : Grid where
  sides := List.replicate 4 .left
  rows := ["Label", "Kind", "Insert", "Detail"].map String.toList :: cs.map fun c =>
    [literal c.label, c.kind.name.toList,
      literal (if c.isSnippet then c.snippet else c.insertText), literal (c.detail.getD [])]

/-- The lines on candidates. -/
def candidateLines (cs : List Candidate) : List Text :=
  (candidateGrid cs).lines ++ countLines cs.length "candidate"

/-! ### The cursor -/

/-- The row on a reference that is there and not empty. -/
def targetRow (name : String) (r : Option TableRef) : List (List Text) :=
  ((r.map (·.qualifiedName)).filter (!·.isEmpty)).toList.map fun n => [name.toList, literal n]

/-- The grid on the cursor's place. -/
def placeGrid (databaseType : Text) (p : CursorPlace) : Grid where
  sides := [.left, .left]
  rows :=
    [["Context".toList, p.clause.name.toList], ["Depth".toList, Text.ofNat p.level.depth],
        ["Language".toList, Configuration.languageFor databaseType]]
      ++ (p.resolution.tables.map fun t =>
        [plain ("Table ".toList ++ escape t.1), literal t.2.qualifiedName])
      ++ targetRow "UPDATE target" p.resolution.updateTarget
      ++ targetRow "INSERT target" p.resolution.insertTarget

/-- The distance of the tab stops in statements, in characters. -/
def statementTabSize : Nat := 4

/-- The lines of a statement. Every character counts on the way to a tab stop, printed or not; a
byte order mark at the start is left out. -/
def statementLines (t : Text) : List Text :=
  let lines := (t.trim.split '\n').map (expandTabs List.length statementTabSize)
  let t := Text.join ['\n'] lines
  printed (if t.head? = some '\ufeff' then t.drop 1 else t)

/-- The lines on the cursor's place. -/
def placeLines (databaseType : Text) (p : CursorPlace) : List Text :=
  statementLines p.statement ++ (placeGrid databaseType p).lines

/-! ### Documents -/

/-- The lines of a description. -/
def hoverLines : Option Hover → List Text
  | some h => (plain (styled "bold" h.title) :: h.contents.map literal).flatMap printed
  | none => ["Nothing to describe at the cursor".toList]

/-- The text that a token marks. -/
def tokenText (lines : List Text) (t : SemanticToken) : Text :=
  (lines.getD t.line.toNat []).slice t.start.toNat (t.start + t.length).toNat

/-- The grid of tokens; lines and columns count from one. -/
def tokenGrid (lines : List Text) (ts : List SemanticToken) : Grid where
  sides := [.right, .right, .left, .left]
  rows := ["Line", "Col", "Type", "Name"].map String.toList :: ts.map fun t =>
    [Text.ofInt (t.line + 1), Text.ofInt (t.start + 1), t.type.name.toList,
      literal (tokenText lines t)]

/-- The lines on tokens. -/
def tokenLines (lines : List Text) (ts : List SemanticToken) : List Text :=
  (tokenGrid lines ts).lines ++ countLines ts.length "token"

/-- The lines on a warning about a file. -/
def warningLines (file : Text) (w : Warning) : List Text :=
  printed <| plain <|
    escape file ++ ':' :: Text.ofNat w.line ++ ':' :: Text.ofNat w.column ++ ": ".toList
      ++ styled "yellow" "warning".toList ++ ": ".toList ++ escape Warning.message ++ " (".toList
      ++ w.keyword ++ [')']

/-- The lines on all warnings. -/
def lintLines (file : Text) (ws : List Warning) : List Text :=
  if ws.isEmpty then ["No DDL found".toList] else ws.flatMap (warningLines file)

/-! ### The catalog -/

/-- A count of things in parentheses. -/
def countText (n : Nat) (things : String) : Text :=
  '(' :: Text.ofNat n ++ ' ' :: things.toList ++ [')']

/-- The columns of all tables of a name in schemas of a name. -/
def columnsUnder (schemas : List Schema) (schema table : Text) : List Text :=
  (Schema.allColumns schemas).filterMap fun p =>
    if p.1.name = schema ∧ p.2.1.name = table then some p.2.2 else none

/-- The trees of the tables of a schema, with columns of the schemas `shown`; `later` are the
schemas behind this one. Tables that share their names have all their columns below the last of
them. -/
def tableTrees (shown later : List Schema) (schema : Text) : List Table → List Tree
  | [] => []
  | t :: ts =>
    let isRepeated := ts.any (·.name = t.name)
      || (CatalogIndex.entries later).any fun e => e.schema = schema && e.table.name = t.name
    let columns := if isRepeated then [] else columnsUnder shown schema t.name
    let count := styled "dim" (countText t.columns.length "columns")
    .node (plain (escape t.name ++ ' ' :: count)) (columns.map fun c => .node (literal c) [])
      :: tableTrees shown later schema ts

/-- The trees of schemas, with columns of the schemas `shown`. -/
def schemaTrees (shown : List Schema) : List Schema → List Tree
  | [] => []
  | s :: later =>
    let count := countText s.tables.length "tables"
    .node (plain (styled "bold" s.name ++ ' ' :: count)) (tableTrees shown later s.name s.tables)
      :: schemaTrees shown later

/-- The tree of the variables; none without variables. -/
def variableTrees (i : CatalogIndex) : List Tree :=
  if i.scopeNames.isEmpty then []
  else
    [.node "Workflow variables".toList (i.scopeNames.map fun s =>
      let keys := Text.join ", ".toList (i.keysForScope s)
      .node (plain (escape s ++ ": ".toList ++ escape keys)) [])]

/-- The tree of a catalog, with the columns of its tables or without. -/
def catalogTree (databaseType : Text) (i : CatalogIndex) (columns : Bool) : Tree :=
  .node (plain (styled "bold" "Catalog".toList ++ " (".toList ++ escape databaseType ++ [')']))
    (schemaTrees (if columns then i.schemas else []) i.schemas ++ variableTrees i)

end SqlAssist.CommandLine
