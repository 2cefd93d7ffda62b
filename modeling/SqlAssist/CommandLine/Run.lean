import SqlAssist.CommandLine.Console
import SqlAssist.CommandLine.Help
import SqlAssist.CommandLine.Invocation
import SqlAssist.Completion.Engine
import SqlAssist.Completion.Trace
import SqlAssist.Store.CatalogFile

/-!
# Running a command line

A command reads its text, resolves the cursor, loads the catalog and prints what it finds, in this
order; the first failure ends it. All it needs to know of the world is given to it.

The paths of the files that a command reads are told, too, so that a program can look at these and
no others. Which catalog is read can depend on the settings file, so its path is known only once
that file is.
-/

namespace SqlAssist.CommandLine

/-- What a program finds around it. -/
structure World where
  /-- The environment and the directory of the program's files. -/
  site : Site
  /-- The file system. -/
  disk : Disk
  /-- Standard input. -/
  input : Bytes := []
  deriving DecidableEq, Repr

/-- What a command prints, and whether it has found something to complain about. -/
structure Output where
  /-- The printed text. -/
  text : Text
  /-- There are complaints. -/
  hasComplaints : Bool := false
  deriving DecidableEq, Repr

namespace Output

/-- The output of lines. -/
def ofLines (ls : List Text) : Output :=
  { text := Layout.joinLines ls }

/-- The output of a JSON value. -/
def ofJson (v : Json.Value) : Output :=
  { text := v.render ++ ['\n'] }

/-- The output in one of two forms. -/
def inFormat (format : Format) (v : Json.Value) (ls : List Text) : Output :=
  match format with
  | .json => ofJson v
  | .text => ofLines ls

end Output

/-! ### What commands need -/

/-- The text of a file or, for a dash, of standard input. -/
def readText (w : World) (file : Text) : Report Text := do
  let bytes ← if file = ['-'] then pure w.input else .ofExcept .file (w.disk.readWritten file)
  let t ← .ofExcept .encoding (Utf8.decode bytes)
  pure t.unifyBreaks

/-- The offset of the cursor; without one, the end of the text. A negative cursor counts from the
end. -/
def resolveCursor (t : Text) : Option Int → Report Nat
  | none => .pure t.length
  | some c =>
    let offset := if c < 0 then c + t.length else c
    if 0 ≤ offset ∧ offset ≤ t.length then .pure offset.toNat else .fail (.cursor offset t.length)

/-- The catalog that has been chosen. A catalog file that is named has to be there and in order. -/
def loadCatalog (w : World) (choice : CatalogChoice) : Report Configuration := do
  let path := if choice.path.isEmpty then none else some (Path.ofText choice.path)
  let c ← CatalogFile.loadConfigured w.site w.disk path path.isSome
  pure (if choice.databaseType.isEmpty then c else { c with databaseType := choice.databaseType })

/-- Builds the index of a catalog and tells of it. -/
def buildIndex (c : Configuration) : Report CatalogIndex := do
  let i := CatalogIndex.build c.schemas c.workflowVariables
  Report.debug .catalogIndex i.trace
  pure i

/-- Starts an engine and tells of its index. -/
def startEngine (c : Configuration) : Report Engine := do
  let _ ← buildIndex c
  pure (.ofConfiguration c)

/-! ### Commands -/

/-- The first `limit` of some candidates; all of them without a positive limit. -/
def limited (limit : Int) (cs : List Candidate) : List Candidate :=
  if limit > 0 then cs.take limit.toNat else cs

/-- Prints the candidates at the cursor. -/
def complete (w : World) (file : Text) (cursor : Option Int) (choice : CatalogChoice)
    (format : Format) (typed : Option Text) (limit : Int) : Report Output := do
  let t ← readText w file
  let offset ← resolveCursor t cursor
  let e ← startEngine (← loadCatalog w choice)
  let before := t.take offset
  let r : Request := ⟨before, typed.getD (Text.lastWord before), t.drop offset⟩
  Report.tell ((r.trace e.index e.snapshot.configuration).map (⟨.debug, .completion, ·⟩))
  let cs := limited limit (e.complete r)
  pure (.inFormat format (.array (cs.map Candidate.record)) (candidateLines cs))

/-- Prints the statement, the clause and the tables at the cursor. -/
def context (w : World) (file : Text) (cursor : Option Int) (choice : CatalogChoice)
    (format : Format) : Report Output := do
  let t ← readText w file
  let offset ← resolveCursor t cursor
  let c ← loadCatalog w choice
  match CursorPlace.find? (t.take offset) (t.drop offset) with
  | some p => do
    Report.debug .completion p.trace
    pure (.inFormat format p.record (placeLines c.databaseType p))
  | none => pure (.inFormat format CursorPlace.absenceRecord [CursorPlace.absence])

/-- Prints the description of the word at the cursor. -/
def hover (w : World) (file : Text) (cursor : Option Int) (choice : CatalogChoice)
    (format : Format) : Report Output := do
  let t ← readText w file
  let offset ← resolveCursor t cursor
  let e ← startEngine (← loadCatalog w choice)
  let h := e.hover (t.take offset) (t.drop offset)
  pure (.inFormat format ((h.map Hover.record).getD .null) (hoverLines h))

/-- Prints the names of the catalog in a text. -/
def tokens (w : World) (file : Text) (choice : CatalogChoice) (format : Format) :
    Report Output := do
  let t ← readText w file
  let e ← startEngine (← loadCatalog w choice)
  let ts := e.tokens t.lines
  pure (.inFormat format (.array (ts.map SemanticToken.record)) (tokenLines t.lines ts))

/-- The warnings about a text. -/
def warnings (t : Text) : List Warning :=
  Warning.scan t.lines

/-- Prints the warnings about a text. -/
def lint (w : World) (file : Text) (format : Format) : Report Output := do
  let t ← readText w file
  let _ ← startEngine {}
  let ws := warnings t
  let name := if file = ['-'] then "<stdin>".toList else file
  let o : Output := .inFormat format (.array (ws.map Warning.record)) (lintLines name ws)
  pure { o with hasComplaints := !ws.isEmpty }

/-- Prints a catalog. -/
def showCatalog (w : World) (choice : CatalogChoice) (format : Format) (columns : Bool) :
    Report Output := do
  let c ← loadCatalog w choice
  match format with
  | .json => pure (.ofJson (Document.write c))
  | .text => do
    let i ← buildIndex c
    pure (.ofLines (catalogTree c.databaseType i columns).lines)

/-- Runs a command. -/
def Command.run (w : World) : Command → Report Output
  | .complete file cursor catalog format typed limit =>
    CommandLine.complete w file cursor catalog format typed limit
  | .context file cursor catalog format => CommandLine.context w file cursor catalog format
  | .hover file cursor catalog format => CommandLine.hover w file cursor catalog format
  | .tokens file catalog format => CommandLine.tokens w file catalog format
  | .lint file format => CommandLine.lint w file format
  | .showCatalog catalog format columns => CommandLine.showCatalog w catalog format columns

/-! ### Outcomes -/

/-- How a program ends. -/
structure Outcome where
  /-- The exit code. -/
  code : Nat
  /-- What it prints. -/
  output : Text := []
  /-- What it prints on standard error, notes apart. -/
  errors : Text := []
  /-- The notes that it shows. -/
  notes : List Note := []

namespace Outcome

/-- How a program ends with help. -/
def ofHelp (code : Nat) (g : Grammar OptionKey) : Outcome :=
  { code, output := Layout.joinLines g.helpLines }

/-- How a program ends whose command line has a fault. -/
def ofUsageError (program : String) (e : UsageError) : Outcome :=
  { code := 2, errors := program.toList ++ ": error: ".toList ++ e.message ++ ['\n'] }

/-- How a program ends after a command. Without `verbose` it shows no notes on decisions. -/
def ofReport (verbose : Bool) (r : Report Output) : Outcome :=
  let shown (notes : List Note) : List Note := notes.filter fun n => verbose || n.level = .warning
  match r.result with
  | .ok o => { code := if o.hasComplaints then 1 else 0, output := o.text, notes := shown r.notes }
  | .error e =>
    { code := 1, errors := "Error: ".toList ++ e.message ++ ['\n'],
      notes := shown (r.notes ++ [⟨.debug, .commandLine, "Command failed".toList⟩]) }

end Outcome

/-- The world with another settings file, if one is named. -/
def World.withSettings (w : World) (settings : Text) : World :=
  if settings.isEmpty then w
  else
    { w with site := { w.site with
        environment := w.site.environment.insert Site.settingsVariable.toList settings } }

/-- Does what a command line asks for. -/
def Invocation.run (w : World) : Invocation → Outcome
  | .help g => .ofHelp 0 g
  | .incomplete g => .ofHelp 1 g
  | .refused program e => .ofUsageError program e
  | .command settings verbose c => .ofReport verbose (c.run (w.withSettings settings))

/-- Runs the program with some arguments. -/
def run (w : World) (arguments : List Text) : Outcome :=
  (Invocation.ofArguments arguments).run w

/-! ### The files that a command needs -/

namespace Command

/-- The file that a command reads its text from; a dash stands for standard input. -/
def file? : Command → Option Text
  | complete file .. | context file .. | hover file .. | tokens file .. | lint file .. => some file
  | showCatalog .. => none

/-- The catalog that a command uses. -/
def catalog? : Command → Option CatalogChoice
  | complete _ _ choice .. | context _ _ choice _ | hover _ _ choice _ | tokens _ choice _
  | showCatalog choice .. => some choice
  | lint .. => none

/-- The command reads standard input. -/
def readsInput (c : Command) : Bool :=
  c.file? = some ['-']

/-- The path of the file that a command reads its text from. -/
def textPath? (c : Command) : Option Path :=
  (c.file?.filter (· ≠ ['-'])).map Path.ofText

/-- The path of the settings file and, as far as the world tells, that of the catalog. -/
def configurationPaths (w : World) (c : Command) : List Path :=
  match c.catalog? with
  | none => []
  | some choice =>
    let catalog : Report Path :=
      if choice.path.isEmpty then CatalogFile.pathOr w.site w.disk none
      else .pure (Path.ofText choice.path)
    w.site.settingsPath.result.toOption.toList ++ catalog.result.toOption.toList

end Command

end SqlAssist.CommandLine
