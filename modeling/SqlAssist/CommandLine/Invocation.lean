import SqlAssist.CommandLine.Grammar

/-!
# Invocations

What a command line asks for: a command with its options, or help. The options of the program stand
in front of the command, those of the command behind it. Arguments that nothing takes are a fault,
which is reported only if there is no other one.
-/

namespace SqlAssist.CommandLine

/-- The options of the program and its commands. -/
inductive OptionKey where
  /-- Help. -/
  | help
  /-- Another settings file. -/
  | settings
  /-- Notes on decisions. -/
  | verbose
  /-- The cursor. -/
  | cursor
  /-- The catalog file. -/
  | catalog
  /-- The type of the database. -/
  | databaseType
  /-- Output as JSON. -/
  | json
  /-- The word being typed. -/
  | typed
  /-- The greatest number of candidates. -/
  | limit
  /-- The columns of tables. -/
  | columns
  deriving DecidableEq, Repr

/-! ### Grammars -/

/-- The option that asks for help. -/
def helpOption : OptionRule OptionKey :=
  ⟨.help, ["-h", "--help"], .help, "show this help message and exit"⟩

/-- The option for JSON. -/
def jsonOption (instead : String) : OptionRule OptionKey :=
  ⟨.json, ["--json"], .flag, "Output JSON instead of " ++ instead⟩

/-- The options of commands that use a catalog. -/
def catalogOptions : List (OptionRule OptionKey) :=
  [⟨.catalog, ["--catalog"], .text "PATH",
      "Catalog JSON file (overrides the catalog_path setting)"⟩,
    ⟨.databaseType, ["--db-type"], .text "TYPE",
      "Database type for builtin functions (e.g. oracle, postgresql, mysql)"⟩,
    jsonOption "a table"]

/-- The option for the cursor. -/
def cursorOption : OptionRule OptionKey :=
  ⟨.cursor, ["--cursor", "-c"], .number "OFFSET",
    "Cursor offset in the text (default: end of text)"⟩

/-- The plain argument that names a file. -/
def fileOperand : Operand :=
  .one "file" "SQL file to read (default: stdin)"

/-- The name of the program. -/
def program : String := "sqlsense"

/-- The commands. -/
inductive CommandName where
  /-- Candidates at the cursor. -/
  | complete
  /-- The clause at the cursor. -/
  | context
  /-- The description of a word. -/
  | hover
  /-- The names of the catalog in a text. -/
  | tokens
  /-- Warnings about a text. -/
  | lint
  /-- The catalog. -/
  | catalog
  deriving DecidableEq, Repr

namespace CommandName

/-- All commands, in order. -/
def all : List CommandName :=
  [complete, context, hover, tokens, lint, catalog]

/-- The word for a command. -/
def word : CommandName → String
  | complete => "complete"
  | context => "context"
  | hover => "hover"
  | tokens => "tokens"
  | lint => "lint"
  | catalog => "catalog"

/-- What help says of a command. -/
def help : CommandName → String
  | complete => "List completions at a cursor position"
  | context => "Show the clause context at a cursor position"
  | hover => "Describe the builtin or schema at a cursor position"
  | tokens => "List schema, table and column names in a SQL text"
  | lint => "Warn about CREATE, ALTER and DROP statements"
  | catalog => "Inspect the completion catalog"

/-- The command of a word. -/
def ofWord? (t : Text) : Option CommandName :=
  all.find? fun c => c.word.toList = t

/-- The options of a command. -/
def options : CommandName → List (OptionRule OptionKey)
  | complete =>
    cursorOption :: catalogOptions
      ++ [⟨.typed, ["--prefix", "-p"], .text "PREFIX",
          "Typed word at the cursor (default: derived from the text)"⟩,
        ⟨.limit, ["--limit", "-l"], .number "LIMIT",
          "Maximum candidates to print (default: 0, unlimited)"⟩]
  | context | hover => cursorOption :: catalogOptions
  | tokens => catalogOptions
  | lint => [jsonOption "text"]
  | catalog => []

/-- The plain arguments of a command. -/
def operand : CommandName → Operand
  | catalog =>
    .command "catalog_command" "Catalog commands"
      [("show", "Show schemas, tables and workflow variables")]
  | _ => fileOperand

/-- What a command can be given. -/
def grammar (c : CommandName) : Grammar OptionKey where
  program := program ++ " " ++ c.word
  options := helpOption :: c.options
  operand := c.operand

end CommandName

/-- What the program can be given. -/
def programGrammar : Grammar OptionKey where
  program := program
  description := "Context-aware SQL completion"
  options :=
    [helpOption,
      ⟨.settings, ["--settings"], .text "PATH",
        "Path to settings JSON file (overrides ~/.sqlsense/settings.json)"⟩,
      ⟨.verbose, ["--verbose", "-v"], .flag, "Log engine decisions to stderr."⟩]
  operand := .command "command" "Available commands" (CommandName.all.map fun c => (c.word, c.help))
  epilog := "Example: echo 'SELECT * FROM ' | sqlsense complete --catalog catalog.json"

/-- What the showing of the catalog can be given. -/
def showGrammar : Grammar OptionKey where
  program := program ++ " catalog show"
  options :=
    helpOption :: catalogOptions
      ++ [⟨.columns, ["--columns"], .flag, "Also list the columns of every table"⟩]
  operand := .none

/-! ### Reading -/

/-- The catalog that a command uses. An empty text stands for what the settings say. -/
structure CatalogChoice where
  /-- The path of the catalog file. -/
  path : Text := []
  /-- The type of the database. -/
  databaseType : Text := []
  deriving DecidableEq, Repr

/-- The form of output. -/
inductive Format where
  /-- Text for people. -/
  | text
  /-- JSON. -/
  | json
  deriving DecidableEq, Repr

/-- A command with its options. A file is named by its path; a dash stands for standard input. -/
inductive Command where
  /-- Candidates at the cursor, or at the end of the text. -/
  | complete (file : Text) (cursor : Option Int) (catalog : CatalogChoice) (format : Format)
    (typed : Option Text) (limit : Int)
  /-- The clause at the cursor. -/
  | context (file : Text) (cursor : Option Int) (catalog : CatalogChoice) (format : Format)
  /-- The description of the word at the cursor. -/
  | hover (file : Text) (cursor : Option Int) (catalog : CatalogChoice) (format : Format)
  /-- The names of the catalog in a text. -/
  | tokens (file : Text) (catalog : CatalogChoice) (format : Format)
  /-- Warnings about a text. -/
  | lint (file : Text) (format : Format)
  /-- The catalog, with the columns of its tables or without. -/
  | showCatalog (catalog : CatalogChoice) (format : Format) (columns : Bool)
  deriving DecidableEq, Repr

/-- What a command line asks for. -/
inductive Invocation where
  /-- Help on a grammar that has been asked for. -/
  | help (g : Grammar OptionKey)
  /-- Nothing: the command is missing. -/
  | incomplete (g : Grammar OptionKey)
  /-- The fault of a command line and the words that call what reports it. -/
  | refused (program : String) (e : UsageError)
  /-- A command, with the settings file and whether to tell of decisions. -/
  | command (settings : Text) (verbose : Bool) (command : Command)

namespace Invocation

/-- The file that has been named, or standard input. -/
def fileOf (s : Taken OptionKey) : Text :=
  s.operand.getD ['-']

/-- The catalog that has been chosen. -/
def catalogOf (s : Taken OptionKey) : CatalogChoice :=
  ⟨(s.text? .catalog).getD [], (s.text? .databaseType).getD []⟩

/-- The form that has been chosen. -/
def formatOf (s : Taken OptionKey) : Format :=
  if s.has .json then .json else .text

/-- The command with the options behind it; nothing if it has commands of its own. -/
def commandOf? (s : Taken OptionKey) : CommandName → Option Command
  | .complete =>
    some (.complete (fileOf s) (s.number? .cursor) (catalogOf s) (formatOf s) (s.text? .typed)
      ((s.number? .limit).getD 0))
  | .context => some (.context (fileOf s) (s.number? .cursor) (catalogOf s) (formatOf s))
  | .hover => some (.hover (fileOf s) (s.number? .cursor) (catalogOf s) (formatOf s))
  | .tokens => some (.tokens (fileOf s) (catalogOf s) (formatOf s))
  | .lint => some (.lint (fileOf s) (formatOf s))
  | .catalog => none

/-- Goes on with what has been taken, if nothing ends the reading. -/
def andThen (g : Grammar OptionKey) (ts : List Text) (f : Taken OptionKey → Invocation) :
    Invocation :=
  match g.read ts with
  | .ok s => f s
  | .error .help => .help g
  | .error (.fault e) => .refused g.program e

/-- An invocation, unless arguments have been left over. -/
def unlessLeft (extras : List Text) (i : Invocation) : Invocation :=
  if extras.isEmpty then i else .refused program (.unrecognized extras)

/-- Reads a command line. -/
def ofArguments (ts : List Text) : Invocation :=
  andThen programGrammar ts fun top =>
    let run (c : Command) : Invocation :=
      .command ((top.text? .settings).getD []) (top.has .verbose) c
    match top.command.bind fun c => (CommandName.ofWord? c.1).map (·, c.2) with
    | none => unlessLeft top.extras (.incomplete programGrammar)
    | some (name, rest) =>
      andThen name.grammar rest fun s =>
        match commandOf? s name, s.command with
        | some c, _ => unlessLeft (top.extras ++ s.extras) (run c)
        | none, none => unlessLeft (top.extras ++ s.extras) (.incomplete name.grammar)
        | none, some (_, rest) =>
          andThen showGrammar rest fun shown =>
            unlessLeft (top.extras ++ s.extras ++ shown.extras)
              (run (.showCatalog (catalogOf shown) (formatOf shown) (shown.has .columns)))

end Invocation

end SqlAssist.CommandLine
