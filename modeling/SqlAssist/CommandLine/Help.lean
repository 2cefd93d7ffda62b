import SqlAssist.CommandLine.Grammar

/-!
# Help

The help of a grammar names what can be given, with a line on each. The explanations stand in one
column, as far to the right as the longest name needs but no farther than column 24; a longer name
has its line to itself.
-/

namespace SqlAssist.CommandLine

/-- A row of help: what can be given, how far it is indented, and the words on it. -/
structure HelpRow where
  /-- The number of spaces in front. -/
  indent : Nat
  /-- What can be given. -/
  name : String
  /-- The words on it. -/
  help : String

namespace HelpRow

/-- The lines of a row whose explanation starts at a column. -/
def lines (column : Nat) (r : HelpRow) : List String :=
  let name := String.ofList (List.replicate r.indent ' ') ++ r.name
  if name.length + 2 ≤ column then
    [name ++ String.ofList (List.replicate (column - name.length) ' ') ++ r.help]
  else [name, String.ofList (List.replicate column ' ') ++ r.help]

/-- The column at which the explanations of some rows start. -/
def column (rows : List HelpRow) : Nat :=
  min 24 ((rows.map fun r => r.indent + r.name.length).foldl max 0 + 2)

end HelpRow

namespace OptionRule

variable {κ : Type}

/-- A name of an option with the name of its value. -/
def withPlaceholder (o : OptionRule κ) (name : String) : String :=
  match o.kind.placeholder? with
  | some p => name ++ " " ++ p
  | none => name

/-- The option in a line on usage. -/
def usage (o : OptionRule κ) : String :=
  "[" ++ o.withPlaceholder (o.names.headD "") ++ "]"

/-- The row of an option. -/
def row (o : OptionRule κ) : HelpRow :=
  ⟨2, ", ".intercalate (o.names.map o.withPlaceholder), o.help⟩

end OptionRule

namespace Operand

/-- The commands between braces. -/
def choices (commands : List (String × String)) : String :=
  "\x7b" ++ ",".intercalate (commands.map (·.1)) ++ "\x7d"

/-- The plain arguments in a line on usage. -/
def usage : Operand → List String
  | none => []
  | one name _ => ["[" ++ name ++ "]"]
  | command _ _ commands => [choices commands ++ " ..."]

/-- The rows of the plain arguments. -/
def rows : Operand → List HelpRow
  | none => []
  | one name help => [⟨2, name, help⟩]
  | command _ help commands => ⟨2, choices commands, help⟩ :: commands.map fun c => ⟨4, c.1, c.2⟩

end Operand

namespace Grammar

variable {κ : Type}

/-- Lines with an empty one in front; nothing if there are no lines. -/
def paragraph (ls : List String) : List String :=
  if ls.isEmpty then [] else "" :: ls

/-- A heading with rows below it; nothing without rows. -/
def helpSection (heading : String) (column : Nat) (rows : List HelpRow) : List String :=
  if rows.isEmpty then [] else paragraph (heading :: rows.flatMap (·.lines column))

/-- The lines of help. -/
def helpLines (g : Grammar κ) : List Text :=
  let operands := g.operand.rows
  let options := g.options.map (·.row)
  let column := HelpRow.column (operands ++ options)
  let usage := " ".intercalate ("usage:" :: g.program :: g.options.map (·.usage) ++ g.operand.usage)
  let line (t : String) : List String := if t.isEmpty then [] else paragraph [t]
  ((usage :: line g.description) ++ helpSection "positional arguments:" column operands
    ++ helpSection "options:" column options ++ line g.epilog).map String.toList

end Grammar

end SqlAssist.CommandLine
