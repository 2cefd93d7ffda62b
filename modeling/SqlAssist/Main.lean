import SqlAssist.CommandLine.Run

/-!
# The program

The program looks at the environment, at standard input and at the files that the command line
needs, runs it and prints the outcome. Notes go to standard error.
-/

namespace SqlAssist.Program

open CommandLine

/-- The text of a string. -/
def text (s : String) : Text :=
  s.toList

/-- What stands at a path: a file, a directory or nothing that can be read. -/
def nodeAt? (p : Path) : IO (Option Node) := do
  try
    let bytes ← IO.FS.readBinFile (String.ofList p.toText)
    return some (.file bytes.toList 0o644)
  catch
    | .inappropriateType .. => return some (.directory 0o755)
    | _ => return none

/-- The world with all that stands on the way to a path. -/
def look (w : World) (p : Path) : IO World := do
  let mut w := w
  for n in List.range p.parts.length do
    let q : Path := { p with parts := p.parts.take (n + 1) }
    if let some node ← nodeAt? q then
      if let .ok l := w.disk.locatePath q then
        w := { w with disk := w.disk.put l node }
  return w

/-- The variables of the environment that the program knows. -/
def environment : IO (OrderedMap Text Text) := do
  let mut known := []
  for name in ["HOME", "SQLSENSE_CONFIG_DIR", Site.settingsVariable] do
    if let some value ← IO.getEnv name then
      known := known ++ [(text name, text value)]
  return known

/-- The directory of the program's files: the one that the environment names, else one in the home
directory. -/
def siteOf (known : OrderedMap Text Text) : Site :=
  let home := (known.get? (text "HOME")).getD []
  { directory := match known.get? (text "SQLSENSE_CONFIG_DIR") with
      | some t => Path.ofText t
      | none => (Path.homePath home).child (text ".sqlsense")
    environment := known }

/-- The world with nothing in it but the working directory. -/
def bareWorld : IO World := do
  let here := Path.ofText (text (← IO.currentDir).toString)
  let above := (List.range here.parts.length).map fun n => here.parts.take (n + 1)
  return {
    site := siteOf (← environment)
    disk :=
      { entries := above.map fun l => (l, .directory 0o755), workingDirectory := here.parts } }

/-- The world as far as an invocation needs it. -/
def worldFor : Invocation → IO World
  | .command settings _ c => do
    let mut w := (← bareWorld).withSettings settings
    if let some p := c.textPath? then w ← look w p
    for p in c.configurationPaths w do w ← look w p
    for p in c.configurationPaths w do w ← look w p
    if c.readsInput then
      let bytes ← (← IO.getStdin).readBinToEnd
      w := { w with input := bytes.toList }
    return w
  | _ => bareWorld

/-- Prints an outcome and gives its exit code. -/
def report (o : Outcome) : IO UInt32 := do
  for n in o.notes do
    IO.eprintln (n.level.name ++ " " ++ String.ofList n.message)
  IO.print (String.ofList o.output)
  IO.eprint (String.ofList o.errors)
  return o.code.toUInt32

end SqlAssist.Program

/-- Runs the program with the arguments of the command line. -/
def main (args : List String) : IO UInt32 := do
  let invocation := SqlAssist.CommandLine.Invocation.ofArguments (args.map String.toList)
  SqlAssist.Program.report (invocation.run (← SqlAssist.Program.worldFor invocation))
