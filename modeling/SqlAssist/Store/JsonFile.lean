import SqlAssist.Json.Printer
import SqlAssist.Store.Report
import SqlAssist.Text.Basic

/-!
# JSON files

A JSON file is read as a whole. A lenient reader takes a file that is missing or holds no JSON for
null, with a warning in the second case. A document beyond the limits of the reader is a failure.

A file is saved by writing a temporary file beside it and renaming that over it, so that a reader
never sees half a file. Whatever step fails, the temporary file is taken away again.
-/

namespace SqlAssist.JsonFile

/-- The value that bytes hold. -/
def decode (bytes : Bytes) : Except ContentFault Json.Value :=
  match Utf8.decode bytes with
  | .error fault => .error (.encoding fault)
  | .ok t =>
    let document := t.unifyBreaks
    (Json.read document).mapError (.json document)

/-- The warning about a file that holds no JSON. -/
def unreadable (p : Path) (fault : ContentFault) : Note :=
  ⟨.warning, .jsonFile,
    "Ignoring unreadable JSON file ".toList ++ p.toText ++ ": ".toList ++ fault.message⟩

/-- What to do about a document that cannot be used: fail where it is beyond the limits of the
reader, else what `other` says. -/
def orBeyond {α : Type} (fault : ContentFault) (other : Report α) : Report α :=
  match fault with
  | .json _ ⟨.beyond limit, _⟩ => .fail (.beyond limit)
  | _ => other

/-- The value in a file; null where there is no file or no JSON in it. -/
def read (d : Disk) (p : Path) : Report Json.Value := do
  if ← .ofExcept .file (d.holds p) then
    match d.read p with
    | .error e => .fail (.file e)
    | .ok bytes =>
      match decode bytes with
      | .ok v => .pure v
      | .error fault => orBeyond fault ⟨[unreadable p fault], .ok .null⟩
  else .pure .null

/-! ### Saving -/

/-- The steps of saving a file. -/
inductive Step where
  /-- Making the directory. -/
  | makeDirectory
  /-- Making the temporary file. -/
  | makeTemporary
  /-- Writing the temporary file. -/
  | write
  /-- Setting its permissions. -/
  | restrict
  /-- Renaming it. -/
  | rename
  deriving DecidableEq, Repr

/-- A step that fails because of the device, and how many bytes have been written by then. -/
structure Outage where
  /-- The step. -/
  step : Step
  /-- The number of bytes that a failed writing leaves behind. -/
  written : Nat := 0
  deriving DecidableEq, Repr

/-- A name that no entry of the disk has: it is longer than all of them together. -/
def temporaryName (d : Disk) : Text :=
  ".tmp_".toList ++ List.replicate (d.entries.flatMap fun e => e.1.flatten).length '_'
    ++ ".json".toList

/-- Renames the file at a location to a path. A directory is not replaced. -/
def rename (d : Disk) (source : Location) (p : Path) : Except FileFault Disk := do
  let target ← d.locatePath p
  if p.parts.isEmpty ∨ p.parts.getLast? = some ['.', '.'] then .error .busy
  else match d.node? target, d.node? source with
    | some (.directory _), _ => .error .isADirectory
    | _, some n => pure ((d.erase source).put target n)
    | _, none => .error .noEntry

/-- Writes, restricts and renames the temporary file at a location. -/
def finish (outage : Option Outage) (d : Disk) (temporary : Location) (p : Path) (bytes : Bytes) :
    Except (Disk × FileFault) Disk :=
  let fails (s : Step) : Bool := outage.any (·.step = s)
  if fails .write then
    .error (d.put temporary (.file (bytes.take ((outage.map (·.written)).getD 0)) 0o600), .device)
  else
    let d := d.put temporary (.file bytes 0o600)
    if fails .restrict then .error (d, .device)
    else
      let d := d.restrict temporary 0o600
      if fails .rename then .error (d, .device)
      else (rename d temporary p).mapError fun fault => (d, fault)

/-- Saves a value under a path: the disk afterwards and, if a step failed, why. -/
def save (outage : Option Outage) (d : Disk) (p : Path) (v : Json.Value) :
    Disk × Option FileError :=
  let fails (s : Step) : Bool := outage.any (·.step = s)
  let deviceError : FileError := ⟨.device, p.parent.toText, none⟩
  if fails .makeDirectory then (d, some deviceError)
  else match d.makeDirectories p.parent p.parent.parts.length with
    | (d, some e) => (d, some e)
    | (d, none) =>
      match d.locatePath p.parent with
      | .error fault => (d, some ⟨fault, p.parent.toText, none⟩)
      | .ok directory =>
        let d := d.restrict directory 0o700
        let name := temporaryName d
        let temporary := directory ++ [name]
        if fails .makeTemporary then (d, some deviceError)
        else
          let d := d.put temporary (.file [] 0o600)
          match finish outage d temporary p (Utf8.encode v.render) with
          | .ok d => (d, none)
          | .error (d, fault) =>
            (d.erase temporary, some ⟨fault, (p.parent.child name).toText, some p.toText⟩)

end SqlAssist.JsonFile
