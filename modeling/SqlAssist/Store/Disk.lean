import SqlAssist.Store.Path
import SqlAssist.Text.OrderedMap
import SqlAssist.Text.Utf8

/-!
# The disk

What stands at each location of the file system, with its permission bits. A location is the list of
names that lead to it from the root; relative paths start from the working directory. What no entry
tells of is missing. A name of more than 255 bytes or a path of more than 4095 is too long, and no
path holds a zero character.
-/

namespace SqlAssist

/-- What stands at a location. -/
inductive Node where
  /-- A file with its contents and its permissions. -/
  | file (contents : Bytes) (mode : Nat)
  /-- A directory with its permissions. -/
  | directory (mode : Nat)
  deriving DecidableEq, Repr

/-- Why a file operation fails. -/
inductive FileFault where
  /-- There is nothing at the path. -/
  | noEntry
  /-- A part of the path that has to be a directory is none. -/
  | notADirectory
  /-- A directory stands where a file is needed. -/
  | isADirectory
  /-- Something stands where a directory is to be made. -/
  | alreadyThere
  /-- The path is not the name of an entry. -/
  | busy
  /-- The device did not do its work. -/
  | device
  /-- A name on the path or the path itself is too long. -/
  | nameTooLong
  /-- The path holds a zero character. -/
  | zeroCharacter
  deriving DecidableEq, Repr

namespace FileFault

/-- The number of the fault. -/
def number : FileFault → Nat
  | noEntry => 2
  | device => 5
  | busy => 16
  | alreadyThere => 17
  | notADirectory => 20
  | isADirectory => 21
  | zeroCharacter => 22
  | nameTooLong => 36

/-- The words for the fault. -/
def words : FileFault → String
  | noEntry => "No such file or directory"
  | device => "Input/output error"
  | busy => "Device or resource busy"
  | alreadyThere => "File exists"
  | notADirectory => "Not a directory"
  | isADirectory => "Is a directory"
  | nameTooLong => "File name too long"
  | zeroCharacter => "embedded null byte"

end FileFault

/-- A failed file operation: the fault, the path, and for a renaming the new path. -/
structure FileError where
  /-- Why it failed. -/
  fault : FileFault
  /-- The path as it was given. -/
  path : Text
  /-- The path that a renaming leads to. -/
  target : Option Text := none
  deriving DecidableEq, Repr

/-- The words for a failed operation. A path with a zero character never reaches the device, and its
error names neither number nor path. -/
def FileError.message (e : FileError) : Text :=
  if e.fault = .zeroCharacter then e.fault.words.toList
  else
    "[Errno ".toList ++ Text.ofNat e.fault.number ++ "] ".toList ++ e.fault.words.toList
      ++ ": ".toList ++ e.path.quoted
      ++ (match e.target with | some t => " -> ".toList ++ t.quoted | none => [])

/-- The names that lead to a place from the root. -/
abbrev Location := List Text

/-- The entries of the file system below its root, and the directory that relative paths start from.
-/
structure Disk where
  /-- What stands at each location. -/
  entries : OrderedMap Location Node := []
  /-- Where relative paths start. -/
  workingDirectory : Location := []
  deriving DecidableEq, Repr

namespace Disk

/-- What stands at a location. The root is always there. -/
def node? (d : Disk) (l : Location) : Option Node :=
  if l.isEmpty then some (.directory 0o755) else d.entries.get? l

/-- Puts a node at a location. -/
def put (d : Disk) (l : Location) (n : Node) : Disk :=
  if l.isEmpty then d else { d with entries := d.entries.insert l n }

/-- Takes away what stands at a location. -/
def erase (d : Disk) (l : Location) : Disk :=
  { d with entries := d.entries.filter (·.1 ≠ l) }

/-- The greatest number of bytes of a name. -/
def maxNameSize : Nat := 255

/-- The greatest number of bytes of a path. -/
def maxPathSize : Nat := 4095

/-- The fault of a path as it is written, if it cannot even be looked up. -/
def fault? (t : Text) : Option FileFault :=
  if t.contains '\x00' then some .zeroCharacter
  else if maxPathSize < (Utf8.encode t).length then some .nameTooLong
  else none

/-- Follows one part of a path from a directory. Empty parts and single dots stay there, double dots
lead to the directory above; above the root is the root. -/
def enter (d : Disk) (l : Location) (part : Text) : Except FileFault Location :=
  match d.node? l with
  | none => .error .noEntry
  | some (.file ..) => .error .notADirectory
  | some (.directory _) =>
    if part.isEmpty ∨ part = ['.'] then .ok l
    else if part = ['.', '.'] then .ok l.dropLast
    else if maxNameSize < (Utf8.encode part).length then .error .nameTooLong
    else .ok (l ++ [part])

/-- The location that the parts of a path lead to. All but the last have to be directories; at the
last there may be nothing yet. -/
def locate (d : Disk) (start : Location) (parts : List Text) : Except FileFault Location :=
  parts.foldlM d.enter start

/-- Where a path starts that is or is not absolute. -/
def startOf (d : Disk) (absolute : Bool) : Location :=
  if absolute then [] else d.workingDirectory

/-- The location of a path. -/
def locatePath (d : Disk) (p : Path) : Except FileFault Location :=
  match fault? p.toText with
  | some fault => .error fault
  | none => d.locate (d.startOf (!p.root.isEmpty)) p.parts

/-- What stands at a path. -/
def lookup (d : Disk) (p : Path) : Except FileFault Node := do
  match d.node? (← d.locatePath p) with
  | some n => pure n
  | none => .error .noEntry

/-- Something stands at the path. A path that is too long cannot be asked about. -/
def holds (d : Disk) (p : Path) : Except FileError Bool :=
  match d.lookup p with
  | .ok _ => .ok true
  | .error .nameTooLong => .error ⟨.nameTooLong, p.toText, none⟩
  | .error _ => .ok false

/-- A directory stands at the path. -/
def isDirectory (d : Disk) (p : Path) : Bool :=
  match d.lookup p with
  | .ok (.directory _) => true
  | _ => false

/-- The contents of what a location leads to, if that is a file. -/
def contents : Except FileFault Node → Except FileFault Bytes
  | .ok (.file c _) => .ok c
  | .ok (.directory _) => .error .isADirectory
  | .error e => .error e

/-- The contents of the file at a path. -/
def read (d : Disk) (p : Path) : Except FileError Bytes :=
  (contents (d.lookup p)).mapError (⟨·, p.toText, none⟩)

/-- The contents of the file at a path that is used as it is written: a slash at its end asks for a
directory. -/
def readWritten (d : Disk) (t : Text) : Except FileError Bytes :=
  let found : Except FileFault Node :=
    match fault? t with
    | some fault => .error fault
    | none =>
      if t.isEmpty then .error .noEntry
      else do
        match d.node? (← d.locate (d.startOf (t.head? = some '/')) (t.split '/')) with
        | some n => pure n
        | none => .error .noEntry
  (contents found).mapError (⟨·, t, none⟩)

/-- Makes a directory. -/
def makeDirectory (d : Disk) (p : Path) : Except FileFault Disk := do
  let l ← d.locatePath p
  match d.node? l with
  | some _ => .error .alreadyThere
  | none => pure (d.put l (.directory 0o755))

/-- Makes the directory of a path of `n` parts and, where they are missing, those above it. A
directory that is there already is fine. -/
def makeDirectories (d : Disk) (p : Path) : (n : Nat) → Disk × Option FileError
  | 0 => (d, none)
  | n + 1 =>
    let q : Path := { p with parts := p.parts.take (n + 1) }
    match d.makeDirectory q with
    | .ok d => (d, none)
    | .error .noEntry =>
      match d.makeDirectories p n with
      | (d, some e) => (d, some e)
      | (d, none) =>
        match d.makeDirectory q with
        | .ok d => (d, none)
        | .error fault =>
          if d.isDirectory q then (d, none) else (d, some ⟨fault, q.toText, none⟩)
    | .error fault => if d.isDirectory q then (d, none) else (d, some ⟨fault, q.toText, none⟩)

/-- Sets the permissions of what stands at a location. -/
def restrict (d : Disk) (l : Location) (mode : Nat) : Disk :=
  match d.node? l with
  | some (.file c _) => d.put l (.file c mode)
  | some (.directory _) => d.put l (.directory mode)
  | none => d

/-! ### Setting up and inspecting

What one does who sets up a file system and looks at it afterwards. The program itself does none of
this.
-/

/-- Puts a file in place, with the directories above it. -/
def install (d : Disk) (p : Path) (n : Node) : Disk :=
  let d := (d.makeDirectories p.parent p.parent.parts.length).1
  match d.locatePath p with
  | .ok l => d.put l n
  | .error _ => d

/-- Removes the file at a path. -/
def remove (d : Disk) (p : Path) : Except FileError Disk :=
  match d.locatePath p, d.lookup p with
  | .ok l, .ok (.file ..) => .ok (d.erase l)
  | _, .ok (.directory _) => .error ⟨.isADirectory, p.toText, none⟩
  | _, .error fault => .error ⟨fault, p.toText, none⟩
  | .error fault, _ => .error ⟨fault, p.toText, none⟩

/-- The permissions of what stands at a path. -/
def mode (d : Disk) (p : Path) : Except FileError Nat :=
  match d.lookup p with
  | .ok (.file _ m) | .ok (.directory m) => .ok m
  | .error fault => .error ⟨fault, p.toText, none⟩

/-- The path of an entry from the working directory, if it stands below that. The path of a
directory ends in a slash. -/
def listed? (d : Disk) (l : Location) (n : Node) : Option Text :=
  if d.workingDirectory.isPrefixOf l ∧ l ≠ d.workingDirectory then
    some (Text.join ['/'] (l.drop d.workingDirectory.length)
      ++ (match n with | .directory _ => ['/'] | .file .. => []))
  else none

/-- The paths of all entries below the working directory, sorted. -/
def listing (d : Disk) : List Text :=
  (d.entries.filterMap fun e => d.listed? e.1 e.2).mergeSort Text.notAfter

end Disk

end SqlAssist
