import SqlAssist.Catalog.Document
import SqlAssist.Json.Reader
import SqlAssist.Store.Disk

/-!
# Reports

An operation on stores can leave notes, and it can fail. A report holds both: the notes that were
left, in order, and the result or the failure.
-/

namespace SqlAssist

/-- How much a note matters. -/
inductive NoteLevel where
  /-- It helps to follow decisions. -/
  | debug
  /-- It tells of something that was ignored. -/
  | warning
  deriving DecidableEq, Repr

/-- The name of a level. -/
def NoteLevel.name : NoteLevel → String
  | debug => "DEBUG"
  | warning => "WARNING"

/-- The part of the program that leaves a note. -/
inductive NoteSource where
  /-- The reading of JSON files. -/
  | jsonFile
  /-- The loading of catalogs. -/
  | catalogFile
  /-- The building of catalog indexes. -/
  | catalogIndex
  /-- The answering of requests. -/
  | completion
  /-- The command line. -/
  | commandLine
  deriving DecidableEq, Repr

/-- A note. -/
structure Note where
  /-- How much it matters. -/
  level : NoteLevel
  /-- What left it. -/
  source : NoteSource
  /-- Its words. -/
  message : Text
  deriving DecidableEq, Repr

/-- Why a document cannot be used. -/
inductive ContentFault where
  /-- It is no UTF-8. -/
  | encoding (fault : Utf8.Fault)
  /-- It is no JSON. -/
  | json (document : Text) (error : Json.ReadError)
  deriving DecidableEq, Repr

/-- The words for why a document cannot be used. -/
def ContentFault.message : ContentFault → Text
  | encoding fault => fault.message
  | json document error => error.message document

/-- Why a catalog cannot be loaded. -/
inductive CatalogFault where
  /-- There is no such file. -/
  | missing
  /-- It is no JSON. -/
  | content (fault : ContentFault)
  /-- It has a defect. -/
  | defect (d : Defect)

/-- The words for why a catalog cannot be loaded. -/
def CatalogFault.message : CatalogFault → Text
  | missing => "catalog file not found".toList
  | content fault => "invalid JSON: ".toList ++ fault.message
  | defect d => d.message

/-- Why an operation fails. -/
inductive Failure where
  /-- A file operation failed. -/
  | file (e : FileError)
  /-- A text is no UTF-8. -/
  | encoding (fault : Utf8.Fault)
  /-- A document is beyond the limits of the reader. -/
  | beyond (limit : Json.Limit)
  /-- A catalog is refused. -/
  | catalog (path : Path) (fault : CatalogFault)
  /-- A path leads from a home directory that is not known. -/
  | unknownHome
  /-- The cursor is outside the text. -/
  | cursor (offset : Int) (length : Nat)

/-- The words for a failure. -/
def Failure.message : Failure → Text
  | file e => e.message
  | encoding fault => fault.message
  | beyond limit => limit.message.toList
  | catalog path fault => path.toText ++ ": ".toList ++ fault.message
  | unknownHome => "Could not determine home directory.".toList
  | cursor offset length =>
    "cursor ".toList ++ Text.ofInt offset ++ " is outside the text (0-".toList ++ Text.ofNat length
      ++ [')']

/-- What an operation did: its notes, then its result or its failure. -/
structure Report (α : Type) where
  /-- The notes that were left. -/
  notes : List Note := []
  /-- The result or the failure. -/
  result : Except Failure α

namespace Report

/-- A report of success without notes. -/
def pure {α : Type} (a : α) : Report α :=
  ⟨[], .ok a⟩

/-- A report of failure without notes. -/
def fail {α : Type} (e : Failure) : Report α :=
  ⟨[], .error e⟩

/-- Goes on with the result; a failure ends the operation. The notes of both parts are kept. -/
def bind {α β : Type} (r : Report α) (f : α → Report β) : Report β :=
  match r.result with
  | .ok a => ⟨r.notes ++ (f a).notes, (f a).result⟩
  | .error e => ⟨r.notes, .error e⟩

instance : Monad Report where
  pure := Report.pure
  bind := Report.bind

/-- Leaves notes. -/
def tell (notes : List Note) : Report Unit :=
  ⟨notes, .ok ()⟩

/-- Leaves a note that helps to follow decisions. -/
def debug (source : NoteSource) (message : Text) : Report Unit :=
  tell [⟨.debug, source, message⟩]

/-- The result of something that fails without one. -/
def ofOption {α : Type} (e : Failure) : Option α → Report α
  | some a => .pure a
  | none => .fail e

/-- The result of something that may fail. -/
def ofExcept {ε α : Type} (f : ε → Failure) (e : Except ε α) : Report α :=
  ⟨[], e.mapError f⟩

end Report

end SqlAssist
