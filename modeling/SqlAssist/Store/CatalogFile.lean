import SqlAssist.Store.Settings

/-!
# Catalog files

A catalog is loaded from a JSON file. A lenient reader takes the empty catalog for one that is
missing or cannot be read; a strict one refuses it, and refuses defects as well.
-/

namespace SqlAssist.CatalogFile

/-- Loads a catalog; what cannot be read counts as empty. -/
def load (d : Disk) (p : Path) (defaultType : Text) : Report Configuration := do
  match ← JsonFile.read d p with
  | .null => do
    Report.debug .catalogFile
      ("No catalog at ".toList ++ p.toText ++ ", using an empty catalog".toList)
    pure { databaseType := defaultType }
  | v => pure (Document.read defaultType v)

/-- Loads a catalog that has to be there and to be without defects. -/
def loadStrict (d : Disk) (p : Path) (defaultType : Text) : Report Configuration :=
  match d.read p with
  | .error e =>
    if e.fault = .noEntry then .fail (.catalog p .missing) else .fail (.file e)
  | .ok bytes =>
    match JsonFile.decode bytes with
    | .error fault => JsonFile.orBeyond fault (.fail (.catalog p (.content fault)))
    | .ok v =>
      .ofExcept (fun defect => .catalog p (.defect defect)) (Document.readStrict defaultType v)

/-- Saves a catalog. -/
def save (d : Disk) (p : Path) (c : Configuration) : Disk × Report Unit :=
  match JsonFile.save none d p (Document.write c) with
  | (d, none) => (d, .pure ())
  | (d, some e) => (d, .fail (.file e))

/-- The given path or, without one, the path of the catalog that the settings name. -/
def pathOr (site : Site) (d : Disk) (path : Option Path) : Report Path :=
  match path with
  | some p => .pure p
  | none => do Settings.catalogPath site d (← site.settingsPath)

/-- Loads the catalog at a path or, without one, the catalog that the settings name. The settings
also give the type of the database where the catalog does not. -/
def loadConfigured (site : Site) (d : Disk) (path : Option Path) (strict : Bool) :
    Report Configuration := do
  let settings ← site.settingsPath
  let p ← pathOr site d path
  let defaultType ← Settings.databaseType d settings
  if strict then loadStrict d p defaultType else load d p defaultType

/-- Saves the catalog to a path or, without one, to the catalog file that the settings name. -/
def saveConfigured (site : Site) (d : Disk) (path : Option Path) (c : Configuration) :
    Disk × Report Unit :=
  let found := pathOr site d path
  match found.result with
  | .error e => (d, ⟨found.notes, .error e⟩)
  | .ok p =>
    let (d, saved) := save d p c
    (d, ⟨found.notes ++ saved.notes, saved.result⟩)

end SqlAssist.CatalogFile
