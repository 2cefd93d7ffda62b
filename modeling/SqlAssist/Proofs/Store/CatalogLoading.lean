import SqlAssist.Proofs.Store.FoundFile
import SqlAssist.Store.CatalogFile

/-!
# How the loading of a catalog ends

The two ways to load a catalog are followed through everything that can stand at its path
(`JsonFile.found`), and **`loading_outcome`** says how they end. The lenient one takes everything for
some catalog but a directory, a path that is too long and a document beyond the limits of the
reader. The strict one gives a catalog or refuses what is there, but for a directory, a path that is
wrong in another way than leading to nothing, and a document beyond those limits.
-/

namespace SqlAssist.CatalogFile

open JsonFile

variable {d : Disk} {p : Path}

/-- A file at the path holds something else than a document. -/
def HoldsNoDocument (d : Disk) (p : Path) : Prop :=
  ∃ bytes fault, d.read p = .ok bytes ∧ decode bytes = .error fault ∧ ¬ IsBeyond fault

/-- A file at the path holds a document that is beyond the limits of the reader. -/
def HoldsBeyond (d : Disk) (p : Path) : Prop :=
  ∃ bytes fault, d.read p = .ok bytes ∧ decode bytes = .error fault ∧ IsBeyond fault

/-- The strict loader gives a configuration or refuses the catalog. -/
def IsAnswered (p : Path) (r : Report Configuration) : Prop :=
  (∃ c, r.result = .ok c) ∨ ∃ fault, r.result = .error (.catalog p fault)

/-! ### The lenient loader -/

theorem load_of_read {v : Json.Value} {notes : List Note} (defaultType : Text)
    (h : JsonFile.read d p = ⟨notes, .ok v⟩) :
    (load d p defaultType).result = .ok (Document.read defaultType v) := by
  cases v <;> simp only [load, h] <;> rfl

theorem load_of_read_fail {e : Failure} (defaultType : Text) (h : JsonFile.read d p = .fail e) :
    (load d p defaultType).result = .error e := by
  simp only [load, h]
  rfl

/-- Where there is nothing or no document, the catalog is empty. -/
theorem load_eq_empty (defaultType : Text) (h : d.holds p = .ok false ∨ HoldsNoDocument d p) :
    (load d p defaultType).result = .ok { databaseType := defaultType } := by
  rcases h with h | ⟨bytes, fault, hread, hfault, hlimit⟩
  · exact load_of_read defaultType (read_of_holds_eq_false h)
  · exact load_of_read defaultType (read_of_noDocument hread hfault hlimit)

theorem exists_load_iff (d : Disk) (p : Path) (defaultType : Text) :
    (∃ c, (load d p defaultType).result = .ok c) ↔
      ¬ (d.isDirectory p = true ∨ d.lookup p = .error .nameTooLong ∨ HoldsBeyond d p) := by
  constructor
  · rintro ⟨c, hc⟩ (hdirectory | hlong | ⟨bytes, fault, hread, hfault, hlimit⟩)
    · obtain ⟨mode, hnode⟩ := Disk.isDirectory_iff.mp hdirectory
      cases hc.symm.trans (load_of_read_fail defaultType (read_of_directory hnode))
    · cases hc.symm.trans (load_of_read_fail defaultType (read_of_tooLong hlong))
    · obtain ⟨limit, hfail⟩ := read_of_beyond hread hfault hlimit
      cases hc.symm.trans (load_of_read_fail defaultType hfail)
  · intro hnone
    obtain ⟨hdirectory, hlong, hbeyond⟩ : ¬ d.isDirectory p = true ∧
        ¬ d.lookup p = .error .nameTooLong ∧ ¬ HoldsBeyond d p := by
      rwa [not_or, not_or] at hnone
    cases found d p with
    | tooLong h => exact absurd h hlong
    | nothing e h he =>
      exact ⟨_, load_eq_empty defaultType (Or.inl (Disk.holds_eq_false_iff.mpr ⟨e, h, he⟩))⟩
    | directory mode h => exact absurd (Disk.isDirectory_iff.mpr ⟨mode, h⟩) hdirectory
    | document bytes v h hv => exact ⟨_, load_of_read defaultType (read_of_document h hv)⟩
    | noDocument bytes fault h hfault hlimit =>
      exact ⟨_, load_eq_empty defaultType (Or.inr ⟨bytes, fault, h, hfault, hlimit⟩)⟩
    | beyond bytes fault h hfault hlimit => exact absurd ⟨bytes, fault, h, hfault, hlimit⟩ hbeyond

/-! ### The strict loader -/

theorem loadStrict_of_fault {e : FileError} (defaultType : Text) (h : d.read p = .error e)
    (he : e.fault ≠ .noEntry) : loadStrict d p defaultType = .fail (.file e) := by
  simp only [loadStrict, h, if_neg he]

theorem loadStrict_of_noEntry (defaultType : Text) (h : d.lookup p = .error .noEntry) :
    loadStrict d p defaultType = .fail (.catalog p .missing) := by
  simp only [loadStrict, Disk.read_of_fault h]
  rfl

theorem isAnswered_of_document {bytes : Bytes} {v : Json.Value} (defaultType : Text)
    (h : d.read p = .ok bytes) (hv : decode bytes = .ok v) :
    IsAnswered p (loadStrict d p defaultType) := by
  simp only [loadStrict, h, hv]
  cases hstrict : Document.readStrict defaultType v with
  | ok c => exact Or.inl ⟨c, rfl⟩
  | error defect => exact Or.inr ⟨.defect defect, rfl⟩

theorem not_isAnswered_fail {e : Failure} (he : ∀ fault, e ≠ .catalog p fault) :
    ¬ IsAnswered p (.fail e) := by
  rintro (⟨c, hc⟩ | ⟨fault, hfault⟩)
  · cases hc
  · exact he fault (Except.error.inj hfault)

theorem isAnswered_loadStrict_iff (d : Disk) (p : Path) (defaultType : Text) :
    IsAnswered p (loadStrict d p defaultType) ↔
      ¬ (d.isDirectory p = true ∨ (∃ e, d.lookup p = .error e ∧ e ≠ .noEntry) ∨
        HoldsBeyond d p) := by
  constructor
  · rintro h (hdirectory | ⟨e, hnode, he⟩ | ⟨bytes, fault, hread, hfault, hlimit⟩)
    · obtain ⟨mode, hnode⟩ := Disk.isDirectory_iff.mp hdirectory
      rw [loadStrict_of_fault defaultType (Disk.read_of_directory hnode) (by nofun)] at h
      exact not_isAnswered_fail (fun fault => by simp) h
    · rw [loadStrict_of_fault defaultType (Disk.read_of_fault hnode) he] at h
      exact not_isAnswered_fail (fun fault => by simp) h
    · obtain ⟨limit, hother⟩ := exists_orBeyond hlimit
      simp only [loadStrict, hread, hfault, hother] at h
      exact not_isAnswered_fail (fun fault => by simp) h
  · intro hnone
    obtain ⟨hdirectory, hfaults, hbeyond⟩ : ¬ d.isDirectory p = true ∧
        ¬ (∃ e, d.lookup p = .error e ∧ e ≠ .noEntry) ∧ ¬ HoldsBeyond d p := by
      rwa [not_or, not_or] at hnone
    cases found d p with
    | tooLong h => exact absurd ⟨_, h, by decide⟩ hfaults
    | nothing e h he =>
      by_cases hmissing : e = .noEntry
      · rw [loadStrict_of_noEntry defaultType (hmissing ▸ h)]
        exact Or.inr ⟨_, rfl⟩
      · exact absurd ⟨e, h, hmissing⟩ hfaults
    | directory mode h => exact absurd (Disk.isDirectory_iff.mpr ⟨mode, h⟩) hdirectory
    | document bytes v h hv => exact isAnswered_of_document defaultType h hv
    | noDocument bytes fault h hfault hlimit =>
      simp only [loadStrict, h, hfault, orBeyond_of_not_isBeyond hlimit]
      exact Or.inr ⟨_, rfl⟩
    | beyond bytes fault h hfault hlimit => exact absurd ⟨bytes, fault, h, hfault, hlimit⟩ hbeyond

/-! ### Both -/

/-- **How loading ends**, whatever is at the path: with some configuration, the empty one where
there is nothing or no document, and strictly with a configuration or a refusal. The exceptions are
directories, paths that cannot be followed and documents beyond the limits of the reader. -/
theorem loading_outcome (d : Disk) (p : Path) (defaultType : Text) :
    ((∃ c, (load d p defaultType).result = .ok c) ↔
      ¬ (d.isDirectory p = true ∨ d.lookup p = .error .nameTooLong ∨ HoldsBeyond d p)) ∧
    (d.holds p = .ok false ∨ HoldsNoDocument d p →
      (load d p defaultType).result = .ok { databaseType := defaultType }) ∧
    (IsAnswered p (loadStrict d p defaultType) ↔
      ¬ (d.isDirectory p = true ∨ (∃ e, d.lookup p = .error e ∧ e ≠ .noEntry) ∨
        HoldsBeyond d p)) :=
  ⟨exists_load_iff d p defaultType, load_eq_empty defaultType,
    isAnswered_loadStrict_iff d p defaultType⟩

/-- A directory at the path of the catalog fails both loaders, and a path through a file the strict
one. -/
theorem loading_fails_at_directory :
    let d : Disk := { entries := [(["catalog".toList], .directory 0o755),
      (["notes".toList], .file [] 0o644)] }
    let p : Path := ⟨[], ["catalog".toList]⟩
    let q : Path := ⟨[], ["notes".toList, "catalog".toList]⟩
    (¬ ∃ c, (load d p "oracle".toList).result = .ok c) ∧
      ¬ IsAnswered p (loadStrict d p "oracle".toList) ∧
      ¬ IsAnswered q (loadStrict d q "oracle".toList) := by
  intro d p q
  have hdirectory : d.isDirectory p = true := by decide
  have hfault : d.lookup q = .error .notADirectory := rfl
  refine ⟨fun h => ?_, fun h => ?_, fun h => ?_⟩
  · exact (exists_load_iff d p _).mp h (Or.inl hdirectory)
  · exact (isAnswered_loadStrict_iff d p _).mp h (Or.inl hdirectory)
  · exact (isAnswered_loadStrict_iff d q _).mp h (Or.inr (Or.inl ⟨_, hfault, by decide⟩))

end SqlAssist.CatalogFile
