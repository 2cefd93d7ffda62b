import SqlAssist.Store.JsonFile

/-!
# What a reader finds at a path

Nothing, a directory, a document, something else than a document: `found` tells apart what can
stand at a path for a reader of JSON files, whatever the disk is, and `read_of_...` is what the
lenient reader makes of it.
-/

namespace SqlAssist

variable {d : Disk} {p : Path} {bytes : Bytes} {mode : Nat} {fault : ContentFault} {v : Json.Value}

/-! ### Operations one after the other -/

namespace Report

variable {α β : Type} {r : Report α} {f : α → Report β} {a : α} {b : β}

theorem result_bind (h : r.result = .ok a) : (r >>= f).result = (f a).result := by
  change (Report.bind r f).result = _
  rw [Report.bind, h]

theorem exists_of_bind_eq_ok (h : (r >>= f).result = .ok b) :
    ∃ a, r.result = .ok a ∧ (f a).result = .ok b := by
  cases hr : r.result with
  | error e =>
    change (Report.bind r f).result = .ok b at h
    rw [Report.bind, hr] at h
    cases h
  | ok a => exact ⟨a, rfl, (result_bind hr).symm.trans h⟩

end Report

/-! ### Lookups -/

namespace Disk

theorem read_of_file (h : d.lookup p = .ok (.file bytes mode)) : d.read p = .ok bytes := by
  rw [read, h]
  rfl

theorem read_of_directory (h : d.lookup p = .ok (.directory mode)) :
    d.read p = .error ⟨.isADirectory, p.toText, none⟩ := by
  rw [read, h]
  rfl

theorem read_of_fault {e : FileFault} (h : d.lookup p = .error e) :
    d.read p = .error ⟨e, p.toText, none⟩ := by
  rw [read, h]
  rfl

theorem isDirectory_iff : d.isDirectory p = true ↔ ∃ mode, d.lookup p = .ok (.directory mode) := by
  rw [isDirectory]
  constructor
  · intro h
    split at h
    next mode hmode => exact ⟨mode, hmode⟩
    · cases h
  · rintro ⟨mode, h⟩
    rw [h]

theorem read_eq_ok_iff : d.read p = .ok bytes ↔ ∃ mode, d.lookup p = .ok (.file bytes mode) := by
  constructor
  · intro h
    cases hnode : d.lookup p with
    | error e =>
      rw [read_of_fault hnode] at h
      cases h
    | ok n =>
      cases n with
      | directory mode =>
        rw [read_of_directory hnode] at h
        cases h
      | file contents mode =>
        rw [read_of_file hnode] at h
        obtain rfl := Except.ok.inj h
        exact ⟨mode, rfl⟩
  · rintro ⟨mode, h⟩
    exact read_of_file h

theorem holds_of_node {n : Node} (h : d.lookup p = .ok n) : d.holds p = .ok true := by
  rw [holds, h]

/-- A path that leads nowhere holds nothing, unless it is too long to be asked about. -/
theorem holds_eq_false_iff :
    d.holds p = .ok false ↔ ∃ e, d.lookup p = .error e ∧ e ≠ .nameTooLong := by
  constructor
  · intro h
    cases hnode : d.lookup p with
    | ok n =>
      rw [holds_of_node hnode] at h
      cases h
    | error e =>
      refine ⟨e, rfl, ?_⟩
      rintro rfl
      rw [holds, hnode] at h
      cases h
  · rintro ⟨e, h, hne⟩
    rw [holds, h]
    cases e with
    | nameTooLong => exact absurd rfl hne
    | _ => rfl

end Disk

namespace JsonFile

/-- The document is beyond the limits of the reader. -/
def IsBeyond : ContentFault → Prop
  | .json _ ⟨.beyond _, _⟩ => True
  | _ => False

theorem exists_orBeyond (h : IsBeyond fault) :
    ∃ limit, ∀ {α : Type} (other : Report α), orBeyond fault other = .fail (.beyond limit) := by
  rw [IsBeyond.eq_def] at h
  split at h
  next limit _ => exact ⟨limit, fun _ => rfl⟩
  · cases h

theorem orBeyond_of_not_isBeyond (h : ¬ IsBeyond fault) {α : Type} (other : Report α) :
    orBeyond fault other = other := by
  rw [orBeyond.eq_def]
  split
  · exact absurd trivial h
  · rfl

/-- What a reader of JSON files can find at a path. -/
inductive Found (d : Disk) (p : Path) : Prop where
  /-- The path is too long to be asked about. -/
  | tooLong (h : d.lookup p = .error .nameTooLong)
  /-- The path leads nowhere. -/
  | nothing (e : FileFault) (h : d.lookup p = .error e) (he : e ≠ .nameTooLong)
  /-- A directory. -/
  | directory (mode : Nat) (h : d.lookup p = .ok (.directory mode))
  /-- A file that holds a document. -/
  | document (bytes : Bytes) (v : Json.Value) (h : d.read p = .ok bytes) (hv : decode bytes = .ok v)
  /-- A file that holds no document. -/
  | noDocument (bytes : Bytes) (fault : ContentFault) (h : d.read p = .ok bytes)
      (hfault : decode bytes = .error fault) (hlimit : ¬ IsBeyond fault)
  /-- A file that holds a document beyond the limits of the reader. -/
  | beyond (bytes : Bytes) (fault : ContentFault) (h : d.read p = .ok bytes)
      (hfault : decode bytes = .error fault) (hlimit : IsBeyond fault)

theorem found (d : Disk) (p : Path) : Found d p := by
  cases hnode : d.lookup p with
  | error e =>
    by_cases he : e = .nameTooLong
    · exact .tooLong (he ▸ hnode)
    · exact .nothing e hnode he
  | ok n =>
    cases n with
    | directory mode => exact .directory mode hnode
    | file bytes mode =>
      have hread := Disk.read_of_file hnode
      cases hdecode : decode bytes with
      | ok v => exact .document bytes v hread hdecode
      | error fault =>
        by_cases hlimit : IsBeyond fault
        · exact .beyond bytes fault hread hdecode hlimit
        · exact .noDocument bytes fault hread hdecode hlimit

/-! ### The lenient reader -/

theorem read_of_tooLong (h : d.lookup p = .error .nameTooLong) :
    read d p = .fail (.file ⟨.nameTooLong, p.toText, none⟩) := by
  have hholds : d.holds p = .error ⟨.nameTooLong, p.toText, none⟩ := by rw [Disk.holds, h]
  simp only [read, hholds]
  rfl

theorem read_of_holds_eq_false (h : d.holds p = .ok false) : read d p = .pure .null := by
  simp only [read, h]
  rfl

theorem holds_of_read (h : d.read p = .ok bytes) : d.holds p = .ok true := by
  obtain ⟨mode, hnode⟩ := Disk.read_eq_ok_iff.mp h
  exact Disk.holds_of_node hnode

theorem read_of_directory (h : d.lookup p = .ok (.directory mode)) :
    read d p = .fail (.file ⟨.isADirectory, p.toText, none⟩) := by
  simp only [read, Disk.holds_of_node h, Disk.read_of_directory h]
  rfl

theorem read_of_document (h : d.read p = .ok bytes) (hv : decode bytes = .ok v) :
    read d p = .pure v := by
  simp only [read, holds_of_read h, h, hv]
  rfl

/-- What is no document counts as null, with a warning. -/
theorem read_of_noDocument (h : d.read p = .ok bytes) (hfault : decode bytes = .error fault)
    (hlimit : ¬ IsBeyond fault) : read d p = ⟨[unreadable p fault], .ok .null⟩ := by
  simp only [read, holds_of_read h, h, hfault, orBeyond_of_not_isBeyond hlimit]
  rfl

theorem read_of_beyond (h : d.read p = .ok bytes) (hfault : decode bytes = .error fault)
    (hlimit : IsBeyond fault) : ∃ limit, read d p = .fail (.beyond limit) := by
  obtain ⟨limit, hother⟩ := exists_orBeyond hlimit
  refine ⟨limit, ?_⟩
  simp only [read, holds_of_read h, h, hfault, hother]
  rfl

end JsonFile

end SqlAssist
