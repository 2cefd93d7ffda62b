import SqlAssist.Proofs.Store.SavedFile

/-!
# Saving is all or nothing

Any step of saving can fail, and what is on the disk by then hangs on the device: which directories
have been made, what the temporary file is called, and what has been written to it. A `Device` makes
all these choices, and `JsonFile.saveOn` saves by them. Saving with an outage or without one is saving
on one of these devices (`JsonFile.save_eq_saveOn`).

**`JsonFile.save_atomic`** says what a reader finds afterwards. If saving fails, files stand where
files stood, with what they held, so no temporary file is left either; if it succeeds, the document
is at the path and all other files are as they were. Directories are not taken back: those made
for the file stay. Nor are permissions when saving fails, if the directory of the path is no directory
at all, as a working directory that is a file.

Between the steps only what stands at the location of the temporary file changes (`Disk.OnlyAt`).
-/

namespace SqlAssist

namespace Disk

variable {d d' d'' : Disk} {l m : Location} {p : Path} {bytes : Bytes} {mode : Nat}

/-! ### Files -/

/-- The contents and the permissions of the file at a location. -/
def fileAt? (d : Disk) (l : Location) : Option (Bytes × Nat) :=
  match d.node? l with
  | some (.file contents mode) => some (contents, mode)
  | _ => none

/-- The contents of the file at a location. -/
def contentsAt? (d : Disk) (l : Location) : Option Bytes :=
  (d.fileAt? l).map (·.1)

/-- The same files stand at the same locations. -/
def SameFiles (d d' : Disk) : Prop :=
  ∀ l, d'.fileAt? l = d.fileAt? l

/-- Files with the same contents stand at the same locations. -/
def SameContents (d d' : Disk) : Prop :=
  ∀ l, d'.contentsAt? l = d.contentsAt? l

theorem fileAt?_congr (h : d'.node? l = d.node? l) : d'.fileAt? l = d.fileAt? l := by
  rw [fileAt?, fileAt?, h]

theorem fileAt?_of_file (h : d.node? l = some (.file bytes mode)) :
    d.fileAt? l = some (bytes, mode) := by
  rw [fileAt?, h]

theorem fileAt?_of_directory (h : d.IsDirectoryAt l) : d.fileAt? l = none := by
  obtain ⟨mode, h⟩ := h
  rw [fileAt?, h]

theorem fileAt?_of_none (h : d.node? l = none) : d.fileAt? l = none := by
  rw [fileAt?, h]

theorem SameFiles.trans (h : SameFiles d d') (h' : SameFiles d' d'') : SameFiles d d'' :=
  fun l => (h' l).trans (h l)

theorem SameFiles.sameContents (h : SameFiles d d') : SameContents d d' := fun l => by
  rw [contentsAt?, contentsAt?, h l]

theorem SameContents.trans (h : SameContents d d') (h' : SameContents d' d'') : SameContents d d'' :=
  fun l => (h' l).trans (h l)

theorem isDirectoryAt_put_directory (d : Disk) (l : Location) (mode : Nat) :
    (d.put l (.directory mode)).IsDirectoryAt l := by
  by_cases hl : l = []
  · rw [hl]
    exact isDirectoryAt_nil _
  · exact ⟨mode, node?_put_self hl⟩

/-- Putting a directory where no file stands changes no file. -/
theorem sameFiles_put_directory (h : d.fileAt? l = none) (mode : Nat) :
    SameFiles d (d.put l (.directory mode)) := by
  intro m
  by_cases hm : l = m
  · rw [← hm, h]
    exact fileAt?_of_directory (isDirectoryAt_put_directory d l mode)
  · exact fileAt?_congr (node?_put_of_ne hm)

theorem sameFiles_restrict (h : d.IsDirectoryAt l) (mode : Nat) : SameFiles d (d.restrict l mode) := by
  obtain ⟨mode', hl⟩ := h
  rw [restrict, hl]
  exact sameFiles_put_directory (fileAt?_of_directory ⟨mode', hl⟩) mode

theorem sameContents_restrict (d : Disk) (l : Location) (mode : Nat) :
    SameContents d (d.restrict l mode) := by
  by_cases hdirectory : d.IsDirectoryAt l
  · exact (sameFiles_restrict hdirectory mode).sameContents
  · intro m
    rw [restrict]
    cases hl : d.node? l with
    | none => rfl
    | some n =>
      cases n with
      | directory mode' => exact absurd ⟨mode', hl⟩ hdirectory
      | file bytes mode' =>
        by_cases hm : l = m
        · rw [← hm, contentsAt?, contentsAt?, fileAt?_of_file hl, fileAt?_of_file
            (node?_put_self (ne_nil_of_not_isDirectoryAt hdirectory))]
          rfl
        · rw [contentsAt?, contentsAt?, fileAt?_congr (node?_put_of_ne hm)]

/-- Nothing but the permissions at the location may have changed. -/
structure OnlyRestricted (l : Location) (d d' : Disk) : Prop where
  /-- Files with the same contents stand at the same locations. -/
  sameContents : SameContents d d'
  /-- Directories stand where they stood. -/
  sameDirectories : SameDirectories d d'
  /-- Not even the permissions of a file have changed if a directory stands there. -/
  sameFiles : d.IsDirectoryAt l → SameFiles d d'

theorem OnlyRestricted.refl (l : Location) (d : Disk) : OnlyRestricted l d d where
  sameContents _ := rfl
  sameDirectories := ⟨rfl, fun _ => Iff.rfl⟩
  sameFiles _ _ := rfl

theorem OnlyRestricted.restrict (d : Disk) (l : Location) (mode : Nat) :
    OnlyRestricted l d (d.restrict l mode) where
  sameContents := sameContents_restrict d l mode
  sameDirectories := sameDirectories_restrict d l mode
  sameFiles h := sameFiles_restrict h mode

theorem sameFiles_makeDirectory (h : d.makeDirectory p = .ok d') : SameFiles d d' := by
  rw [makeDirectory] at h
  cases hp : d.locatePath p with
  | error fault =>
    rw [hp] at h
    cases h
  | ok l =>
    rw [hp] at h
    simp only [bind, Except.bind] at h
    cases hl : d.node? l with
    | some n =>
      rw [hl] at h
      cases h
    | none =>
      rw [hl] at h
      obtain rfl := Except.ok.inj h
      exact sameFiles_put_directory (fileAt?_of_none hl) 0o755

/-- Making directories changes no file, however far it comes. -/
theorem sameFiles_makeDirectories (d : Disk) (p : Path) (n : Nat) :
    SameFiles d (d.makeDirectories p n).1 := by
  induction n with
  | zero => exact fun _ => rfl
  | succ n ih =>
    rw [makeDirectories]
    split
    next made hmade => exact sameFiles_makeDirectory hmade
    · split
      next made e hmade =>
        rw [hmade] at ih
        exact ih
      next made hmade =>
        rw [hmade] at ih
        split
        next made' hmade' => exact ih.trans (sameFiles_makeDirectory hmade')
        · split_ifs <;> exact ih
    · split_ifs <;> exact fun _ => rfl

/-! ### Changes at one location -/

/-- Nothing but what stands at the location may have changed. -/
structure OnlyAt (l : Location) (d d' : Disk) : Prop where
  /-- Relative paths start alike. -/
  workingDirectory : d'.workingDirectory = d.workingDirectory
  /-- The same stands at any other location. -/
  node? : ∀ m, l ≠ m → d'.node? m = d.node? m

namespace OnlyAt

theorem trans (h : OnlyAt l d d') (h' : OnlyAt l d' d'') : OnlyAt l d d'' where
  workingDirectory := h'.workingDirectory.trans h.workingDirectory
  node? m hm := (h'.node? m hm).trans (h.node? m hm)

theorem put (d : Disk) (l : Location) (n : Node) : OnlyAt l d (d.put l n) where
  workingDirectory := workingDirectory_put d l n
  node? _ hm := node?_put_of_ne hm

theorem erase (d : Disk) (l : Location) : OnlyAt l d (d.erase l) where
  workingDirectory := rfl
  node? _ hm := node?_erase_of_ne hm

theorem restrict (d : Disk) (l : Location) (mode : Nat) : OnlyAt l d (d.restrict l mode) := by
  rw [Disk.restrict]
  split
  · exact put d l _
  · exact put d l _
  · exact ⟨rfl, fun _ _ => rfl⟩

/-- What was put where nothing stood is taken away again without a trace. -/
theorem sameFiles_erase (h : OnlyAt l d d') (hl : l ≠ []) (hnew : d.node? l = none) :
    SameFiles d (d'.erase l) := by
  intro m
  refine fileAt?_congr ?_
  by_cases hm : l = m
  · rw [← hm, hnew, node?_erase_self hl]
  · exact (h.trans (erase d' l)).node? m hm

theorem sameDirectories (h : OnlyAt l d d') (hd : ¬ d.IsDirectoryAt l) (hd' : ¬ d'.IsDirectoryAt l) :
    SameDirectories d d' :=
  .of_forall_ne h.workingDirectory h.node? hd hd'

end OnlyAt

end Disk

/-! ### Saving on a device -/

namespace JsonFile

/-- What a device does when a file is saved. -/
structure Device where
  /-- The name of a temporary file in the directory at a location. -/
  temporaryName : Disk → Location → Text
  /-- The name is new there. -/
  isNew : ∀ (d : Disk) (l : Location), d.node? (l ++ [temporaryName d l]) = none
  /-- Why a step fails, if it does. -/
  fault? : Step → Option FileFault
  /-- How many parts of the path have a directory if making the directories fails. -/
  directories : Nat
  /-- The permissions of the directory can be set. -/
  restricts : Bool
  /-- What of the bytes is in the temporary file if writing them fails. -/
  written : Bytes → Bytes

/-- The device that has the outage. -/
def Device.ofOutage (outage : Option Outage) : Device where
  temporaryName d _ := JsonFile.temporaryName d
  isNew := node?_temporaryName
  fault? step := if outage.any (·.step = step) then some .device else none
  directories := 0
  restricts := true
  written bytes := bytes.take ((outage.map (·.written)).getD 0)

/-- Writes, restricts and renames the temporary file at a location. -/
def finishOn (x : Device) (d : Disk) (temporary : Location) (p : Path) (bytes : Bytes) :
    Except (Disk × FileFault) Disk :=
  match x.fault? .write with
  | some fault => .error (d.put temporary (.file (x.written bytes) 0o600), fault)
  | none =>
    let d := d.put temporary (.file bytes 0o600)
    match x.fault? .restrict with
    | some fault => .error (d, fault)
    | none =>
      let d := d.restrict temporary 0o600
      match x.fault? .rename with
      | some fault => .error (d, fault)
      | none => (rename d temporary p).mapError fun fault => (d, fault)

/-- Saves bytes under a path on a device: the disk afterwards and, if a step failed, why. -/
def saveOn (x : Device) (d : Disk) (p : Path) (bytes : Bytes) : Disk × Option FileError :=
  match x.fault? .makeDirectory with
  | some fault =>
    ((d.makeDirectories p.parent x.directories).1, some ⟨fault, p.parent.toText, none⟩)
  | none =>
    match d.makeDirectories p.parent p.parent.parts.length with
    | (d, some e) => (d, some e)
    | (d, none) =>
      match d.locatePath p.parent with
      | .error fault => (d, some ⟨fault, p.parent.toText, none⟩)
      | .ok directory =>
        let d := if x.restricts then d.restrict directory 0o700 else d
        let name := x.temporaryName d directory
        let temporary := directory ++ [name]
        match x.fault? .makeTemporary with
        | some fault => (d, some ⟨fault, p.parent.toText, none⟩)
        | none =>
          match finishOn x (d.put temporary (.file [] 0o600)) temporary p bytes with
          | .ok d => (d, none)
          | .error (d, fault) =>
            (d.erase temporary, some ⟨fault, (p.parent.child name).toText, some p.toText⟩)

theorem save_eq_saveOn (outage : Option Outage) (d : Disk) (p : Path) (v : Json.Value) :
    save outage d p v = saveOn (.ofOutage outage) d p (Utf8.encode v.render) := by
  cases outage with
  | none => rfl
  | some outage =>
    obtain ⟨step, written⟩ := outage
    cases step <;> rfl

/-- Saving has done all of its work or nothing. -/
def IsAllOrNothing (d : Disk) (p : Path) (bytes : Bytes) : Disk × Option FileError → Prop
  | (d', some _) => Disk.SameContents d d'
  | (d', none) => ∃ l, d'.locatePath p = .ok l ∧ d'.fileAt? l = some (bytes, 0o600) ∧
      ∀ m, m ≠ l → d'.fileAt? m = d.fileAt? m

section

variable {x : Device} {d d' made restricted : Disk} {temporary directory : Location} {p : Path}
  {bytes : Bytes} {fault : FileFault}

theorem mapError_eq_ok_iff {ε ε' α : Type} {r : Except ε α} {f : ε → ε'} {a : α} :
    r.mapError f = .ok a ↔ r = .ok a := by
  cases r <;> simp [Except.mapError]

theorem mapError_eq_error_iff {ε ε' α : Type} {r : Except ε α} {f : ε → ε'} {e' : ε'} :
    r.mapError f = .error e' ↔ ∃ e, r = .error e ∧ f e = e' := by
  cases r <;> simp [Except.mapError]

/-- The disk before the renaming: the temporary file holds the bytes. -/
def completed (d : Disk) (temporary : Location) (bytes : Bytes) : Disk :=
  (d.put temporary (.file bytes 0o600)).restrict temporary 0o600

theorem onlyAt_completed (d : Disk) (temporary : Location) (bytes : Bytes) :
    Disk.OnlyAt temporary d (completed d temporary bytes) :=
  (Disk.OnlyAt.put d temporary (.file bytes 0o600)).trans (Disk.OnlyAt.restrict _ temporary 0o600)

theorem node?_completed (htemporary : temporary ≠ []) (d : Disk) (bytes : Bytes) :
    (completed d temporary bytes).node? temporary = some (.file bytes 0o600) := by
  rw [completed, Disk.restrict, Disk.node?_put_self htemporary]
  exact Disk.node?_put_self htemporary

/-- The steps on the temporary file change nothing else if one of them fails. -/
theorem onlyAt_of_finishOn_eq_error (h : finishOn x d temporary p bytes = .error (d', fault)) :
    Disk.OnlyAt temporary d d' := by
  rw [finishOn] at h
  split at h
  · obtain ⟨rfl, -⟩ := Prod.mk.inj (Except.error.inj h)
    exact Disk.OnlyAt.put d temporary _
  · dsimp only at h
    split at h
    · obtain ⟨rfl, -⟩ := Prod.mk.inj (Except.error.inj h)
      exact Disk.OnlyAt.put d temporary _
    · split at h
      · obtain ⟨rfl, -⟩ := Prod.mk.inj (Except.error.inj h)
        exact onlyAt_completed d temporary bytes
      · rw [← completed] at h
        obtain ⟨fault', -, he⟩ := mapError_eq_error_iff.mp h
        obtain ⟨rfl, -⟩ := Prod.mk.inj he
        exact onlyAt_completed d temporary bytes

/-- If they succeed, the temporary file with all the bytes has been renamed. -/
theorem rename_of_finishOn_eq_ok (h : finishOn x d temporary p bytes = .ok d') :
    rename (completed d temporary bytes) temporary p = .ok d' := by
  rw [finishOn] at h
  split at h
  · cases h
  · dsimp only at h
    split at h
    · cases h
    · split at h
      · cases h
      · rw [← completed] at h
        exact mapError_eq_ok_iff.mp h

/-- Where the temporary file was new, it is taken away without a trace. -/
theorem sameFiles_of_finishOn_eq_error (htemporary : temporary ≠ [])
    (hnew : d.node? temporary = none)
    (h : finishOn x (d.put temporary (.file [] 0o600)) temporary p bytes = .error (d', fault)) :
    Disk.SameFiles d (d'.erase temporary) :=
  ((Disk.OnlyAt.put d temporary _).trans (onlyAt_of_finishOn_eq_error h)).sameFiles_erase htemporary
    hnew

/-- Where it was new and in the directory of the path, the file is at the path, and nothing else has
changed. -/
theorem saved_of_finishOn_eq_ok (hmade : Disk.SameDirectories made restricted)
    (hdirectory : made.locatePath p.parent = .ok directory) (htemporary : temporary ≠ [])
    (hnew : restricted.node? temporary = none)
    (h : finishOn x (restricted.put temporary (.file [] 0o600)) temporary p bytes = .ok d') :
    made.IsDirectoryAt directory ∧ ∃ l, d'.locatePath p = .ok l ∧
      d'.fileAt? l = some (bytes, 0o600) ∧ ∀ m, m ≠ l → d'.fileAt? m = restricted.fileAt? m := by
  have hfile := node?_completed htemporary (restricted.put temporary (.file [] 0o600)) bytes
  have honly := (Disk.OnlyAt.put restricted temporary (.file [] 0o600)).trans
    (onlyAt_completed _ temporary bytes)
  have hnone : ¬ restricted.IsDirectoryAt temporary := by
    rintro ⟨mode, hmode⟩
    rw [hnew] at hmode
    cases hmode
  have hcompleted := hmade.trans
    (honly.sameDirectories hnone (Disk.not_isDirectoryAt_of_file hfile))
  obtain ⟨l, hp, rfl⟩ := exists_of_rename_eq_ok (rename_of_finishOn_eq_ok h) hfile
  have hparent := Disk.isDirectoryAt_parent hp.locatePath hp.parts
    (Disk.locatePath_eq_ok hcompleted hdirectory)
  refine ⟨(hcompleted.isDirectoryAt directory).mp hparent, l, ?_, ?_, fun m hm => ?_⟩
  · exact Disk.locatePath_eq_ok (sameDirectories_rename hp hfile) hp.locatePath
  · exact Disk.fileAt?_of_file
      (Disk.node?_put_self (Disk.ne_nil_of_not_isDirectoryAt hp.notDirectory))
  · rw [Disk.fileAt?_congr (Disk.node?_put_of_ne (Ne.symm hm))]
    exact honly.sameFiles_erase htemporary hnew m

theorem isAllOrNothing_saveOn (x : Device) (d : Disk) (p : Path) (bytes : Bytes) :
    IsAllOrNothing d p bytes (saveOn x d p bytes) := by
  rw [saveOn]
  split
  · exact (Disk.sameFiles_makeDirectories d p.parent _).sameContents
  · have hmake := Disk.sameFiles_makeDirectories d p.parent p.parent.parts.length
    split
    next made e h =>
      rw [h] at hmake
      exact hmake.sameContents
    next made h =>
      rw [h] at hmake
      split
      · exact hmake.sameContents
      next directory hdirectory =>
        dsimp only
        generalize hrestricted :
          (if x.restricts then made.restrict directory 0o700 else made) = restricted
        have hmode : Disk.OnlyRestricted directory made restricted := by
          rw [← hrestricted]
          split_ifs
          · exact .restrict made directory 0o700
          · exact .refl directory made
        have hnew := x.isNew restricted directory
        have htemporary : directory ++ [x.temporaryName restricted directory] ≠ [] :=
          List.append_ne_nil_of_right_ne_nil _ (List.cons_ne_nil _ _)
        split
        · exact hmake.sameContents.trans hmode.sameContents
        · split
          next d' hfinish =>
            obtain ⟨hthere, l, hl, hfile, hothers⟩ :=
              saved_of_finishOn_eq_ok hmode.sameDirectories hdirectory htemporary hnew hfinish
            have hfiles := hmake.trans (hmode.sameFiles hthere)
            exact ⟨l, hl, hfile, fun m hm => (hothers m hm).trans (hfiles m)⟩
          next d' fault hfinish =>
            exact (hmake.sameContents.trans hmode.sameContents).trans
              (sameFiles_of_finishOn_eq_error htemporary hnew hfinish).sameContents

end

/-- **Saving is all or nothing**, whatever is on the disk, at whichever step it fails and whatever the
device leaves behind by then. -/
theorem save_atomic (d : Disk) (p : Path) (v : Json.Value) :
    (∀ outage, IsAllOrNothing d p (Utf8.encode v.render) (save outage d p v)) ∧
      ∀ x : Device, IsAllOrNothing d p (Utf8.encode v.render)
        (saveOn x d p (Utf8.encode v.render)) := by
  refine ⟨fun outage => ?_, fun x => isAllOrNothing_saveOn x d p _⟩
  rw [save_eq_saveOn]
  exact isAllOrNothing_saveOn _ d p _

/-- A directory at the path is not replaced, and no temporary file stays beside it. -/
example :
    let d : Disk := { entries := [(["a".toList], .directory 0o755)] }
    save none d ⟨[], ["a".toList]⟩ .null =
      (d, some ⟨.isADirectory, ".tmp__.json".toList, some "a".toList⟩) := by decide

end JsonFile

end SqlAssist
