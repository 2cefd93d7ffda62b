import SqlAssist.Proofs.Text.LastEntry
import SqlAssist.Store.Disk

/-!
# Changes of the disk

What a path leads to hangs on the directories alone: two disks with the same ones
(`SameDirectories`) have the same location for each path (**`locatePath_eq_ok`**). Putting a file
where no directory stands, taking one away and setting permissions are such changes, and each is
seen at its own location only.
-/

namespace SqlAssist

namespace Disk

variable {d d' d'' : Disk} {l m start : Location} {n : Node} {p : Path}

/-! ### Nodes -/

theorem node?_nil (d : Disk) : d.node? [] = some (.directory 0o755) := rfl

theorem node?_of_ne_nil (d : Disk) (hl : l ≠ []) : d.node? l = d.entries.get? l := by
  rw [node?, if_neg (by simpa using hl)]

theorem put_of_ne_nil (d : Disk) (hl : l ≠ []) (n : Node) :
    d.put l n = { d with entries := d.entries.insert l n } := by
  rw [put, if_neg (by simpa using hl)]

theorem node?_put_self (hl : l ≠ []) : (d.put l n).node? l = some n := by
  rw [node?_of_ne_nil _ hl, put_of_ne_nil d hl]
  exact OrderedMap.get?_insert_self _ _ _

theorem node?_put_of_ne (h : l ≠ m) : (d.put l n).node? m = d.node? m := by
  by_cases hm : m = []
  · rw [hm, node?_nil, node?_nil]
  · rw [node?_of_ne_nil _ hm, node?_of_ne_nil _ hm, put]
    split_ifs
    · rfl
    · exact OrderedMap.get?_insert_of_ne _ _ h

theorem node?_erase_of_ne (h : l ≠ m) : (d.erase l).node? m = d.node? m := by
  by_cases hm : m = []
  · rw [hm, node?_nil, node?_nil]
  · rw [node?_of_ne_nil _ hm, node?_of_ne_nil _ hm]
    exact (OrderedMap.get?_filter_ne _ _ _).trans (if_neg (Ne.symm h))

theorem node?_erase_self (hl : l ≠ []) : (d.erase l).node? l = none := by
  rw [node?_of_ne_nil _ hl]
  exact (OrderedMap.get?_filter_ne _ _ _).trans (if_pos rfl)

/-! ### Directories -/

/-- A directory stands at the location. -/
def IsDirectoryAt (d : Disk) (l : Location) : Prop :=
  ∃ mode, d.node? l = some (.directory mode)

theorem isDirectoryAt_nil (d : Disk) : d.IsDirectoryAt [] := ⟨_, node?_nil d⟩

theorem ne_nil_of_not_isDirectoryAt (h : ¬ d.IsDirectoryAt l) : l ≠ [] := by
  rintro rfl
  exact h (isDirectoryAt_nil d)

theorem not_isDirectoryAt_of_file {bytes : Bytes} {mode : Nat} (h : d.node? l = some (.file bytes mode)) :
    ¬ d.IsDirectoryAt l := by
  rintro ⟨mode', h'⟩
  rw [h] at h'
  cases h'

/-- The disks have directories at the same locations and start from the same one. -/
structure SameDirectories (d d' : Disk) : Prop where
  /-- Relative paths start alike. -/
  workingDirectory : d'.workingDirectory = d.workingDirectory
  /-- The directories are at the same locations. -/
  isDirectoryAt : ∀ l, d'.IsDirectoryAt l ↔ d.IsDirectoryAt l

namespace SameDirectories

theorem trans (h : SameDirectories d d') (h' : SameDirectories d' d'') : SameDirectories d d'' where
  workingDirectory := h'.workingDirectory.trans h.workingDirectory
  isDirectoryAt l := (h'.isDirectoryAt l).trans (h.isDirectoryAt l)

/-- Only what stands at one location may have changed, and it is no directory before and after. -/
theorem of_forall_ne (hworking : d'.workingDirectory = d.workingDirectory)
    (h : ∀ m, l ≠ m → d'.node? m = d.node? m) (hd : ¬ d.IsDirectoryAt l) (hd' : ¬ d'.IsDirectoryAt l) :
    SameDirectories d d' where
  workingDirectory := hworking
  isDirectoryAt m := by
    by_cases hm : l = m
    · subst hm
      exact iff_of_false hd' hd
    · rw [IsDirectoryAt, IsDirectoryAt, h m hm]

end SameDirectories

theorem workingDirectory_put (d : Disk) (l : Location) (n : Node) :
    (d.put l n).workingDirectory = d.workingDirectory := by
  rw [put]
  split_ifs <;> rfl

theorem sameDirectories_put_file (h : ¬ d.IsDirectoryAt l) (bytes : Bytes) (mode : Nat) :
    SameDirectories d (d.put l (.file bytes mode)) :=
  .of_forall_ne (workingDirectory_put d l _) (fun _ hm => node?_put_of_ne hm) h
    (not_isDirectoryAt_of_file (node?_put_self (ne_nil_of_not_isDirectoryAt h)))

theorem sameDirectories_erase (h : ¬ d.IsDirectoryAt l) : SameDirectories d (d.erase l) := by
  refine .of_forall_ne rfl (fun _ hm => node?_erase_of_ne hm) h ?_
  rintro ⟨mode, hmode⟩
  rw [node?_erase_self (ne_nil_of_not_isDirectoryAt h)] at hmode
  cases hmode

theorem sameDirectories_restrict (d : Disk) (l : Location) (mode : Nat) :
    SameDirectories d (d.restrict l mode) := by
  rw [restrict]
  split
  next bytes _ hl => exact sameDirectories_put_file (not_isDirectoryAt_of_file hl) bytes mode
  next mode' hl =>
    refine ⟨workingDirectory_put d l _, fun m => ?_⟩
    by_cases hm : l = m
    · subst hm
      refine iff_of_true ?_ ⟨mode', hl⟩
      by_cases hnil : l = []
      · rw [hnil]
        exact isDirectoryAt_nil _
      · exact ⟨mode, node?_put_self hnil⟩
    · rw [IsDirectoryAt, IsDirectoryAt, node?_put_of_ne hm]
  next => exact ⟨rfl, fun _ => Iff.rfl⟩

/-! ### Paths -/

theorem enter_eq_ok (h : SameDirectories d d') {part : Text} (hd : d.enter l part = .ok m) :
    d'.enter l part = .ok m := by
  rw [enter] at hd
  cases hl : d.node? l with
  | none => simp [hl] at hd
  | some n =>
    cases n with
    | file bytes mode => simp [hl] at hd
    | directory mode =>
      obtain ⟨mode', hl'⟩ := (h.isDirectoryAt l).mpr ⟨mode, hl⟩
      rw [hl] at hd
      rw [enter, hl']
      exact hd

theorem locate_eq_ok (h : SameDirectories d d') {parts : List Text}
    (hd : d.locate start parts = .ok l) : d'.locate start parts = .ok l := by
  induction parts generalizing start with
  | nil => exact hd
  | cons part parts ih =>
    rw [locate, List.foldlM_cons] at hd ⊢
    cases hpart : d.enter start part with
    | error e =>
      rw [hpart] at hd
      cases hd
    | ok m =>
      rw [hpart] at hd
      rw [enter_eq_ok h hpart]
      exact ih hd

/-- A path leads to the same location as long as the directories are the same. -/
theorem locatePath_eq_ok (h : SameDirectories d d') (hd : d.locatePath p = .ok l) :
    d'.locatePath p = .ok l := by
  rw [locatePath] at hd ⊢
  cases hfault : fault? p.toText with
  | some fault =>
    rw [hfault] at hd
    cases hd
  | none =>
    rw [hfault] at hd
    have hstart (absolute : Bool) : d'.startOf absolute = d.startOf absolute := by
      rw [startOf, startOf, h.workingDirectory]
    rw [hstart]
    exact locate_eq_ok h hd

theorem exists_locatePath_of_isDirectory (h : d.isDirectory p = true) :
    ∃ l, d.locatePath p = .ok l := by
  cases hl : d.locatePath p with
  | ok l => exact ⟨l, rfl⟩
  | error fault =>
    rw [isDirectory, lookup, hl] at h
    cases h

theorem read_eq_ok {bytes : Bytes} {mode : Nat} (hp : d.locatePath p = .ok l)
    (hl : d.node? l = some (.file bytes mode)) : d.read p = .ok bytes := by
  rw [read, lookup, hp]
  simp only [bind, Except.bind, hl]
  rfl

theorem locatePath_eq_ok_iff :
    d.locatePath p = .ok l ↔
      fault? p.toText = none ∧ d.locate (d.startOf (!p.root.isEmpty)) p.parts = .ok l := by
  rw [locatePath]
  cases fault? p.toText <;> simp

theorem isDirectoryAt_of_enter {part : Text} (h : d.enter m part = .ok l) : d.IsDirectoryAt m := by
  rw [enter] at h
  cases hm : d.node? m with
  | none => simp [hm] at h
  | some n =>
    cases n with
    | file bytes mode => simp [hm] at h
    | directory mode => exact ⟨mode, hm⟩

/-- What a path leads through is a directory. -/
theorem isDirectoryAt_parent (hp : d.locatePath p = .ok l) (hparts : p.parts ≠ [])
    (hparent : d.locatePath p.parent = .ok m) : d.IsDirectoryAt m := by
  obtain ⟨-, hl⟩ := locatePath_eq_ok_iff.mp hp
  obtain ⟨-, hm⟩ := locatePath_eq_ok_iff.mp hparent
  have hm : List.foldlM d.enter (d.startOf (!p.root.isEmpty)) p.parts.dropLast = .ok m := hm
  rw [locate, ← List.dropLast_concat_getLast hparts, List.foldlM_append, hm] at hl
  cases henter : d.enter m (p.parts.getLast hparts) with
  | ok l' => exact isDirectoryAt_of_enter henter
  | error e =>
    simp only [bind, Except.bind, List.foldlM_cons, henter] at hl
    cases hl

theorem isDirectory_of_locatePath (hp : d.locatePath p = .ok l) (hl : d.IsDirectoryAt l) :
    d.isDirectory p = true := by
  obtain ⟨mode, hmode⟩ := hl
  rw [isDirectory, lookup, hp]
  simp only [bind, Except.bind, hmode]
  rfl

theorem makeDirectories_of_isDirectory (h : d.isDirectory p = true) :
    d.makeDirectories p p.parts.length = (d, none) := by
  obtain ⟨l, hl⟩ := exists_locatePath_of_isDirectory h
  cases hn : p.parts.length with
  | zero => rfl
  | succ n =>
    have hq : ({ p with parts := p.parts.take (n + 1) } : Path) = p := by
      rw [← hn, List.take_length]
    have hmake : d.makeDirectory p = .error .alreadyThere := by
      rw [isDirectory, lookup, hl] at h
      rw [makeDirectory, hl]
      simp only [bind, Except.bind] at h ⊢
      cases hnode : d.node? l with
      | none =>
        rw [hnode] at h
        cases h
      | some n => rfl
    rw [makeDirectories]
    simp only [hq, hmake, h, if_true]

end Disk

end SqlAssist
