import SqlAssist.Proofs.Json.Ascii
import SqlAssist.Proofs.Store.Disk
import SqlAssist.Store.JsonFile

/-!
# Files that have been saved

A document is saved by way of a temporary file beside it (`prepared`). Its name is new, and until
the renaming all directories stay where they are, so the path leads to the same location before
and after. A file that was saved holds the document (**`read_of_save`**), and saving succeeds
wherever the directories can be made and the path names an entry that is no directory
(**`exists_save_of_canSave`**).
-/

namespace SqlAssist

/-- The path is the name of the entry at the location, and no directory stands there. -/
structure Disk.IsEntryAt (d : Disk) (p : Path) (l : Location) : Prop where
  /-- The path has a last part. -/
  parts : p.parts ≠ []
  /-- That part is a name. -/
  last : p.parts.getLast? ≠ some ['.', '.']
  /-- The path leads to the location. -/
  locatePath : d.locatePath p = .ok l
  /-- No directory stands there. -/
  notDirectory : ¬ d.IsDirectoryAt l

namespace JsonFile

variable {d d' made : Disk} {source directory l : Location} {p : Path} {n : Node} {bytes : Bytes}
  {v : Json.Value}

/-! ### Renaming -/

theorem rename_eq_ok (hp : d.IsEntryAt p l) (hs : d.node? source = some n) :
    rename d source p = .ok ((d.erase source).put l n) := by
  rw [rename, hp.locatePath]
  simp only [bind, Except.bind]
  rw [if_neg (not_or.mpr ⟨by simpa using hp.parts, hp.last⟩), hs]
  cases hl : d.node? l with
  | none => rfl
  | some m =>
    cases m with
    | file bytes mode => rfl
    | directory mode => exact absurd ⟨mode, hl⟩ hp.notDirectory

theorem exists_of_rename_eq_ok (h : rename d source p = .ok d') (hs : d.node? source = some n) :
    ∃ l, d.IsEntryAt p l ∧ d' = (d.erase source).put l n := by
  obtain ⟨l, hp⟩ : ∃ l, d.IsEntryAt p l := by
    rw [rename] at h
    cases hl : d.locatePath p with
    | error e =>
      rw [hl] at h
      cases h
    | ok l =>
      rw [hl] at h
      simp only [bind, Except.bind, hs] at h
      split_ifs at h with hlast
      obtain ⟨hparts, hlast⟩ := not_or.mp hlast
      refine ⟨l, by simpa using hparts, hlast, hl, ?_⟩
      rintro ⟨mode, hmode⟩
      rw [hmode] at h
      cases h
  exact ⟨l, hp, Except.ok.inj (h.symm.trans (rename_eq_ok hp hs))⟩

/-- Renaming a file changes no directory's place. -/
theorem sameDirectories_rename {mode : Nat} (hp : d.IsEntryAt p l)
    (hs : d.node? source = some (.file bytes mode)) :
    Disk.SameDirectories d ((d.erase source).put l (.file bytes mode)) := by
  have herase := Disk.sameDirectories_erase (Disk.not_isDirectoryAt_of_file hs)
  have hl : ¬ (d.erase source).IsDirectoryAt l := mt (herase.isDirectoryAt l).mp hp.notDirectory
  exact herase.trans (Disk.sameDirectories_put_file hl bytes mode)

/-- What was a file at its source is read under its new path. -/
theorem read_rename {mode : Nat} (h : rename d source p = .ok d')
    (hs : d.node? source = some (.file bytes mode)) : d'.read p = .ok bytes := by
  obtain ⟨l, hp, rfl⟩ := exists_of_rename_eq_ok h hs
  exact Disk.read_eq_ok (Disk.locatePath_eq_ok (sameDirectories_rename hp hs) hp.locatePath)
    (Disk.node?_put_self (Disk.ne_nil_of_not_isDirectoryAt hp.notDirectory))

/-! ### The temporary file -/

/-- The location of the temporary file in a directory. -/
def temporaryIn (made : Disk) (directory : Location) : Location :=
  directory ++ [temporaryName (made.restrict directory 0o700)]

/-- The disk before the renaming: the temporary file holds the bytes. -/
def prepared (made : Disk) (directory : Location) (bytes : Bytes) : Disk :=
  let temporary := temporaryIn made directory
  (((made.restrict directory 0o700).put temporary (.file [] 0o600)).put temporary
    (.file bytes 0o600)).restrict temporary 0o600

theorem finish_none (made : Disk) (directory : Location) (p : Path) (bytes : Bytes) :
    finish none ((made.restrict directory 0o700).put (temporaryIn made directory) (.file [] 0o600))
        (temporaryIn made directory) p bytes =
      (rename (prepared made directory bytes) (temporaryIn made directory) p).mapError
        fun fault => (prepared made directory bytes, fault) := rfl

/-- Where no device fails, saving is making the directories and renaming the prepared file. -/
theorem save_none_eq_iff : save none d p v = (d', none) ↔
    ∃ made directory, d.makeDirectories p.parent p.parent.parts.length = (made, none) ∧
      made.locatePath p.parent = .ok directory ∧
      rename (prepared made directory (Utf8.encode v.render)) (temporaryIn made directory) p =
        .ok d' := by
  have hnone (s : Step) : (none : Option Outage).any (·.step = s) = false := rfl
  have htemporary (made : Disk) (directory : Location) :
    directory ++ [temporaryName (made.restrict directory 0o700)] = temporaryIn made directory := rfl
  rw [save]
  simp only [hnone, Bool.false_eq_true, if_false, htemporary]
  cases hmake : d.makeDirectories p.parent p.parent.parts.length with
  | mk made e =>
    cases e with
    | some e => simp
    | none =>
      cases hdirectory : made.locatePath p.parent with
      | error fault => simp [hdirectory]
      | ok directory =>
        simp only [finish_none]
        cases hrename : rename (prepared made directory (Utf8.encode v.render))
          (temporaryIn made directory) p with
        | ok d' => simp [Except.mapError, hdirectory, hrename]
        | error fault => simp [Except.mapError, hdirectory, hrename]

theorem temporaryIn_ne_nil (made : Disk) (directory : Location) : temporaryIn made directory ≠ [] :=
  List.append_ne_nil_of_right_ne_nil _ (List.cons_ne_nil _ _)

theorem node?_prepared (made : Disk) (directory : Location) (bytes : Bytes) :
    (prepared made directory bytes).node? (temporaryIn made directory) =
      some (.file bytes 0o600) := by
  have hl := temporaryIn_ne_nil made directory
  rw [prepared, Disk.restrict, Disk.node?_put_self hl]
  exact Disk.node?_put_self hl

theorem lt_length_temporaryName (d : Disk) :
    (d.entries.flatMap fun e => e.1.flatten).length < (temporaryName d).length := by
  have hfront : 0 < (".tmp_".toList).length := by decide
  -- The name's equation lemma would make Lean compute with the strings in it.
  delta temporaryName
  simp only [List.length_append, List.length_replicate]
  omega

/-- No entry has the name of the temporary file, as it is longer than all names together. -/
theorem node?_temporaryName (d : Disk) (l : Location) : d.node? (l ++ [temporaryName d]) = none := by
  rw [Disk.node?_of_ne_nil _ (List.append_ne_nil_of_right_ne_nil _ (List.cons_ne_nil _ _))]
  refine Option.eq_none_iff_forall_ne_some.mpr fun n hn => ?_
  obtain ⟨e, he, hname⟩ := List.mem_map.mp (OrderedMap.mem_keys_of_get? hn)
  obtain ⟨front, behind, hentries⟩ := List.append_of_mem he
  have hlong : e.1.flatten.length ≤ (d.entries.flatMap fun e => e.1.flatten).length := by
    rw [hentries, List.flatMap_append, List.flatMap_cons]
    simp only [List.length_append]
    omega
  have hshort : (temporaryName d).length ≤ e.1.flatten.length := by
    rw [hname, List.flatten_append, List.flatten_singleton, List.length_append]
    exact Nat.le_add_left _ _
  exact absurd (lt_length_temporaryName d) (Nat.not_lt.mpr (Nat.le_trans hshort hlong))

/-- Preparing the file changes no directory's place. -/
theorem sameDirectories_prepared (made : Disk) (directory : Location) (bytes : Bytes) :
    Disk.SameDirectories made (prepared made directory bytes) := by
  have hnew : ¬ (made.restrict directory 0o700).IsDirectoryAt (temporaryIn made directory) := by
    rintro ⟨mode, hmode⟩
    rw [temporaryIn, node?_temporaryName] at hmode
    cases hmode
  have hmade := Disk.sameDirectories_put_file hnew [] 0o600
  have hwritten := Disk.sameDirectories_put_file
    (mt (hmade.isDirectoryAt (temporaryIn made directory)).mp hnew) bytes 0o600
  exact (((Disk.sameDirectories_restrict made directory 0o700).trans hmade).trans hwritten).trans
    (Disk.sameDirectories_restrict _ _ _)

/-! ### Saving -/

/-- A file that was saved holds the document of its value. -/
theorem read_of_save (h : save none d p v = (d', none)) : d'.read p = .ok (Utf8.encode v.render) := by
  obtain ⟨made, directory, -, -, hrename⟩ := save_none_eq_iff.mp h
  exact read_rename hrename (node?_prepared made directory _)

end JsonFile

/-- A file can be saved under the path: its directory is there or can be made, and then the path
names an entry of the directory that is no directory itself. -/
def Disk.CanSave (d : Disk) (p : Path) : Prop :=
  ∃ made l, d.makeDirectories p.parent p.parent.parts.length = (made, none) ∧
    made.isDirectory p.parent = true ∧ made.IsEntryAt p l

namespace JsonFile

variable {d d' : Disk} {p : Path} {v : Json.Value}

/-- Saving succeeds wherever a file can be saved. -/
theorem exists_save_of_canSave (h : d.CanSave p) (v : Json.Value) : ∃ d', save none d p v = (d', none) := by
  obtain ⟨made, l, hmake, hparent, hp⟩ := h
  obtain ⟨directory, hdirectory⟩ : ∃ directory, made.locatePath p.parent = .ok directory :=
    Disk.exists_locatePath_of_isDirectory hparent
  have hsame := sameDirectories_prepared made directory (Utf8.encode v.render)
  have hp' : (prepared made directory (Utf8.encode v.render)).IsEntryAt p l :=
    ⟨hp.parts, hp.last, Disk.locatePath_eq_ok hsame hp.locatePath,
      mt (hsame.isDirectoryAt l).mp hp.notDirectory⟩
  exact ⟨_, save_none_eq_iff.mpr ⟨made, directory, hmake, hdirectory,
    rename_eq_ok hp' (node?_prepared made directory _)⟩⟩

/-- Where a file was saved, others can be. -/
theorem canSave_of_save (h : save none d p v = (d', none)) : d'.CanSave p := by
  obtain ⟨made, directory, -, hdirectory, hrename⟩ := save_none_eq_iff.mp h
  have hprepared := sameDirectories_prepared made directory (Utf8.encode v.render)
  have htemporary := node?_prepared made directory (Utf8.encode v.render)
  obtain ⟨l, hp, rfl⟩ := exists_of_rename_eq_ok hrename htemporary
  have hrenamed := sameDirectories_rename hp htemporary
  have hparent := Disk.locatePath_eq_ok (hprepared.trans hrenamed) hdirectory
  have hpath := Disk.locatePath_eq_ok hrenamed hp.locatePath
  have hthere := Disk.isDirectory_of_locatePath hparent
    (Disk.isDirectoryAt_parent hpath hp.parts hparent)
  exact ⟨_, l, Disk.makeDirectories_of_isDirectory hthere, hthere, hp.parts, hp.last, hpath,
    mt (hrenamed.isDirectoryAt l).mp hp.notDirectory⟩

end JsonFile

end SqlAssist
