import SqlAssist.Proofs.Catalog.RoundTrip
import SqlAssist.Proofs.Store.FoundFile
import SqlAssist.Proofs.Store.SavedFile
import SqlAssist.Store.CatalogFile

/-!
# Catalogs that have been saved

Lenient reading tidies a document up: the configuration is in normal form, so a strict reader
gives it back from its own document, and a catalog that was saved is loaded as it was
(**`loadStrict_save`**). The document on the disk holds strings, arrays and objects only, so it is
the value that was written, provided that no database type has two entries. It has none where the
first document had no two members of one name, as every document that comes from a file
(**`loadStrict_of_load`**).
-/

namespace SqlAssist

open Json Document

variable {c : Configuration} {d d' d'' : Disk} {p q : Path} {v : Value} {bytes : Bytes}
  {defaultType : Text}

/-! ### Documents of files -/

theorem JsonFile.hasDistinctNames_of_decode (h : decode bytes = .ok v) : v.HasDistinctNames := by
  rw [decode] at h
  split at h
  · cases h
  next t _ =>
    dsimp only at h
    cases hread : Json.read t.unifyBreaks with
    | error e =>
      rw [hread] at h
      cases h
    | ok w =>
      rw [hread] at h
      obtain rfl := Except.ok.inj h
      exact hasDistinctNames_of_read hread

theorem JsonFile.hasDistinctNames_of_read (h : (JsonFile.read d p).result = .ok v) :
    v.HasDistinctNames := by
  have hnull : Value.HasDistinctNames .null := .plain rfl rfl
  obtain ⟨there, -, h⟩ := Report.exists_of_bind_eq_ok h
  split_ifs at h
  · split at h
    · cases h
    next bytes _ =>
      split at h
      next w hw =>
        obtain rfl := Except.ok.inj h
        exact hasDistinctNames_of_decode hw
      next fault _ =>
        unfold orBeyond at h
        split at h
        · cases h
        · obtain rfl := Except.ok.inj h
          exact hnull
  · obtain rfl := Except.ok.inj h
    exact hnull

namespace CatalogFile

/-- What is loaded is what some document is read as. -/
theorem exists_of_load (h : (load d p defaultType).result = .ok c) :
    ∃ v : Value, v.HasDistinctNames ∧ c = Document.read defaultType v := by
  obtain ⟨v, hv, h⟩ := Report.exists_of_bind_eq_ok h
  refine ⟨v, JsonFile.hasDistinctNames_of_read hv, ?_⟩
  cases v with
  | null =>
    obtain ⟨-, -, h⟩ := Report.exists_of_bind_eq_ok h
    exact (Except.ok.inj h).symm
  | _ => exact (Except.ok.inj h).symm

/-! ### Saving and loading -/

theorem decode_encode_write (h : (OrderedMap.keys c.builtinsByType).Nodup) :
    JsonFile.decode (Utf8.encode (write c).render) = .ok (write c) := by
  rw [JsonFile.decode_encode_render, read_render (isReadable_write h) (by decide)]
  rfl

/-- A file that holds the document of a configuration in normal form is loaded as it. -/
theorem loadStrict_of_read (hread : d.read p = .ok (Utf8.encode (write c).render))
    (h : c.IsNormal) (hnames : (OrderedMap.keys c.builtinsByType).Nodup) :
    loadStrict d p defaultType = .pure c := by
  rw [loadStrict, hread]
  simp only [decode_encode_write hnames, readStrict_write h]
  rfl

theorem save_eq_pure_iff :
    save d p c = (d', .pure ()) ↔ JsonFile.save none d p (write c) = (d', none) := by
  rw [save]
  cases h : JsonFile.save none d p (write c) with
  | mk made e =>
    cases e with
    | none => simp
    | some e => simp [Report.pure, Report.fail]

/-- **What any document is read as is read again from the document that it is written as, by a
strict reader and whatever the default type, and a catalog that was saved is loaded as it was.**
Saving succeeds wherever a file can be saved. -/
theorem loadStrict_save (v : Value) (h : defaultType ≠ []) :
    (∀ otherType, readStrict otherType (write (Document.read defaultType v)) =
      .ok (Document.read defaultType v)) ∧
    (v.HasDistinctNames → ∀ d p,
      (d.CanSave p → ∃ d', save d p (Document.read defaultType v) = (d', .pure ())) ∧
      ∀ d', save d p (Document.read defaultType v) = (d', .pure ()) →
        ∀ otherType, loadStrict d' p otherType = .pure (Document.read defaultType v)) := by
  have hnormal := read_isNormal h v
  refine ⟨fun _ => readStrict_write hnormal, fun hv d p => ⟨fun hp => ?_, fun d' hd' _ => ?_⟩⟩
  · obtain ⟨d', hd'⟩ := JsonFile.exists_save_of_canSave hp (write (Document.read defaultType v))
    exact ⟨d', save_eq_pure_iff.mpr hd'⟩
  · exact loadStrict_of_read (JsonFile.read_of_save (save_eq_pure_iff.mp hd')) hnormal
      (nodup_keys_builtinsByType hv defaultType)

/-- A document with other spellings of the keys, blank names and values of other kinds. -/
def untidy : Value :=
  object
    [("dbType", .integer 11),
      ("metadata", .array
        [.null,
          object
            [("name", .string " HR ".toList),
              ("tables", .array
                [object [("name", .string "EMP\t".toList),
                    ("columns", .array [.string "ID".toList, .string [], .integer 7])],
                  object [("name", .string "  ".toList)]])]]),
      ("dbBuiltins", object
        [("11", .array
          [object [("name", .array [.string "F".toList, .bool true]), ("sampleUsage", .null)]])]),
      ("operators", .array []),
      ("workflowVars", .array
        [object [("key", .string "id".toList), ("scope", .string "HR".toList)],
          object [("scope", .string "HR".toList)]])]

/-- A disk with a catalog in the working directory. -/
def home : Disk where
  entries :=
    [(["home".toList], .directory 0o755),
      (["home".toList, "catalog.json".toList], .file [0x7b] 0o644)]
  workingDirectory := ["home".toList]

/-- The path of a catalog in a directory that has yet to be made. -/
def newPath : Path := ⟨[], ["new".toList, "catalog.json".toList]⟩

theorem loadStrict_save_untidy :
    let c := Document.read "oracle".toList untidy
    "oracle".toList ≠ [] ∧ untidy.HasDistinctNames ∧ home.CanSave newPath ∧
      c.databaseType = "11".toList ∧
      c.schemas = [⟨"HR".toList, [⟨"EMP".toList, ["ID".toList]⟩]⟩] ∧
      c.builtinsByType = [("11".toList, [⟨"['F', True]".toList, [], "None".toList⟩])] ∧
      c.keywords = Defaults.keywords ∧ c.operators = [] ∧
      c.workflowVariables = [⟨"HR".toList, "id".toList⟩] ∧
      readStrict [] (write c) = .ok c ∧
      ∃ d', save home newPath c = (d', .pure ()) ∧ loadStrict d' newPath [] = .pure c := by
  have htype : "oracle".toList ≠ [] := by decide
  have hnames : untidy.HasDistinctNames := by
    simp [untidy, object, OrderedMap.keys]
  have hsave : home.CanSave newPath := by
    refine ⟨home.put ["home".toList, "new".toList] (.directory 0o755),
      ["home".toList, "new".toList, "catalog.json".toList], by decide, by decide,
      by decide, by decide, by decide, ?_⟩
    rintro ⟨mode, hmode⟩
    have hnone : (home.put ["home".toList, "new".toList] (.directory 0o755)).node?
      ["home".toList, "new".toList, "catalog.json".toList] = none := by decide
    cases hnone.symm.trans hmode
  have hload := (loadStrict_save untidy htype).2 hnames home newPath
  obtain ⟨d', hd'⟩ := hload.1 hsave
  exact ⟨htype, hnames, hsave, by decide, by decide, by decide,
    by decide +kernel, by decide, by decide +kernel,
    (loadStrict_save untidy htype).1 _, d', hd', hload.2 d' hd' _⟩

/-- Whatever is loaded from one file and saved to another is loaded from there as it was. -/
theorem loadStrict_of_load (h : defaultType ≠ []) (hload : (load d p defaultType).result = .ok c)
    (hsave : save d' q c = (d'', .pure ())) (otherType : Text) :
    loadStrict d'' q otherType = .pure c := by
  obtain ⟨v, hv, rfl⟩ := exists_of_load hload
  exact loadStrict_of_read (JsonFile.read_of_save (save_eq_pure_iff.mp hsave)) (read_isNormal h v)
    (nodup_keys_builtinsByType hv defaultType)

end CatalogFile

end SqlAssist
