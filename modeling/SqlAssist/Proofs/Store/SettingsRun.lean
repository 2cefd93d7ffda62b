import SqlAssist.Proofs.Json.DistinctNames
import SqlAssist.Proofs.Json.RoundTrip
import SqlAssist.Proofs.Store.FoundFile
import SqlAssist.Proofs.Store.SavedFile
import SqlAssist.Store.Settings

/-!
# Settings as a map

A settings file stands for the object that it holds, the empty one where there is no file. Each
operation on the settings does to the file what it does to the object (`Keeps.step`), through
encoding, renaming and decoding, and by induction so does every run of operations:
**`runAll_refines`**. What is answered in between and what is loaded in the end is therefore said of
objects alone, the defaults being put under them (`IsMerged`) and never written.
-/

namespace SqlAssist.Settings

open Json (Value)

/-! ### Objects -/

/-- The reader takes every value of the object, and the names are different. -/
def AreReadable (o : Values) : Prop :=
  (OrderedMap.keys o).Nodup ∧ ∀ m ∈ o, m.2.IsReadable (Json.maxDepth - 1)

theorem AreReadable.insert {o : Values} (h : AreReadable o) (key : Text) {v : Value}
    (hv : v.IsReadable (Json.maxDepth - 1)) : AreReadable (OrderedMap.insert o key v) :=
  ⟨OrderedMap.nodup_keys_insert h.1 key v, OrderedMap.forall_mem_insert h.2 key hv⟩

/-- The map has the entries of the second object and, where it has none of a key, those of the
first, whose keys come first. -/
structure IsMerged (base o m : Values) : Prop where
  /-- The keys and their order. -/
  keys : OrderedMap.keys m =
    OrderedMap.keys base ++ (OrderedMap.keys o).filter (· ∉ OrderedMap.keys base)
  /-- The values. -/
  get? : ∀ key, OrderedMap.get? m key = (OrderedMap.get? o key).or (OrderedMap.get? base key)

theorem isMerged_override {o : Values} (ho : (OrderedMap.keys o).Nodup) (base : Values) :
    IsMerged base o (override base o) := by
  induction o generalizing base with
  | nil => exact ⟨by simp [override, OrderedMap.keys], fun key => rfl⟩
  | cons p o ih =>
    obtain ⟨hp, ho⟩ := List.nodup_cons.mp ho
    have hrest := ih ho (OrderedMap.insert base p.1 p.2)
    have hcons : override base (p :: o) = override (OrderedMap.insert base p.1 p.2) o := rfl
    refine ⟨?_, fun key => ?_⟩
    · rw [hcons, hrest.keys, OrderedMap.keys_insert]
      have hkeys : OrderedMap.keys (p :: o) = p.1 :: OrderedMap.keys o := rfl
      rw [hkeys]
      split_ifs with hbase
      · rw [List.filter_cons_of_neg (by simpa using hbase)]
      · rw [List.filter_cons_of_pos (by simpa using hbase), List.append_assoc, List.singleton_append]
        -- The key of the first entry is not among those of the others.
        have hfilter : (OrderedMap.keys o).filter (· ∉ OrderedMap.keys base ++ [p.1]) =
            (OrderedMap.keys o).filter (· ∉ OrderedMap.keys base) := by
          refine List.filter_congr fun k hk => ?_
          have hne : k ≠ p.1 := by
            rintro rfl
            exact hp hk
          simp [hne]
        rw [hfilter]
    · rw [hcons, hrest.get?, OrderedMap.get?_insert, OrderedMap.get?]
      by_cases hkey : p.1 = key
      · have hnone : OrderedMap.get? o key = none := by
          cases hget : OrderedMap.get? o key with
          | none => rfl
          | some v => exact absurd (OrderedMap.mem_keys_of_get? hget) (hkey ▸ hp)
        rw [if_pos hkey.symm, if_pos hkey, hnone]
        rfl
      · rw [if_neg (Ne.symm hkey), if_neg hkey]

/-- A setting, or the given value where it is null or not set. -/
def valueOr (m : Values) (key : Text) (default : Value) : Value :=
  match OrderedMap.get? m key with
  | none | some .null => default
  | some v => v

/-! ### Operations -/

/-- An operation on the settings. -/
inductive Action where
  /-- Setting one key. -/
  | set (key : Text) (value : Value)
  /-- Saving all settings. -/
  | save (values : Values)
  /-- Asking for one setting. -/
  | get (key : Text) (default : Value)
  /-- Asking for all settings. -/
  | load

/-- What an operation answers. -/
inductive Answer where
  /-- It is done. -/
  | done
  /-- One setting. -/
  | value (v : Value)
  /-- All settings. -/
  | values (vs : Values)

namespace Action

/-- Carries out the operation on a disk. -/
def run (d : Disk) (p : Path) : Action → Disk × Report Answer
  | set key value => ((Settings.set d p key value).1, do (Settings.set d p key value).2; pure .done)
  | save values => ((Settings.save d p values).1, do (Settings.save d p values).2; pure .done)
  | get key default => (d, do pure (.value (← Settings.get d p key default)))
  | load => (d, do pure (.values (← Settings.load d p)))

/-- Does to an object what the operation does to the file. -/
def replay (o : Values) : Action → Values
  | set key value => OrderedMap.insert o key value
  | save values => values
  | get .. | load => o

/-- What the operation answers if the file holds the object. -/
def answer (o : Values) : Action → Answer
  | set .. | save .. => .done
  | get key default => .value (valueOr (override defaults o) key default)
  | load => .values (override defaults o)

/-- The reader takes the values that the operation writes. -/
def IsReadable : Action → Prop
  | set _ value => value.IsReadable (Json.maxDepth - 1)
  | save values => AreReadable values
  | get .. | load => True

end Action

/-- Carries out operations one after the other. -/
def runAll (d : Disk) (p : Path) : List Action → Disk × List (Report Answer)
  | [] => (d, [])
  | a :: as => ((runAll (a.run d p).1 p as).1, (a.run d p).2 :: (runAll (a.run d p).1 p as).2)

/-- Replays operations on an object. -/
def replayAll (o : Values) (as : List Action) : Values :=
  as.foldl Action.replay o

/-- What the operations answer one after the other if the file holds the object at first. -/
def answers (o : Values) : List Action → List Answer
  | [] => []
  | a :: as => a.answer o :: answers (a.replay o) as

/-! ### One operation -/

/-- The settings file stands for the object, and others can be saved in its place. -/
structure Keeps (d : Disk) (p : Path) (o : Values) : Prop where
  /-- A file can be saved. -/
  canSave : d.CanSave p
  /-- The object can be written and read. -/
  areReadable : AreReadable o
  /-- The object is what is stored. -/
  stored : stored d p = .pure o

variable {d d' : Disk} {p : Path} {o values : Values} {a : Action} {as : List Action}

theorem stored_of_document {bytes : Bytes} (h : d.read p = .ok bytes)
    (ho : JsonFile.decode bytes = .ok (.object o)) : stored d p = .pure o := by
  rw [stored, JsonFile.read_of_document h ho]
  rfl

theorem stored_of_holds_eq_false (h : d.holds p = .ok false) : stored d p = .pure [] := by
  rw [stored, JsonFile.read_of_holds_eq_false h]
  rfl

theorem load_of_stored (h : stored d p = .pure o) : load d p = .pure (override defaults o) := by
  rw [load, h]
  rfl

theorem get_of_stored (h : stored d p = .pure o) (key : Text) (default : Value) :
    get d p key default = .pure (valueOr (override defaults o) key default) := by
  have hget : get d p key default =
      .pure (let v := (OrderedMap.get? (override defaults o) key).getD .null
        if v.isNull then default else v) := by
    rw [get, load_of_stored h]
    rfl
  rw [hget, valueOr]
  cases OrderedMap.get? (override defaults o) key with
  | none => rfl
  | some v => cases v <;> rfl

theorem decode_encode_object (h : AreReadable o) :
    JsonFile.decode (Utf8.encode (Value.object o).render) = .ok (.object o) := by
  rw [JsonFile.decode_encode_render, Json.read_render (.object h.1 h.2) (by decide)]
  rfl

/-- Saving settings succeeds, and the file stands for them. -/
theorem Keeps.save (h : Keeps d p o) (hvalues : AreReadable values) :
    ∃ d', Settings.save d p values = (d', .pure ()) ∧ Keeps d' p values := by
  obtain ⟨d', hd'⟩ := JsonFile.exists_save_of_canSave h.canSave (.object values)
  refine ⟨d', by rw [Settings.save, hd'], JsonFile.canSave_of_save hd', hvalues, ?_⟩
  exact stored_of_document (JsonFile.read_of_save hd') (decode_encode_object hvalues)

/-- **One operation** answers as if the object were asked, and leaves the file standing for the
object that it makes of it. -/
theorem Keeps.step (h : Keeps d p o) (ha : a.IsReadable) :
    (a.run d p).2 = .pure (a.answer o) ∧ Keeps (a.run d p).1 p (a.replay o) := by
  cases a with
  | set key value =>
    obtain ⟨d', hd', hkeeps⟩ := h.save (h.areReadable.insert key ha)
    have hset : Settings.set d p key value = (d', .pure ()) := by
      simp only [Settings.set, h.stored, Report.pure, hd']
      rfl
    rw [Action.run, hset]
    exact ⟨rfl, hkeeps⟩
  | save values =>
    obtain ⟨d', hd', hkeeps⟩ := h.save ha
    rw [Action.run, hd']
    exact ⟨rfl, hkeeps⟩
  | get key default =>
    rw [Action.run, get_of_stored h.stored]
    exact ⟨rfl, h⟩
  | load =>
    rw [Action.run, load_of_stored h.stored]
    exact ⟨rfl, h⟩

/-! ### Runs -/

theorem Keeps.runAll (h : Keeps d p o) (has : ∀ a ∈ as, a.IsReadable) :
    (runAll d p as).2 = (answers o as).map .pure ∧ Keeps (runAll d p as).1 p (replayAll o as) := by
  induction as generalizing d o with
  | nil => exact ⟨rfl, h⟩
  | cons a as ih =>
    obtain ⟨ha, has⟩ := List.forall_mem_cons.mp has
    obtain ⟨hanswer, hkeeps⟩ := h.step ha
    obtain ⟨hanswers, hend⟩ := ih hkeeps has
    refine ⟨?_, hend⟩
    rw [Settings.runAll, hanswer, hanswers]
    rfl

/-- **A settings file is a map.** From a path where there is nothing or a file that holds an object,
and where a file can be saved, every run of operations answers without notes as if it were replayed
on the object; then the file stands for the object that the replay ends with, all settings are that
object over the defaults, and one setting is its value there unless that is null or missing. -/
theorem runAll_refines (d : Disk) (p : Path) (o : Values) (hsave : d.CanSave p)
    (hstart : d.holds p = .ok false ∧ o = [] ∨
      ∃ bytes, d.read p = .ok bytes ∧ JsonFile.decode bytes = .ok (.object o))
    (ho : AreReadable o) (as : List Action) (has : ∀ a ∈ as, a.IsReadable) :
    (runAll d p as).2 = (answers o as).map .pure ∧
    stored (runAll d p as).1 p = .pure (replayAll o as) ∧
    ∃ m, IsMerged defaults (replayAll o as) m ∧
      load (runAll d p as).1 p = .pure m ∧
      ∀ key default, get (runAll d p as).1 p key default = .pure (valueOr m key default) := by
  have hstored : stored d p = .pure o := by
    rcases hstart with ⟨hnothing, rfl⟩ | ⟨bytes, hread, hdocument⟩
    · exact stored_of_holds_eq_false hnothing
    · exact stored_of_document hread hdocument
  have hkeeps : Keeps d p o := ⟨hsave, ho, hstored⟩
  obtain ⟨hanswers, hend⟩ := hkeeps.runAll has
  exact ⟨hanswers, hend.stored, _, isMerged_override hend.areReadable.1 defaults,
    load_of_stored hend.stored, get_of_stored hend.stored⟩

/-! ### An example -/

/-- One half, as a double. -/
def half : Binary64 := .finite false 4503599627370496 (-53)

theorem isReadBack_half : Json.IsReadBack half := by
  have htext : half.toText Json.spelling = "0.5".toList := by decide
  have hread : Json.readNumber? "0.5".toList =
      some (.ok (.real (Binary64.ofDecimal false 5 (-1))), 3) := rfl
  have hvalue : Binary64.ofDecimal false 5 (-1) = half := by decide
  rw [hvalue] at hread
  rw [half] at htext hread ⊢
  rw [Json.IsReadBack, htext]
  exact hread

/-- Settings with one that is null. -/
def dark : Values :=
  [("database_type".toList, .null), ("theme".toList, .string "dark".toList)]

/-- A disk with a settings file in the working directory. -/
def desk : Disk where
  entries :=
    [(["desk".toList], .directory 0o755),
      (["desk".toList, "settings.json".toList],
        .file (Utf8.encode (Value.object dark).render) 0o600)]
  workingDirectory := ["desk".toList]

/-- Operations of every kind. -/
def mixed : List Action :=
  [.set "size".toList (.real half), .get "database_type".toList (.string "postgresql".toList),
    .set "theme".toList (.array [.bool true, .null, .integer 7]), .load,
    .save [("level".toList, .integer (-3)), ("size".toList, .real half)],
    .set "catalog_path".toList (.string "c.json".toList), .get "level".toList .null]

/-- A setting that is null counts as not set, and the defaults are not written. -/
theorem runAll_refines_mixed :
    let p : Path := ⟨[], ["settings.json".toList]⟩
    let last : Values := [("level".toList, .integer (-3)), ("size".toList, .real half),
      ("catalog_path".toList, .string "c.json".toList)]
    desk.CanSave p ∧ AreReadable dark ∧ (∀ a ∈ mixed, a.IsReadable) ∧
      (runAll desk p mixed).2 =
        [.pure .done, .pure (.value (.string "postgresql".toList)), .pure .done,
          .pure (.values [("database_type".toList, .null), ("catalog_path".toList, .null),
            ("theme".toList, .array [.bool true, .null, .integer 7]),
            ("size".toList, .real half)]),
          .pure .done, .pure .done, .pure (.value (.integer (-3)))] ∧
      stored (runAll desk p mixed).1 p = .pure last ∧
      get (runAll desk p mixed).1 p "database_type".toList .null =
        .pure (.string "oracle".toList) ∧
      get (runAll desk p mixed).1 p "theme".toList (.bool false) = .pure (.bool false) := by
  intro p last
  have hlocate : desk.locatePath p = .ok ["desk".toList, "settings.json".toList] := rfl
  have hnode : desk.node? ["desk".toList, "settings.json".toList] =
      some (.file (Utf8.encode (Value.object dark).render) 0o600) := rfl
  have hsave : desk.CanSave p :=
    ⟨desk, ["desk".toList, "settings.json".toList], rfl, by decide, by decide, by decide,
      hlocate, Disk.not_isDirectoryAt_of_file hnode⟩
  have hdark : AreReadable dark := by
    refine ⟨by decide, ?_⟩
    simp only [dark, List.forall_mem_cons]
    exact ⟨.plain .null, .string _, fun _ h => absurd h List.not_mem_nil⟩
  have harray : (Value.array [.bool true, .null, .integer 7]).IsReadable (Json.maxDepth - 1) := by
    refine Value.IsReadable.array fun v hv => ?_
    simp only [List.mem_cons, List.not_mem_nil, or_false] at hv
    rcases hv with rfl | rfl | rfl
    · exact .plain (.bool true)
    · exact .plain .null
    · exact .plain (.integer (by decide))
  have hlevel : AreReadable [("level".toList, .integer (-3)), ("size".toList, .real half)] := by
    refine ⟨by decide, ?_⟩
    simp only [List.forall_mem_cons]
    exact ⟨.plain (.integer (by decide)), .plain (.real isReadBack_half),
      fun _ h => absurd h List.not_mem_nil⟩
  have hmixed : ∀ a ∈ mixed, a.IsReadable := by
    simp only [mixed, List.forall_mem_cons]
    exact ⟨.plain (.real isReadBack_half), trivial, harray, trivial, hlevel, .string _, trivial,
      fun _ h => absurd h List.not_mem_nil⟩
  obtain ⟨hanswers, hstored, m, hm, -, hget⟩ := runAll_refines desk p dark hsave
    (Or.inr ⟨_, Disk.read_eq_ok hlocate hnode, decode_encode_object hdark⟩) hdark mixed hmixed
  refine ⟨hsave, hdark, hmixed, hanswers, hstored, ?_, ?_⟩
  · have hvalue : OrderedMap.get? m "database_type".toList = some (.string "oracle".toList) :=
      hm.get? _
    rw [hget, valueOr, hvalue]
  · have hvalue : OrderedMap.get? m "theme".toList = none := hm.get? _
    rw [hget, valueOr, hvalue]

end SqlAssist.Settings
