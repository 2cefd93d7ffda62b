import SqlAssist.Proofs.Catalog.Lookup

/-!
# The last table of a name

A table goes by two keys, its own name and its name behind that of its schema, both in capitals, and
the keys of all tables are in one map. So a key may be the one kind of key for one table and the
other kind for another, as names hold any characters, dots too. **`CatalogIndex.build_findsLast`**
says what is found in spite of that: the last table in the order of the catalog that goes by the key
in either way, and the last schema of a name. Hence only the capitals of a name count, and no table
is unknown under its names. It may be another one that is found under them, one further back.
-/

namespace SqlAssist

namespace CatalogIndex

/-- All tables with their schemas, in the order of the catalog. -/
def allTables (schemas : List Schema) : List (Schema × Table) :=
  schemas.flatMap fun s => s.tables.map fun t => (s, t)

/-- The table goes by the key: its name behind that of its schema, or its name alone, in capitals. -/
def GoesBy (key : Text) (p : Schema × Table) : Prop :=
  (p.1.name ++ '.' :: p.2.name).upper = key ∨ p.2.name.upper = key

instance (key : Text) : DecidablePred (GoesBy key) := fun p =>
  inferInstanceAs (Decidable ((p.1.name ++ '.' :: p.2.name).upper = key ∨ p.2.name.upper = key))

/-- The key that is asked for: the name of a table, behind that of a schema if one is given, in
capitals. -/
def askedKey (schema : Option Text) (name : Text) : Text :=
  match schema with
  | none => name.upper
  | some s => (s ++ '.' :: name).upper

variable {schemas : List Schema} {vars : List Variable} {name name' : Text}
  {schema schema' : Option Text}

theorem askedKey_congr (hschema : schema.map Text.upper = schema'.map Text.upper)
    (hname : name.upper = name'.upper) : askedKey schema name = askedKey schema' name' := by
  have hupper : ∀ s n : Text, (s ++ '.' :: n).upper = s.upper ++ (Text.upperChar '.' ++ n.upper) :=
    fun s n => List.flatMap_append
  cases schema with
  | none =>
    cases schema' with
    | none => exact hname
    | some s' => cases hschema
  | some s =>
    cases schema' with
    | none => cases hschema
    | some s' =>
      rw [askedKey, askedKey, hupper, hupper, Option.some.inj hschema, hname]

theorem upper_qualify (hschema : schema ≠ some []) (name : Text) :
    (TableRef.qualify schema name).upper = askedKey schema name := by
  cases schema with
  | none => rfl
  | some s =>
    cases s with
    | nil => exact absurd rfl hschema
    | cons c s => rfl

theorem entries_eq (schemas : List Schema) :
    entries schemas = (allTables schemas).map fun p => ⟨p.1.name, p.2⟩ := by
  rw [entries, allTables, List.map_flatMap]
  simp only [List.map_map]
  rfl

/-- A table is looked up from the end of the catalog. -/
theorem findTable_build_eq (hschema : schema ≠ some []) :
    (build schemas vars).findTable name schema =
      ((allTables schemas).reverse.find? fun p => decide (GoesBy (askedKey schema name) p)).map
        fun p => ⟨p.1.name, p.2⟩ := by
  rw [findTable_build, lastKnownBy?, entries_eq, ← List.map_reverse, List.find?_map,
    ← upper_qualify hschema name]
  rfl

theorem mem_allTables_iff {p : Schema × Table} :
    p ∈ allTables schemas ↔ p.1 ∈ schemas ∧ p.2 ∈ p.1.tables := by
  rw [allTables, List.mem_flatMap]
  constructor
  · rintro ⟨s, hs, hp⟩
    obtain ⟨t, ht, rfl⟩ := List.mem_map.mp hp
    exact ⟨hs, ht⟩
  · rintro ⟨hs, ht⟩
    exact ⟨p.1, hs, List.mem_map.mpr ⟨p.2, ht, rfl⟩⟩

theorem isSome_findTable {s : Schema} {t : Table} (hs : s ∈ schemas) (ht : t ∈ s.tables)
    (hschema : schema ≠ some []) (hgoes : GoesBy (askedKey schema name) (s, t)) :
    ((build schemas vars).findTable name schema).isSome := by
  have hnone : ¬ ∀ p ∈ allTables schemas, ¬ GoesBy (askedKey schema name) p := fun h =>
    h (s, t) (mem_allTables_iff.mpr ⟨hs, ht⟩) hgoes
  rw [findTable_build_eq hschema, Option.isSome_map, Option.isSome_iff_ne_none]
  exact mt find?_reverse_eq_none_iff.mp hnone

/-- Lookups in the index find the last entries of the schemas. -/
structure FindsLast (i : CatalogIndex) (schemas : List Schema) : Prop where
  /-- The table that is found is the last one that goes by the key, with the name of its schema. -/
  table : ∀ name schema, schema ≠ some [] → ∀ e, i.findTable name schema = some e ↔
    ∃ s t, IsLastOf (GoesBy (askedKey schema name)) (allTables schemas) (s, t) ∧ e = ⟨s.name, t⟩
  /-- No table is found if none goes by the key. -/
  noTable : ∀ name schema, schema ≠ some [] → (i.findTable name schema = none ↔
    ∀ s ∈ schemas, ∀ t ∈ s.tables, ¬ GoesBy (askedKey schema name) (s, t))
  /-- The schema that is found is the last one of its name. -/
  schema : ∀ name s, i.findSchema name = some s ↔
    IsLastOf (fun s => s.name.upper = name.upper) schemas s
  /-- No schema is found if none has the name. -/
  noSchema : ∀ name, i.findSchema name = none ↔ ∀ s ∈ schemas, s.name.upper ≠ name.upper
  /-- Only the capitals of the names count for tables. -/
  tableCase : ∀ name name' schema schema', schema ≠ some [] → schema' ≠ some [] →
    name.upper = name'.upper → schema.map Text.upper = schema'.map Text.upper →
    i.findTable name schema = i.findTable name' schema'
  /-- Only the capitals of the name count for schemas. -/
  schemaCase : ∀ name name', name.upper = name'.upper → i.findSchema name = i.findSchema name'
  /-- No table is unknown under its name, by itself, with that of its schema, or written behind it. -/
  known : ∀ s ∈ schemas, ∀ t ∈ s.tables, (i.findTable t.name).isSome ∧
    (i.findTable t.name (some s.name)).isSome ∧ (i.findTable (s.name ++ '.' :: t.name)).isSome

/-- **The index of a catalog finds the last entries**, for every catalog and every name. -/
theorem build_findsLast (schemas : List Schema) (vars : List Variable) :
    FindsLast (build schemas vars) schemas where
  table name schema hschema e := by
    rw [findTable_build_eq hschema, Option.map_eq_some_iff]
    constructor
    · rintro ⟨⟨s, t⟩, hfind, rfl⟩
      exact ⟨s, t, find?_reverse_eq_some_iff.mp hfind, rfl⟩
    · rintro ⟨s, t, hlast, rfl⟩
      exact ⟨(s, t), find?_reverse_eq_some_iff.mpr hlast, rfl⟩
  noTable name schema hschema := by
    rw [findTable_build_eq hschema, Option.map_eq_none_iff, find?_reverse_eq_none_iff]
    constructor
    · intro h s hs t ht
      exact h (s, t) (mem_allTables_iff.mpr ⟨hs, ht⟩)
    · intro h p hp
      obtain ⟨hs, ht⟩ := mem_allTables_iff.mp hp
      exact h p.1 hs p.2 ht
  schema name s := by
    rw [findSchema_build]
    exact find?_reverse_eq_some_iff
  noSchema name := by
    rw [findSchema_build]
    exact find?_reverse_eq_none_iff
  tableCase name name' schema schema' hschema hschema' hname hcase := by
    rw [findTable_build_eq hschema, findTable_build_eq hschema', askedKey_congr hcase hname]
  schemaCase name name' h := by
    rw [findSchema_build, findSchema_build, h]
  known s hs t ht := by
    have hbare : ((build schemas vars).findTable t.name).isSome :=
      isSome_findTable hs ht (by simp) (Or.inr rfl)
    refine ⟨hbare, ?_, isSome_findTable hs ht (by simp) (Or.inl rfl)⟩
    by_cases hname : s.name = []
    · rwa [hname]
    · exact isSome_findTable hs ht (by simpa using hname) (Or.inl rfl)

/-- A catalog of three tables that go by one key, the last one by its own name. -/
def dotted : List Schema :=
  [⟨"A".toList, [⟨"B.C".toList, ["X".toList]⟩]⟩, ⟨"a.b".toList, [⟨"c".toList, ["Y".toList]⟩]⟩,
    ⟨"S".toList, [⟨"A.b.C".toList, ["Z".toList]⟩, ⟨"T".toList, []⟩]⟩]

theorem build_findsLast_dotted :
    (build dotted []).findTable "C".toList (some "A.B".toList) =
        some ⟨"S".toList, ⟨"A.b.C".toList, ["Z".toList]⟩⟩ ∧
      (build dotted []).findTable "B.C".toList (some "T".toList) = none ∧
      (build dotted []).findSchema "A.B".toList =
        some ⟨"a.b".toList, [⟨"c".toList, ["Y".toList]⟩]⟩ := by
  have hfinds := build_findsLast dotted []
  refine ⟨?_, ?_, ?_⟩
  · refine (hfinds.table _ _ (by simp) _).mpr ⟨_, _, ⟨[_, _], [_], rfl, ?_, ?_⟩, rfl⟩
    · exact Or.inr (by decide)
    · decide
  · exact (hfinds.noTable _ _ (by simp)).mpr (by decide)
  · exact (hfinds.schema _ _).mpr ⟨[_], [_], rfl, by decide, by decide⟩

end CatalogIndex

end SqlAssist
