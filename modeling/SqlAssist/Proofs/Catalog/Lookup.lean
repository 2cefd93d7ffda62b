import SqlAssist.Catalog.Index
import SqlAssist.Proofs.Text.LastEntry

/-!
# Lookups in the catalog

The index of a catalog keeps tables under two kinds of keys in one map, their own
names and their names behind those of their schemas. A lookup in it is a search of
the catalog itself, from its end: `findTable_build` for tables and
`findSchema_build` for schemas.
-/

namespace SqlAssist.CatalogIndex

/-- The table is known by the name, by itself or behind its schema, whatever the case. -/
def IsKnownBy (e : TableEntry) (name : Text) : Prop :=
  e.qualifiedName.upper = name.upper ∨ e.table.name.upper = name.upper

instance (e : TableEntry) (name : Text) : Decidable (IsKnownBy e name) :=
  inferInstanceAs (Decidable (_ ∨ _))

/-- The last table of the catalog that is known by the name. -/
def lastKnownBy? (schemas : List Schema) (name : Text) : Option TableEntry :=
  (entries schemas).reverse.find? fun e => decide (IsKnownBy e name)

/-- Case does not matter. -/
theorem lastKnownBy?_congr (schemas : List Schema) {name name' : Text} (h : name.upper = name'.upper) :
    lastKnownBy? schemas name = lastKnownBy? schemas name' := by
  have hknown : (fun e => decide (IsKnownBy e name)) = fun e => decide (IsKnownBy e name') := by
    funext e
    exact decide_eq_decide.mpr (by rw [IsKnownBy, IsKnownBy, h])
  rw [lastKnownBy?, lastKnownBy?, hknown]

/-- The keys that a table is kept under. -/
def settings (e : TableEntry) : List (Text × TableEntry) :=
  [(e.qualifiedName.upper, e), (e.table.name.upper, e)]

theorem get?_ofList_settings (es : List TableEntry) (name : Text) :
    (OrderedMap.ofList (es.flatMap settings)).get? name.upper =
      es.reverse.find? fun e => decide (IsKnownBy e name) := by
  rw [OrderedMap.get?_ofList]
  induction es using List.reverseRecOn with
  | nil => rfl
  | append_singleton es e ih =>
    rw [List.flatMap_append, List.flatMap_singleton, List.reverse_append, List.reverse_append,
      List.reverse_singleton, List.singleton_append, List.find?_cons]
    by_cases ht : e.table.name.upper = name.upper <;>
      by_cases hq : e.qualifiedName.upper = name.upper <;>
        simp [settings, IsKnownBy, ht, hq, ih]

/-- A table is found by its name as the last one of the catalog that is known by it. -/
theorem findTable_build (schemas : List Schema) (vars : List Variable) (table : Text)
    (schema : Option Text) :
    (build schemas vars).findTable table schema =
      lastKnownBy? schemas (TableRef.qualify schema table) :=
  get?_ofList_settings (entries schemas) _

/-- A schema is found by its name as the last one of that name, whatever the case. -/
theorem findSchema_build (schemas : List Schema) (vars : List Variable) (name : Text) :
    (build schemas vars).findSchema name =
      schemas.reverse.find? fun s => decide (s.name.upper = name.upper) := by
  have h : (build schemas vars).findSchema name =
      (OrderedMap.ofList (schemas.map fun s => (s.name.upper, s))).get? name.upper := rfl
  rw [h, OrderedMap.get?_ofList, ← List.map_reverse, List.find?_map, Option.map_map]
  exact Option.map_id'

/-! ### What is found -/

section Found

variable {schemas : List Schema} {vars : List Variable} {e : TableEntry} {name : Text}

theorem mem_entries_of_lastKnownBy? (h : lastKnownBy? schemas name = some e) :
    e ∈ entries schemas :=
  List.mem_reverse.mp (List.mem_of_find?_eq_some h)

theorem mem_of_findSchema {s : Schema} (h : (build schemas vars).findSchema name = some s) :
    s ∈ schemas := by
  rw [findSchema_build] at h
  exact List.mem_reverse.mp (List.mem_of_find?_eq_some h)

/-- A column of a reference is one of the table that the catalog knows by its name. -/
theorem exists_of_mem_columnsFor {r : TableRef} {column : Text}
    (h : column ∈ (build schemas vars).columnsFor r) :
    r.derived = false ∧
      ∃ e, lastKnownBy? schemas r.qualifiedName = some e ∧ column ∈ e.table.columns := by
  rw [columnsFor] at h
  split_ifs at h with hderived
  · exact absurd h List.not_mem_nil
  · have hfind : (build schemas vars).tableByKey.get? r.lookupKey =
        lastKnownBy? schemas r.qualifiedName := findTable_build schemas vars r.table r.schema
    rw [hfind] at h
    refine ⟨Bool.eq_false_iff.mpr hderived, ?_⟩
    cases he : lastKnownBy? schemas r.qualifiedName with
    | none =>
      rw [he] at h
      exact absurd h List.not_mem_nil
    | some e =>
      rw [he] at h
      exact ⟨e, rfl, h⟩

theorem columnsFor_of_derived {r : TableRef} (i : CatalogIndex) (h : r.derived = true) :
    i.columnsFor r = [] := by
  rw [columnsFor, if_pos h]

end Found

end SqlAssist.CatalogIndex
