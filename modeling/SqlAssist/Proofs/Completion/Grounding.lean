import SqlAssist.Completion.Engine
import SqlAssist.Proofs.Catalog.Lookup
import SqlAssist.Proofs.Completion.Output
import SqlAssist.Proofs.Sql.Bindings

/-!
# Candidates come from the catalog

A candidate for a schema, a table or a column names one that the catalog has: it is
`Grounded`. Each list of suggestions is made of such candidates, since all that the index
finds stands in the catalog (`mem_entries_of_lastKnownBy?`), and an answer picks its
candidates from these lists. A column behind a key is a column of the table that the key
stands for.

The alias of a subquery stands for no table of the catalog, even if one has its name. It
hides such a table from a path, and in a clause it adds no column
(`columns_candidates_withoutDerived`). **`complete_grounded`** says all of this of the
answer to every request.
-/

namespace SqlAssist

/-! ### Grounded candidates -/

open CatalogIndex (entries lastKnownBy?)

/-- The label names a column of the catalog. -/
inductive NamesColumn (schemas : List Schema) (tables : OrderedMap Text TableRef) : Text → Prop where
  /-- The column of a table. -/
  | bare {e : TableEntry} {column : Text} : e ∈ entries schemas → column ∈ e.table.columns →
      NamesColumn schemas tables column
  /-- The column behind a key that stands for its table. -/
  | keyed {key : Text} {ref : TableRef} {e : TableEntry} {column : Text} :
      tables.get? key = some ref → ref.derived = false →
      lastKnownBy? schemas ref.qualifiedName = some e → column ∈ e.table.columns →
      NamesColumn schemas tables (key ++ '.' :: column)

namespace Candidate

/-- What the candidate names is in the catalog; `tables` are the tables that are referred to. -/
structure Grounded (schemas : List Schema) (tables : OrderedMap Text TableRef) (c : Candidate) :
    Prop where
  /-- A schema is one of the catalog. -/
  schema : c.kind = .schema → ∃ s ∈ schemas, c.label = s.name
  /-- A table is one of the catalog, with or without its schema. -/
  table : c.kind = .table → ∃ e ∈ entries schemas, c.label = e.table.name ∨ c.label = e.qualifiedName
  /-- A column is one of the catalog and inserted as it is shown. -/
  field : c.kind = .field → c.insertText = c.label ∧ NamesColumn schemas tables c.label

variable {schemas : List Schema} {vars : List Variable} {tables : OrderedMap Text TableRef}
  {c : Candidate} {cs : List Candidate}

theorem grounded_of_kind (hs : c.kind ≠ .schema) (ht : c.kind ≠ .table) (hf : c.kind ≠ .field) :
    Grounded schemas tables c :=
  ⟨fun h => absurd h hs, fun h => absurd h ht, fun h => absurd h hf⟩

theorem grounded_field {label : Text} {detail : Option Text}
    (h : NamesColumn schemas tables label) :
    Grounded schemas tables (Suggestion.plain .field label detail) :=
  ⟨nofun, nofun, fun _ => ⟨rfl, h⟩⟩

theorem grounded_table {e : TableEntry} {name : Text} (he : e ∈ entries schemas)
    (h : name = e.table.name ∨ name = e.qualifiedName) :
    Grounded schemas tables (Suggestion.table name e.table) :=
  ⟨nofun, fun _ => ⟨e, he, h⟩, nofun⟩

theorem mem_of_mem_unique (h : c ∈ unique cs) : c ∈ cs := by
  obtain ⟨before, after, rfl, -⟩ := exists_append_of_mem_unique h
  exact List.mem_append_right before List.mem_cons_self

end Candidate

/-! ### Suggestions -/

namespace Suggestion

variable {schemas : List Schema} {vars : List Variable} {tables : OrderedMap Text TableRef}
  {c : Candidate} {i : CatalogIndex}

/-- Candidates for other things than schemas, tables and columns are grounded in any case. -/
theorem grounded_plain {kind : Kind} {words : List Text} (hc : c ∈ words.map (plain kind ·))
    (hs : kind ≠ .schema) (ht : kind ≠ .table) (hf : kind ≠ .field) :
    c.Grounded schemas tables := by
  obtain ⟨w, -, rfl⟩ := List.mem_map.mp hc
  exact Candidate.grounded_of_kind hs ht hf

theorem grounded_keywords {words : List Text} (hc : c ∈ keywords words) :
    c.Grounded schemas tables :=
  grounded_plain hc nofun nofun nofun

theorem grounded_operators {words : List Text} (hc : c ∈ operators words) :
    c.Grounded schemas tables :=
  grounded_plain hc nofun nofun nofun

theorem grounded_builtins {functions : List Builtin} (hc : c ∈ builtins functions) :
    c.Grounded schemas tables := by
  obtain ⟨f, -, rfl⟩ := List.mem_map.mp hc
  exact Candidate.grounded_of_kind nofun nofun nofun

theorem grounded_schemas (hc : c ∈ Suggestion.schemas (.build schemas vars)) :
    c.Grounded schemas tables := by
  obtain ⟨s, hs, rfl⟩ := List.mem_map.mp hc
  exact ⟨fun _ => ⟨s, hs, rfl⟩, nofun, nofun⟩

theorem grounded_tables (hc : c ∈ Suggestion.tables (.build schemas vars)) :
    c.Grounded schemas tables := by
  obtain ⟨e, he, rfl⟩ := List.mem_map.mp hc
  exact Candidate.grounded_table he (Or.inr rfl)

theorem grounded_schemaTables {name : Text} (hc : c ∈ schemaTables (.build schemas vars) name) :
    c.Grounded schemas tables := by
  rw [schemaTables] at hc
  cases hs : (CatalogIndex.build schemas vars).findSchema name with
  | none =>
    rw [hs] at hc
    exact absurd hc List.not_mem_nil
  | some s =>
    rw [hs] at hc
    obtain ⟨t, ht, rfl⟩ := List.mem_map.mp hc
    have he : ⟨s.name, t⟩ ∈ entries schemas :=
      List.mem_flatMap.mpr ⟨s, CatalogIndex.mem_of_findSchema hs, List.mem_map_of_mem ht⟩
    exact Candidate.grounded_table he (Or.inl rfl)

theorem columnsOf_of_derived {ref : TableRef} (i : CatalogIndex) (h : ref.derived = true) :
    columnsOf i ref = [] := by
  rw [columnsOf, h]
  cases i.findTable ref.table ref.schema with
  | none => rfl
  | some e => rfl

theorem grounded_columnsOf {ref : TableRef} (hc : c ∈ columnsOf (.build schemas vars) ref) :
    c.Grounded schemas tables := by
  rw [columnsOf, CatalogIndex.findTable_build] at hc
  cases he : lastKnownBy? schemas (TableRef.qualify ref.schema ref.table) with
  | none =>
    rw [he] at hc
    exact absurd hc List.not_mem_nil
  | some e =>
    rw [he] at hc
    cases hd : ref.derived with
    | true =>
      rw [hd] at hc
      exact absurd hc List.not_mem_nil
    | false =>
      rw [hd] at hc
      obtain ⟨column, hcolumn, rfl⟩ := List.mem_map.mp hc
      exact Candidate.grounded_field (.bare (CatalogIndex.mem_entries_of_lastKnownBy? he) hcolumn)

/-- An active column is shown behind its key or by itself. -/
theorem exists_of_mem_activeFrom {l : List (Text × TableRef × Text)} {seen : List Text}
    (hc : c ∈ activeFrom i seen l) :
    ∃ key ref column detail, (key, ref, column) ∈ l ∧
      (c = plain .field (key ++ '.' :: column) detail ∨ c = plain .field column detail) := by
  induction l generalizing seen with
  | nil => exact absurd hc List.not_mem_nil
  | cons p l ih =>
    obtain ⟨key, ref, column⟩ := p
    have hrest {seen : List Text} (hc : c ∈ activeFrom i seen l) :
        ∃ key' ref' column' detail, (key', ref', column') ∈ (key, ref, column) :: l ∧
          (c = plain .field (key' ++ '.' :: column') detail ∨ c = plain .field column' detail) := by
      obtain ⟨key', ref', column', detail, hmem, hc⟩ := ih hc
      exact ⟨key', ref', column', detail, List.mem_cons_of_mem _ hmem, hc⟩
    rw [activeFrom] at hc
    rcases List.mem_cons.mp hc with rfl | hc
    · exact ⟨key, ref, column, _, List.mem_cons_self, Or.inl rfl⟩
    · split_ifs at hc with hseen
      · exact hrest hc
      · rcases List.mem_cons.mp hc with rfl | hc
        · exact ⟨key, ref, column, _, List.mem_cons_self, Or.inr rfl⟩
        · exact hrest hc

theorem grounded_activeColumns (hkeys : (OrderedMap.keys tables).Nodup)
    (hc : c ∈ activeColumns (.build schemas vars) tables) : c.Grounded schemas tables := by
  obtain ⟨key, ref, column, detail, hmem, hc⟩ := exists_of_mem_activeFrom hc
  obtain ⟨p, hp, hmem⟩ := List.mem_flatMap.mp hmem
  obtain ⟨column', hcolumn, hpair⟩ := List.mem_map.mp hmem
  obtain ⟨rfl, rfl, rfl⟩ : p.1 = key ∧ p.2 = ref ∧ column' = column := by simpa using hpair
  obtain ⟨hderived, e, he, hcolumn⟩ := CatalogIndex.exists_of_mem_columnsFor hcolumn
  rcases hc with rfl | rfl
  · exact Candidate.grounded_field (.keyed (OrderedMap.get?_of_mem hkeys hp) hderived he hcolumn)
  · exact Candidate.grounded_field (.bare (CatalogIndex.mem_entries_of_lastKnownBy? he) hcolumn)

end Suggestion

namespace Snippet

variable {schemas : List Schema} {vars : List Variable} {tables : OrderedMap Text TableRef}
  {c : Candidate} {target : TableRef}

theorem grounded_build {pieces : List Piece} {label : Text} {detail : Option Text} :
    (Piece.build pieces label detail).Grounded schemas tables :=
  Candidate.grounded_of_kind nofun nofun nofun

theorem grounded_ofUpdate (hc : c ∈ ofUpdate (.build schemas vars) target) :
    c.Grounded schemas tables := by
  simp only [ofUpdate] at hc
  split_ifs at hc
  · exact absurd hc List.not_mem_nil
  · rcases List.mem_cons.mp hc with rfl | hc
    · exact grounded_build
    · obtain ⟨column, -, rfl⟩ := List.mem_map.mp hc
      exact grounded_build

theorem grounded_ofInsert (hc : c ∈ ofInsert (.build schemas vars) target) :
    c.Grounded schemas tables := by
  simp only [ofInsert] at hc
  split_ifs at hc
  · exact absurd hc List.not_mem_nil
  · rcases List.mem_append.mp hc with hc | hc
    · rcases List.mem_append.mp hc with hc | hc
      · obtain ⟨column, hcolumn, rfl⟩ := List.mem_map.mp hc
        obtain ⟨-, e, he, hcolumn⟩ := CatalogIndex.exists_of_mem_columnsFor hcolumn
        exact Candidate.grounded_field (.bare (CatalogIndex.mem_entries_of_lastKnownBy? he) hcolumn)
      · obtain rfl := List.mem_singleton.mp hc
        exact grounded_build
    · obtain rfl := List.mem_singleton.mp hc
      exact grounded_build

end Snippet

/-! ### The tables of a request -/

namespace Resolution

/-- What is referred to, without the aliases of subqueries. -/
def withoutDerived (r : Resolution) : Resolution :=
  { r with tables := r.tables.filter (!·.2.derived) }

theorem activeColumns_withoutDerived (i : CatalogIndex) (r : Resolution) :
    Suggestion.activeColumns i r.withoutDerived.tables = Suggestion.activeColumns i r.tables := by
  have h (tables : OrderedMap Text TableRef) :
      (tables.filter (!·.2.derived)).flatMap
          (fun p => (i.columnsFor p.2).map fun c => (p.1, p.2, c)) =
        tables.flatMap fun p => (i.columnsFor p.2).map fun c => (p.1, p.2, c) := by
    induction tables with
    | nil => rfl
    | cons p tables ih =>
      cases hd : p.2.derived with
      | false => rw [List.filter_cons_of_pos (by simp [hd]), List.flatMap_cons, List.flatMap_cons, ih]
      | true =>
        rw [List.filter_cons_of_neg (by simp [hd]), ih, List.flatMap_cons,
          CatalogIndex.columnsFor_of_derived i hd, List.map_nil, List.nil_append]
  rw [Suggestion.activeColumns, Suggestion.activeColumns, withoutDerived, h]

end Resolution

/-- The tables at a place are read off some text. -/
theorem CursorPlace.exists_ofText {before after : Text} {place : CursorPlace}
    (h : CursorPlace.find? before after = some place) :
    ∃ t, place.resolution = Resolution.ofText t := by
  simp only [find?] at h
  generalize Clause.detect _ = detected at h
  split_ifs at h
  rw [← Option.some.inj h]
  exact ⟨Text.upper (detected.2.extended (continuation after)), rfl⟩

namespace Request

/-- The tables that the statement at the cursor refers to; none inside a literal or a comment. -/
def resolution (r : Request) : Resolution :=
  ((CursorPlace.find? r.before r.after).map (·.resolution)).getD {}

theorem nodup_keys_resolution (r : Request) : (OrderedMap.keys r.resolution.tables).Nodup := by
  rw [resolution]
  cases hplace : CursorPlace.find? r.before r.after with
  | none => exact List.nodup_nil
  | some place =>
    obtain ⟨t, ht⟩ := CursorPlace.exists_ofText hplace
    rw [Option.map_some, Option.getD_some, ht]
    exact Resolution.nodup_keys_ofText t

end Request

/-! ### Clauses -/

namespace Clause

variable {schemas : List Schema} {vars : List Variable} {conf : Configuration} {r : Resolution}
  {c : Candidate}

theorem grounded_catalogNames (hc : c ∈ catalogNames (.build schemas vars)) :
    c.Grounded schemas r.tables :=
  (List.mem_append.mp hc).elim Suggestion.grounded_schemas Suggestion.grounded_tables

theorem grounded_setColumns (hkeys : (OrderedMap.keys r.tables).Nodup)
    (hc : c ∈ setColumns (.build schemas vars) r) : c.Grounded schemas r.tables := by
  rw [setColumns] at hc
  cases ht : r.updateTarget with
  | some target =>
    rw [ht] at hc
    exact (List.mem_append.mp hc).elim Snippet.grounded_ofUpdate Suggestion.grounded_columnsOf
  | none =>
    rw [ht] at hc
    simp only at hc
    split_ifs at hc
    · exact Suggestion.grounded_activeColumns hkeys hc
    · exact absurd hc List.not_mem_nil

/-- All that a clause has on offer is grounded. -/
theorem grounded_candidates (hkeys : (OrderedMap.keys r.tables).Nodup) (clause : Clause)
    (hc : c ∈ clause.candidates (.build schemas vars) conf r) : c.Grounded schemas r.tables := by
  cases clause with
  | insertColumns =>
    rw [candidates] at hc
    cases ht : r.insertTarget with
    | some target =>
      rw [ht] at hc
      exact Snippet.grounded_ofInsert hc
    | none =>
      rw [ht] at hc
      exact Suggestion.grounded_keywords hc
  | update =>
    exact (List.mem_append.mp hc).elim Suggestion.grounded_tables Suggestion.grounded_keywords
  | set =>
    rcases List.mem_append.mp hc with hc | hc
    · exact (List.mem_append.mp hc).elim (grounded_setColumns hkeys) Suggestion.grounded_operators
    · exact Suggestion.grounded_keywords hc
  | delete =>
    exact (List.mem_append.mp hc).elim Suggestion.grounded_keywords Suggestion.grounded_keywords
  | fromTables | join | into => exact grounded_catalogNames hc
  | whereCondition | having | on =>
    rcases List.mem_append.mp hc with hc | hc
    · exact (List.mem_append.mp hc).elim (Suggestion.grounded_activeColumns hkeys)
        Suggestion.grounded_operators
    · exact Suggestion.grounded_keywords hc
  | absent | select | insert | values | group | order =>
    rcases List.mem_append.mp hc with hc | hc
    · rcases List.mem_append.mp hc with hc | hc
      · split_ifs at hc
        · exact Suggestion.grounded_activeColumns hkeys hc
        · exact grounded_catalogNames hc
      · exact Suggestion.grounded_keywords hc
    · exact Suggestion.grounded_builtins hc

/-- The columns among the candidates of a list. -/
def columns (cs : List Candidate) : List Candidate :=
  cs.filter (·.kind = .field)

theorem columns_append (cs ds : List Candidate) : columns (cs ++ ds) = columns cs ++ columns ds :=
  List.filter_append ..

theorem columns_eq_nil {cs : List Candidate} (h : ∀ c ∈ cs, c.kind ≠ .field) : columns cs = [] :=
  List.filter_eq_nil_iff.mpr fun c hc => by simpa using h c hc

theorem columns_catalogNames (i : CatalogIndex) : columns (catalogNames i) = [] := by
  refine columns_eq_nil fun c hc => ?_
  rcases List.mem_append.mp hc with hc | hc
  · obtain ⟨s, -, rfl⟩ := List.mem_map.mp hc
    exact nofun
  · obtain ⟨e, -, rfl⟩ := List.mem_map.mp hc
    exact nofun

/-- Without tables there are no active columns, so it does not matter that something else takes their
place. -/
theorem columns_activeColumns_or (i : CatalogIndex) (r : Resolution) {others : List Candidate}
    (h : columns others = []) :
    columns (if r.hasTables then Suggestion.activeColumns i r.tables else others) =
      columns (Suggestion.activeColumns i r.tables) := by
  split_ifs with htables
  · rfl
  · have hempty : r.tables = [] := by simpa [Resolution.hasTables] using htables
    rw [h, hempty]
    rfl

/-- The aliases of subqueries add no column to a clause. -/
theorem columns_candidates_withoutDerived (i : CatalogIndex) (conf : Configuration) (r : Resolution)
    (clause : Clause) :
    columns (clause.candidates i conf r.withoutDerived) = columns (clause.candidates i conf r) := by
  have hactive := Resolution.activeColumns_withoutDerived i r
  have hor {others : List Candidate} (h : columns others = []) :
      columns (if r.withoutDerived.hasTables then
          Suggestion.activeColumns i r.withoutDerived.tables else others) =
        columns (if r.hasTables then Suggestion.activeColumns i r.tables else others) := by
    rw [columns_activeColumns_or i _ h, columns_activeColumns_or i _ h, hactive]
  cases clause with
  | insertColumns | update | delete | fromTables | join | into => rfl
  | set =>
    have hset : columns (setColumns i r.withoutDerived) = columns (setColumns i r) := by
      rw [setColumns, setColumns]
      cases ht : r.updateTarget with
      | some target => rw [show r.withoutDerived.updateTarget = some target from ht]
      | none =>
        rw [show r.withoutDerived.updateTarget = none from ht]
        exact hor rfl
    rw [candidates, candidates, columns_append, columns_append, columns_append, columns_append, hset]
  | whereCondition | having | on => rw [candidates, candidates, hactive]
  | absent | select | insert | values | group | order =>
    rw [candidates, candidates, columns_append, columns_append, columns_append, columns_append,
      hor (columns_catalogNames i)]

end Clause

/-! ### Paths -/

namespace DotPath

variable {schemas : List Schema} {vars : List Variable} {tables : OrderedMap Text TableRef}
  {c : Candidate} {t name : Text}

/-- All that a path asks for is grounded. -/
theorem grounded_candidates {path : DotPath} (hc : c ∈ path.candidates (.build schemas vars)) :
    c.Grounded schemas tables := by
  cases path with
  | tablesOf schema => exact Suggestion.grounded_schemaTables hc
  | columnsOfAlias _ _ | columnsOfTable _ | columnsOfPath _ | columnsIn _ _ =>
    exact Suggestion.grounded_columnsOf hc

/-- The text ends in a path that asks for what a name stands for: the name, a dot and what is being
typed, or the name and another one with a dot behind each. -/
def AsksFor (t name : Text) : Prop :=
  name ≠ [] ∧ ((∃ typed, t.lastPath.split '.' = [name, typed]) ∨
    ∃ second, second ≠ [] ∧ t.lastPath.split '.' = [name, second, []])

/-- A path that asks for the alias of a subquery gets no column. -/
theorem exists_detect?_of_derived {r : Resolution} {ref : TableRef} (i : CatalogIndex)
    (h : AsksFor t name) (href : r.lookup name = some ref) (hderived : ref.derived = true) :
    ∃ path, detect? t i r = some path ∧ ∀ c ∈ path.candidates i, c.kind ≠ .field := by
  have hnone (aliasName : Text) {path : DotPath}
      (hpath : path = columnsOfAlias aliasName ref ∨ path = columnsOfPath ref) :
      ∀ c ∈ path.candidates i, c.kind ≠ .field := by
    intro c hc
    have hempty : path.candidates i = [] := by
      rcases hpath with rfl | rfl
      · exact Suggestion.columnsOf_of_derived i hderived
      · exact Suggestion.columnsOf_of_derived i hderived
    exact absurd (hempty ▸ hc) List.not_mem_nil
  obtain ⟨hname, ⟨typed, hparts⟩ | ⟨second, hsecond, hparts⟩⟩ := h
  · have hdetect : detect? t i r = ofName? i r name := by
      simp [detect?, hparts, hname]
    rw [hdetect, ofName?]
    split_ifs with hschema
    · refine ⟨_, rfl, fun c hc => ?_⟩
      rw [candidates, Suggestion.schemaTables] at hc
      cases hs : i.findSchema name with
      | none =>
        rw [hs] at hc
        exact absurd hc List.not_mem_nil
      | some s =>
        rw [hs] at hc
        obtain ⟨table, -, rfl⟩ := List.mem_map.mp hc
        exact nofun
    · rw [href]
      exact ⟨_, rfl, hnone name (Or.inl rfl)⟩
  · have hdetect : detect? t i r = ofNames? i r name second := by
      simp [detect?, hparts, hname, hsecond]
    rw [hdetect, ofNames?, href]
    exact ⟨_, rfl, hnone name (Or.inr rfl)⟩

end DotPath

theorem VariableContext.kind_of_mem_candidates {i : CatalogIndex} {v : VariableContext}
    {c : Candidate} (hc : c ∈ v.candidates i) : c.kind = .workflowVariable := by
  rw [candidates] at hc
  split at hc
  · obtain ⟨n, -, rfl⟩ := List.mem_map.mp hc
    rfl
  · obtain ⟨n, -, rfl⟩ := List.mem_map.mp hc
    rfl
  · obtain ⟨n, -, rfl⟩ := List.mem_map.mp hc
    rfl

/-! ### Answers -/

namespace Engine

variable {conf : Configuration} {r : Request} {c : Candidate}

theorem resolution_of_find? {place : CursorPlace}
    (h : CursorPlace.find? r.before r.after = some place) : r.resolution = place.resolution := by
  rw [Request.resolution, h]
  rfl

/-- A candidate of an answer is one for a variable, or one at a place, for a path or for the clause. -/
theorem mem_complete_cases {e : Engine} (hc : c ∈ e.complete r) :
    (∃ v : VariableContext, c ∈ v.candidates e.index) ∨
      ∃ place, CursorPlace.find? r.before r.after = some place ∧
        ((∃ path, DotPath.detect? r.before e.index place.resolution = some path ∧
            c ∈ path.candidates e.index) ∨
          (DotPath.detect? r.before e.index place.resolution = none ∧
            c ∈ place.clause.candidates e.index e.snapshot.configuration place.resolution)) := by
  rw [complete, Request.complete, Request.route] at hc
  cases hv : VariableContext.detect? r.before with
  | some v =>
    rw [hv] at hc
    exact Or.inl ⟨v, Candidate.mem_of_mem_unique hc⟩
  | none =>
    rw [hv] at hc
    cases hplace : CursorPlace.find? r.before r.after with
    | none =>
      rw [hplace] at hc
      exact absurd hc List.not_mem_nil
    | some place =>
      refine Or.inr ⟨place, rfl, ?_⟩
      simp only [hplace] at hc
      cases hpath : DotPath.detect? r.before e.index place.resolution with
      | some path =>
        rw [hpath] at hc
        exact Or.inl ⟨path, rfl, Candidate.mem_of_mem_unique hc⟩
      | none =>
        rw [hpath] at hc
        exact Or.inr ⟨rfl, (List.mem_filter.mp (Candidate.mem_of_mem_unique hc)).1⟩

theorem grounded_of_mem_complete (hc : c ∈ (ofConfiguration conf).complete r) :
    c.Grounded conf.schemas r.resolution.tables := by
  rcases mem_complete_cases hc with ⟨v, hc⟩ | ⟨place, hplace, ⟨path, -, hc⟩ | ⟨-, hc⟩⟩
  · have hkind := VariableContext.kind_of_mem_candidates hc
    exact Candidate.grounded_of_kind (by rw [hkind]; nofun) (by rw [hkind]; nofun)
      (by rw [hkind]; nofun)
  · exact DotPath.grounded_candidates hc
  · have hkeys := r.nodup_keys_resolution
    rw [resolution_of_find? hplace] at hkeys ⊢
    exact Clause.grounded_candidates hkeys place.clause hc

theorem kind_ne_field_of_derived {name : Text} {ref : TableRef} (h : DotPath.AsksFor r.before name)
    (href : r.resolution.lookup name = some ref) (hderived : ref.derived = true)
    (hc : c ∈ (ofConfiguration conf).complete r) : c.kind ≠ .field := by
  rcases mem_complete_cases hc with ⟨v, hc⟩ | ⟨place, hplace, hc⟩
  · rw [VariableContext.kind_of_mem_candidates hc]
    exact nofun
  · rw [resolution_of_find? hplace] at href
    obtain ⟨path, hpath, hcolumns⟩ :=
      DotPath.exists_detect?_of_derived (ofConfiguration conf).index h href hderived
    rcases hc with ⟨path', hpath', hc⟩ | ⟨hnone, -⟩
    · obtain rfl : path = path' := Option.some.inj (hpath.symm.trans hpath')
      exact hcolumns c hc
    · rw [hpath] at hnone
      cases hnone

/-- **Candidates are grounded in the catalog**: in every answer schemas, tables and columns are those
of the configuration. The alias of a subquery contributes no column, neither to a path that
asks for it nor to a clause. -/
theorem complete_grounded (conf : Configuration) (r : Request) :
    (∀ c ∈ (ofConfiguration conf).complete r, c.Grounded conf.schemas r.resolution.tables) ∧
      (∀ name ref, r.resolution.lookup name = some ref → ref.derived = true →
        DotPath.AsksFor r.before name →
          ∀ c ∈ (ofConfiguration conf).complete r, c.kind ≠ .field) ∧
      ∀ clause : Clause,
        Clause.columns
            (clause.candidates (ofConfiguration conf).index conf r.resolution.withoutDerived) =
          Clause.columns (clause.candidates (ofConfiguration conf).index conf r.resolution) :=
  ⟨fun _ => grounded_of_mem_complete,
    fun _ _ href hderived h _ => kind_ne_field_of_derived h href hderived,
    fun clause => Clause.columns_candidates_withoutDerived _ conf r.resolution clause⟩

/-- A subquery has the name of a table: in a condition only the columns of the other table are on
offer, and behind the subquery's alias none. -/
theorem complete_grounded_beside_subquery :
    let conf : Configuration :=
      { schemas := [⟨"S".toList, [⟨"D".toList, ["x".toList]⟩, ⟨"T".toList, ["y".toList]⟩]⟩]
        operators := [] }
    let before := "SELECT 1 FROM t a, (SELECT 2 FROM d) d WHERE ".toList
    NamesColumn conf.schemas (Request.resolution { before }).tables "A.y".toList ∧
      (Suggestion.plain .field "A.y".toList (some "T.y".toList)) ∈
        (ofConfiguration conf).complete { before } ∧
      ∀ c ∈ (ofConfiguration conf).complete { before := before ++ "d.".toList }, c.kind ≠ .field := by
  intro conf before
  have hmem : Suggestion.plain .field "A.y".toList (some "T.y".toList) ∈
      (ofConfiguration conf).complete { before } := by decide +kernel
  have hasks : DotPath.AsksFor (before ++ "d.".toList) "d".toList :=
    ⟨by decide, Or.inl ⟨[], by decide⟩⟩
  have hlookup : (Request.resolution { before := before ++ "d.".toList }).lookup "d".toList =
      some { table := "D".toList, derived := true } := by decide +kernel
  exact ⟨(((complete_grounded conf { before }).1 _ hmem).field rfl).2, hmem,
    (complete_grounded conf { before := before ++ "d.".toList }).2.1 _ _ hlookup rfl hasks⟩

end Engine

end SqlAssist
