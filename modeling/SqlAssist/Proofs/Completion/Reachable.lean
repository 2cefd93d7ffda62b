import SqlAssist.Completion.DotPath
import SqlAssist.Proofs.Catalog.Lookup
import SqlAssist.Proofs.Sql.Registration
import SqlAssist.Proofs.Text.Search
import SqlAssist.Proofs.Text.WordCapitals
import Mathlib.Data.List.Find

/-!
# What is offered can be reached

A table is offered behind the name of its schema, and its columns behind the two names. Names are
compared in capitals, and of several entries under one name the last in the catalog counts
(`IsLast`), so that **`reaches_last`** is what such paths are answered with: the tables of the last
schema of the name, and the columns of the last table of the qualified name. A table of a name of
its own is therefore offered and leads to its columns, and `later_name_hides` is a table that is
hidden by what comes after it.

The tables are kept in one map, some keys being names of tables and some qualified names. The two
kinds never meet: capitals of a name hold no dot (`dot_not_mem_upper`).
-/

namespace SqlAssist

/-- A name as paths can spell it: not empty, and of name characters only. -/
def Text.IsName (t : Text) : Prop :=
  t ≠ [] ∧ ∀ c ∈ t, isNameChar c = true

instance (t : Text) : Decidable t.IsName :=
  inferInstanceAs (Decidable (_ ∧ _))

/-- The schema and its tables have names that paths can spell. -/
def Schema.IsNamed (s : Schema) : Prop :=
  s.name.IsName ∧ ∀ t ∈ s.tables, t.name.IsName

instance (s : Schema) : Decidable s.IsNamed :=
  inferInstanceAs (Decidable (_ ∧ ∀ t ∈ s.tables, _))

/-- No entry of the list behind this one has its name, whatever the case. -/
def IsLast {α : Type} (name : α → Text) (l : List α) (a : α) : Prop :=
  ∃ before after, l = before ++ a :: after ∧ ∀ b ∈ after, (name b).upper ≠ (name a).upper

namespace IsLast

variable {α : Type} {name : α → Text} {l : List α} {a b : α}

/-- Of each name there is one last entry. -/
theorem unique (ha : IsLast name l a) (hb : IsLast name l b) (h : (name a).upper = (name b).upper) :
    a = b := by
  obtain ⟨u, r, rfl, hr⟩ := ha
  obtain ⟨v, s, e, hs⟩ := hb
  rcases List.append_eq_append_iff.mp e with ⟨w, -, hw⟩ | ⟨w, -, hw⟩
  · cases w with
    | nil => exact (List.cons.inj hw).1
    | cons c w =>
      obtain ⟨rfl, rfl⟩ := List.cons.inj hw
      exact absurd h.symm (hr b (by simp))
  · cases w with
    | nil => exact (List.cons.inj hw).1.symm
    | cons c w =>
      obtain ⟨rfl, rfl⟩ := List.cons.inj hw
      exact absurd h (hs a (by simp))

/-- A search from the end finds the last entry of a name. -/
theorem exists_find?_reverse (name : α → Text) (h : a ∈ l) :
    ∃ last, IsLast name l last ∧ (name last).upper = (name a).upper ∧
      l.reverse.find? (fun b => decide ((name b).upper = (name a).upper)) = some last := by
  cases hfind : l.reverse.find? (fun b => decide ((name b).upper = (name a).upper)) with
  | none => exact absurd rfl (find?_reverse_eq_none_iff.mp hfind a h)
  | some last =>
    obtain ⟨before, after, hl, hname, hafter⟩ := find?_reverse_eq_some_iff.mp hfind
    refine ⟨last, ⟨before, after, hl, fun b hb => ?_⟩, hname, rfl⟩
    rw [hname]
    exact hafter b hb

end IsLast

namespace Text

theorem IsName.dot_not_mem {t : Text} (h : t.IsName) : '.' ∉ t :=
  fun hdot => absurd (h.2 '.' hdot) (by decide)

end Text

namespace TableEntry

/-- The two names of the table can be spelled in a path. -/
def IsNamed (e : TableEntry) : Prop :=
  e.schema.IsName ∧ e.table.name.IsName

theorem isNamed_of_mem_entries {schemas : List Schema} (hnames : ∀ s ∈ schemas, s.IsNamed)
    {e : TableEntry} (he : e ∈ CatalogIndex.entries schemas) : e.IsNamed := by
  obtain ⟨s, hs, he⟩ := List.mem_flatMap.mp he
  obtain ⟨t, ht, rfl⟩ := List.mem_map.mp he
  exact ⟨(hnames s hs).1, (hnames s hs).2 t ht⟩

/-- A table is known by a qualified name only if its own qualified name is that one. -/
theorem IsNamed.isKnownBy_iff {e e' : TableEntry} (h : e.IsNamed) :
    CatalogIndex.IsKnownBy e e'.qualifiedName ↔ e.qualifiedName.upper = e'.qualifiedName.upper := by
  constructor
  · rintro (hq | ht)
    · exact hq
    · have hdot : '.' ∈ e'.qualifiedName.upper := by
        refine List.mem_flatMap.mpr ⟨'.', ?_, by decide⟩
        rw [qualifiedName]
        simp
      exact absurd (ht ▸ hdot) (Text.dot_not_mem_upper h.2.2)
  · exact Or.inl

end TableEntry

namespace CatalogIndex

/-- Behind the name of its schema a table is found by its qualified name alone. -/
theorem findTable_of_isNamed {schemas : List Schema} (hnames : ∀ s ∈ schemas, s.IsNamed)
    (vars : List Variable) {e : TableEntry} (hschema : e.schema ≠ []) :
    (build schemas vars).findTable e.table.name (some e.schema) =
      (entries schemas).reverse.find? fun e' =>
        decide (e'.qualifiedName.upper = e.qualifiedName.upper) := by
  have hqualify : TableRef.qualify (some e.schema) e.table.name = e.qualifiedName := by
    obtain ⟨schema, table⟩ := e
    cases schema with
    | nil => exact absurd rfl hschema
    | cons c schema => rfl
  rw [findTable_build, hqualify, lastKnownBy?]
  refine List.find?_congr fun e' he' => decide_eq_decide.mpr ?_
  exact (TableEntry.isNamed_of_mem_entries hnames (List.mem_reverse.mp he')).isKnownBy_iff

end CatalogIndex

namespace DotPath

/-- What a text is answered with if it ends in a path that the catalog or the tables of the
statement know. -/
def answer? (t : Text) (i : CatalogIndex) (r : Resolution) : Option (List Candidate) :=
  (detect? t i r).map (candidates i)

variable {front : Text} {i : CatalogIndex} {r : Resolution}

/-- The name of a schema and a dot are answered with its tables. -/
theorem answer?_schema {name : Text} (hname : name.IsName)
    (hfront : front.getLast?.any Text.isPathChar = false) {s : Schema}
    (hs : i.findSchema name = some s) :
    answer? (front ++ (name ++ ['.'])) i r =
      some (s.tables.map fun t => Suggestion.table t.name t) := by
  have hsplit : Text.split '.' (name ++ ['.']) = [name, []] :=
    Text.split_append_cons hname.dot_not_mem []
  have hpath := Text.lastPath_append hfront fun c hc => Or.inl (hname.2 c hc)
  have hdetect : detect? (front ++ (name ++ ['.'])) i r = some (.tablesOf name) := by
    rw [detect?, hpath, hsplit]
    simp [hname.1, ofName?, hs]
  simp only [answer?, hdetect, Option.map_some, candidates, Suggestion.schemaTables, hs]

/-- The qualified name of a table and a dot are answered with the columns of the table that is
found under it. -/
theorem answer?_table {e found : TableEntry} (he : e.IsNamed)
    (hfront : front.getLast?.any Text.isPathChar = false) (hr : r.tables = [])
    (hfound : i.findTable e.table.name (some e.schema) = some found) :
    answer? (front ++ (e.qualifiedName ++ ['.'])) i r =
      some (found.table.columns.map fun c =>
        Suggestion.plain .field c (some (found.qualifiedName ++ '.' :: c))) := by
  have hsplit : Text.split '.' (e.qualifiedName ++ ['.']) = [e.schema, e.table.name, []] := by
    rw [TableEntry.qualifiedName, List.append_assoc, List.cons_append,
      Text.split_append_cons he.1.dot_not_mem, Text.split_append_cons he.2.dot_not_mem]
    rfl
  have hpath : (front ++ (e.qualifiedName ++ ['.'])).lastPath = e.qualifiedName ++ ['.'] := by
    refine Text.lastPath_append hfront fun c hc => ?_
    rw [TableEntry.qualifiedName, List.mem_append, List.mem_cons] at hc
    rcases hc with hc | hc | hc
    · exact Or.inl (he.1.2 c hc)
    · exact Or.inr hc
    · exact Or.inl (he.2.2 c hc)
  have hdetect : detect? (front ++ (e.qualifiedName ++ ['.'])) i r =
      some (.columnsOfPath { table := e.table.name, schema := some e.schema }) := by
    rw [detect?, hpath, hsplit]
    simp [he.1.1, he.2.1, ofNames?, Resolution.lookup_of_tables_eq_nil hr, hfound]
  simp [answer?, hdetect, candidates, Suggestion.columnsOf, hfound]

/-- **Paths lead to the last entries of their names**: the name of a schema to the tables of the
last schema of the name, and the qualified name of a table, as it is offered, to the columns of the
last table of the qualified name. What is itself the last of its name is thus reached. -/
theorem reaches_last (schemas : List Schema) (hnames : ∀ s ∈ schemas, s.IsNamed)
    (vars : List Variable) (front : Text) (hfront : front.getLast?.any Text.isPathChar = false)
    (r : Resolution) (hr : r.tables = []) :
    (∀ s ∈ schemas, ∃ last, IsLast Schema.name schemas last ∧ last.name.upper = s.name.upper ∧
      (IsLast Schema.name schemas s → last = s) ∧
      answer? (front ++ (s.name ++ ['.'])) (.build schemas vars) r =
        some (last.tables.map fun t => Suggestion.table t.name t)) ∧
    (∀ e ∈ CatalogIndex.entries schemas, ∃ last : TableEntry,
      IsLast TableEntry.qualifiedName (CatalogIndex.entries schemas) last ∧
      last.qualifiedName.upper = e.qualifiedName.upper ∧
      (IsLast TableEntry.qualifiedName (CatalogIndex.entries schemas) e → last = e) ∧
      answer? (front ++ (e.qualifiedName ++ ['.'])) (.build schemas vars) r =
        some (last.table.columns.map fun c =>
          Suggestion.plain .field c (some (last.qualifiedName ++ '.' :: c)))) ∧
    Suggestion.tables (.build schemas vars) =
      (CatalogIndex.entries schemas).map fun e => Suggestion.table e.qualifiedName e.table := by
  refine ⟨fun s hs => ?_, fun e he => ?_, rfl⟩
  · obtain ⟨last, hlast, hname, hfind⟩ := IsLast.exists_find?_reverse Schema.name hs
    have hschema := (CatalogIndex.findSchema_build schemas vars s.name).trans hfind
    exact ⟨last, hlast, hname, fun h => hlast.unique h hname,
      answer?_schema (hnames s hs).1 hfront hschema⟩
  · obtain ⟨last, hlast, hname, hfind⟩ := IsLast.exists_find?_reverse TableEntry.qualifiedName he
    have hnamed := TableEntry.isNamed_of_mem_entries hnames he
    have htable := (CatalogIndex.findTable_of_isNamed hnames vars hnamed.1.1).trans hfind
    exact ⟨last, hlast, hname, fun h => hlast.unique h hname,
      answer?_table hnamed hfront hr htable⟩

/-- A catalog that names a schema twice and a table twice, in different case. -/
def renamed : List Schema :=
  [⟨"HR".toList, [⟨"EMP".toList, ["ID".toList]⟩]⟩,
    ⟨"hr".toList, [⟨"Job".toList, ["A".toList]⟩, ⟨"JOB".toList, ["B".toList, "C".toList]⟩]⟩]

/-- The tables of that catalog. -/
def emp : TableEntry := ⟨"HR".toList, ⟨"EMP".toList, ["ID".toList]⟩⟩

@[inherit_doc emp]
def job : TableEntry := ⟨"hr".toList, ⟨"Job".toList, ["A".toList]⟩⟩

@[inherit_doc emp]
def laterJob : TableEntry := ⟨"hr".toList, ⟨"JOB".toList, ["B".toList, "C".toList]⟩⟩

/-- The table of the first schema leads to its column, and the later of two tables of one name
hides the other. -/
theorem reaches_last_renamed :
    answer? "SELECT HR.EMP.".toList (.build renamed []) {} =
        some [Suggestion.plain .field "ID".toList (some "HR.EMP.ID".toList)] ∧
      answer? "SELECT hr.Job.".toList (.build renamed []) {} =
        some [Suggestion.plain .field "B".toList (some "hr.JOB.B".toList),
          Suggestion.plain .field "C".toList (some "hr.JOB.C".toList)] := by
  have hentries : CatalogIndex.entries renamed = [emp, job, laterJob] := rfl
  have hnames : ∀ s ∈ renamed, s.IsNamed := by decide
  obtain ⟨-, htables, -⟩ :=
    reaches_last renamed hnames [] "SELECT ".toList (by decide) {} rfl
  rw [hentries] at htables
  have hlast : IsLast TableEntry.qualifiedName [emp, job, laterJob] emp :=
    ⟨[], [job, laterJob], rfl, by decide⟩
  have hlater : IsLast TableEntry.qualifiedName [emp, job, laterJob] laterJob :=
    ⟨[emp, job], [], rfl, fun _ h => absurd h List.not_mem_nil⟩
  constructor
  · obtain ⟨last, -, -, hself, hanswer⟩ := htables emp List.mem_cons_self
    obtain rfl := hself hlast
    have htext : "SELECT ".toList ++ (emp.qualifiedName ++ ['.']) = "SELECT HR.EMP.".toList := by
      decide
    rw [htext] at hanswer
    exact hanswer.trans (by decide)
  · obtain ⟨last, hl, hname, -, hanswer⟩ :=
      htables job (List.mem_cons_of_mem _ List.mem_cons_self)
    have hupper : job.qualifiedName.upper = laterJob.qualifiedName.upper := by decide
    obtain rfl := hl.unique hlater (hname.trans hupper)
    have htext : "SELECT ".toList ++ (job.qualifiedName ++ ['.']) = "SELECT hr.Job.".toList := by
      decide
    rw [htext] at hanswer
    exact hanswer.trans (by decide)

/-- A later schema of the same name hides the tables of a schema, and a later table of the same
name the columns of a table. A text that ends in the name of a schema may end in a longer name. -/
theorem later_name_hides :
    (∀ s ∈ renamed, s.IsNamed) ∧
      (∃ s ∈ renamed, ∃ t ∈ s.tables, ¬ ∃ cs,
        answer? ("SELECT ".toList ++ (s.name ++ ['.'])) (.build renamed []) {} = some cs ∧
          t.name ∈ cs.map (·.label)) ∧
      (∃ s ∈ renamed, ∃ t ∈ s.tables, ¬ ∃ cs,
        answer? ("SELECT ".toList ++ (s.name ++ '.' :: t.name ++ ['.'])) (.build renamed []) {} =
          some cs ∧ cs.map (·.label) = t.columns) ∧
      answer? ("SELECT S".toList ++ ("HR".toList ++ ['.'])) (.build renamed []) {} = none := by
  have labels : ∀ {t : Text} {cs : List Candidate},
      answer? t (.build renamed []) {} = some cs →
        (answer? t (.build renamed []) {}).map (List.map Candidate.label) =
          some (cs.map Candidate.label) := fun h => congrArg (Option.map (List.map _)) h
  refine ⟨by decide, ?_, ?_, by decide⟩
  · refine ⟨_, List.mem_cons_self, ⟨"EMP".toList, ["ID".toList]⟩, List.mem_cons_self, ?_⟩
    rintro ⟨cs, hcs, hmem⟩
    have hanswer : (answer? "SELECT HR.".toList (.build renamed []) {}).map
        (List.map Candidate.label) = some ["Job".toList, "JOB".toList] := by decide
    rw [Option.some.inj ((labels hcs).symm.trans hanswer)] at hmem
    exact absurd hmem (by decide)
  · refine ⟨_, List.mem_cons_of_mem _ List.mem_cons_self, ⟨"Job".toList, ["A".toList]⟩,
      List.mem_cons_self, ?_⟩
    rintro ⟨cs, hcs, hcolumns⟩
    have hanswer : (answer? "SELECT hr.Job.".toList (.build renamed []) {}).map
        (List.map Candidate.label) = some ["B".toList, "C".toList] := by decide
    rw [Option.some.inj ((labels hcs).symm.trans hanswer)] at hcolumns
    exact absurd hcolumns (by decide)

end DotPath

end SqlAssist
