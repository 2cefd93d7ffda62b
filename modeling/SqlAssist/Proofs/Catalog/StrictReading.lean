import SqlAssist.Proofs.Catalog.RoundTrip

/-!
# Strict and lenient reading

A document is read strictly by looking for a defect first and reading leniently then. Here the same
is done in one pass (`Document.readIn`): both readers go through the document part by part, and at
what does not fit the strict one stops where the lenient one goes on without it. That the two ways
agree, `Document.readIn_eq`, says that no reader leaves out more or less than the other refuses.

**`Document.strict_reading`** then says which documents are refused: the structural defects
(`Document.IsDefective`) are told in terms of the document alone. Parts that are no defect when they
do not fit, such as columns, functions and variables, are left out by both readers.
-/

namespace SqlAssist

open Json

namespace Document

/-! ### Reading in one pass -/

/-- How a reader takes what does not fit. -/
inductive Mode where
  /-- It leaves it out. -/
  | lenient
  /-- It refuses the document. -/
  | strict
  deriving DecidableEq, Repr

namespace Mode

/-- What is read where a defect is: something in its place, or nothing of the whole document. -/
def onDefect {α : Type} (mode : Mode) (defect : Defect) (instead : α) : Except Defect α :=
  match mode with
  | .lenient => .ok instead
  | .strict => .error defect

/-- The defect as the reader minds it. -/
def minded : Mode → Option Defect → Option Defect
  | .lenient, _ => none
  | .strict, defect? => defect?

end Mode

/-- Reads entries one after the other and keeps what is read of them. -/
def collect {α : Type} (f : Value → Except Defect (Option α)) : List Value → Except Defect (List α)
  | [] => .ok []
  | entry :: entries => do
    let kept ← f entry
    let others ← collect f entries
    pure (kept.toList ++ others)

/-- Reads a table of a schema. -/
def tableIn (mode : Mode) (schema : Text) (entry : Value) : Except Defect (Option Table) :=
  match name? entry with
  | none => mode.onDefect (.namelessTable schema) none
  | some n => .ok (some ⟨n.trim, strings (first (membersOf entry) ["columns"])⟩)

/-- Reads a schema. -/
def schemaIn (mode : Mode) (entry : Value) : Except Defect (Option Schema) :=
  match name? entry with
  | none => mode.onDefect (.namelessSchema entry) none
  | some n => do
    let tables ← collect (tableIn mode n) (itemsOf (first (membersOf entry) ["tables"]))
    pure (some ⟨n.trim, tables⟩)

/-- Reads the schemas of a document. -/
def schemaListIn (mode : Mode) : Value → Except Defect (List Schema)
  | .null => .ok []
  | .array entries => collect (schemaIn mode) entries
  | _ => mode.onDefect .schemasNotAList []

/-- Reads the functions of a document. -/
def builtinsByTypeIn (mode : Mode) : Value → Except Defect (OrderedMap Text (List Builtin))
  | .null => .ok Defaults.builtins
  | .object groups => .ok (builtins (.object groups))
  | _ => mode.onDefect .builtinsNotAnObject []

/-- Reads a document in one pass. -/
def readIn (mode : Mode) (defaultType : Text) : Value → Except Defect Configuration
  | .object ms => do
    let databaseType := first ms ["databaseType", "database_type", "dbType"]
    let schemas ← schemaListIn mode (schemasIn ms)
    let builtinsByType ← builtinsByTypeIn mode (builtinsIn ms)
    pure
      { databaseType := if databaseType.isGiven then databaseType.shown else defaultType
        schemas
        builtinsByType
        keywords := orDefault (first ms ["keywords", "sqlKeywords"]) Defaults.keywords strings
        operators := orDefault (first ms ["operators", "sqlOperators"]) Defaults.operators strings
        workflowVariables :=
          (itemsOf (first ms ["workflowVariables", "workflow_variables", "workflowVars"])).filterMap
            variableOf? }
  | _ => mode.onDefect .notAnObject { databaseType := defaultType }

/-! ### Looking for defects first -/

section

variable {α β : Type} {mode : Mode} {a : α} {d d' : Option Defect} {schema defaultType : Text}
  {entry v : Value} {entries : List Value}

/-- The defect if there is one, else the value. -/
def refuseOr (d : Option Defect) (a : α) : Except Defect α :=
  match d with
  | some defect => .error defect
  | none => .ok a

theorem refuseOr_bind (g : α → β) :
    (refuseOr d a >>= fun x => refuseOr d' (g x)) = refuseOr (d.or d') (g a) := by
  cases d <;> rfl

theorem refuseOr_bind_ok (g : α → β) :
    (refuseOr d a >>= fun x => Except.ok (g x)) = refuseOr d (g a) := by
  cases d <;> rfl

theorem exists_refuseOr_eq_error_iff : (∃ e, refuseOr d a = .error e) ↔ d.isSome := by
  cases d <;> simp [refuseOr]

theorem eq_of_refuseOr_eq_ok {b : α} (h : refuseOr d a = .ok b) : a = b := by
  cases d with
  | none => exact Except.ok.inj h
  | some defect => cases h

namespace Mode

theorem minded_none (mode : Mode) : mode.minded none = none := by
  cases mode <;> rfl

theorem minded_or (mode : Mode) (d d' : Option Defect) :
    mode.minded (d.or d') = (mode.minded d).or (mode.minded d') := by
  cases mode <;> rfl

theorem onDefect_eq (mode : Mode) (defect : Defect) (a : α) :
    mode.onDefect defect a = refuseOr (mode.minded (some defect)) a := by
  cases mode <;> rfl

theorem ok_eq (mode : Mode) (a : α) : .ok a = refuseOr (mode.minded none) a := by
  rw [minded_none]
  rfl

end Mode

/-- Reading entries one after the other is looking for the first defect among them, and then keeping
what they are read as. -/
theorem collect_eq {f : Value → Except Defect (Option α)} {defectOf : Value → Option Defect}
    {g : Value → Option α} (hf : ∀ entry, f entry = refuseOr (mode.minded (defectOf entry)) (g entry))
    (entries : List Value) :
    collect f entries =
      refuseOr (mode.minded (entries.findSome? defectOf)) (entries.filterMap g) := by
  induction entries with
  | nil => exact mode.ok_eq []
  | cons entry entries ih =>
    have hfind : (entry :: entries).findSome? defectOf =
        (defectOf entry).or (entries.findSome? defectOf) := by
      rw [List.findSome?_cons]
      cases defectOf entry <;> rfl
    have hkeep : (entry :: entries).filterMap g = (g entry).toList ++ entries.filterMap g := by
      rw [List.filterMap_cons]
      cases g entry <;> rfl
    calc collect f (entry :: entries)
      _ = (f entry >>= fun kept => collect f entries >>= fun others =>
            .ok (kept.toList ++ others)) := rfl
      _ = refuseOr ((mode.minded (defectOf entry)).or (mode.minded (entries.findSome? defectOf)))
            ((g entry).toList ++ entries.filterMap g) := by
        simp only [hf, ih, refuseOr_bind_ok, refuseOr_bind]
      _ = _ := by rw [← Mode.minded_or, hfind, hkeep]

theorem tableIn_eq (mode : Mode) (schema : Text) (entry : Value) :
    tableIn mode schema entry =
      refuseOr (mode.minded (if (name? entry).isSome then none else some (.namelessTable schema)))
        (table? entry) := by
  rw [tableIn, table?]
  cases name? entry with
  | none => exact mode.onDefect_eq _ none
  | some n => exact mode.ok_eq _

theorem findSome?_nameless (schema : Text) (entries : List Value) :
    (entries.findSome? fun entry =>
      if (name? entry).isSome then none else some (.namelessTable schema)) =
      tableDefect? schema (.array entries) := by
  rw [tableDefect?, itemsOf_array]
  induction entries with
  | nil => rfl
  | cons entry entries ih =>
    rw [List.findSome?_cons, List.all_cons]
    cases (name? entry).isSome with
    | false => rfl
    | true => exact ih

theorem schemaIn_eq (mode : Mode) (entry : Value) :
    schemaIn mode entry = refuseOr (mode.minded (schemaDefect? entry)) (schema? entry) := by
  rw [schemaIn, schemaDefect?, schema?]
  cases name? entry with
  | none => exact mode.onDefect_eq _ none
  | some n =>
    have htables := findSome?_nameless n (itemsOf (first (membersOf entry) ["tables"]))
    have hread := collect_eq (tableIn_eq mode n) (itemsOf (first (membersOf entry) ["tables"]))
    rw [htables] at hread
    simp only [hread]
    exact refuseOr_bind_ok _

theorem readIn_eq (mode : Mode) (defaultType : Text) (v : Value) :
    readIn mode defaultType v = refuseOr (mode.minded (defect? v)) (read defaultType v) := by
  cases v with
  | object ms =>
    have hschemas : schemaListIn mode (schemasIn ms) =
        refuseOr (mode.minded (match schemasIn ms with
          | .null => none
          | .array entries => entries.findSome? schemaDefect?
          | _ => some .schemasNotAList)) ((itemsOf (schemasIn ms)).filterMap schema?) := by
      cases schemasIn ms with
      | null => exact mode.ok_eq []
      | array entries => exact collect_eq (schemaIn_eq mode) entries
      | _ => exact mode.onDefect_eq _ _
    have hbuiltins : builtinsByTypeIn mode (builtinsIn ms) =
        refuseOr (mode.minded (match builtinsIn ms with
          | .null | .object _ => none
          | _ => some .builtinsNotAnObject)) (orDefault (builtinsIn ms) Defaults.builtins builtins) := by
      cases builtinsIn ms with
      | null => exact mode.ok_eq _
      | object groups => exact mode.ok_eq _
      | _ => exact mode.onDefect_eq _ _
    rw [readIn, hschemas, hbuiltins, defect?, Mode.minded_or]
    exact (congrArg _ (funext fun _ => refuseOr_bind_ok _)).trans (refuseOr_bind _)
  | _ => exact mode.onDefect_eq _ _

end

/-! ### Structural defects -/

/-- The object has the value under the first of the names that it has. -/
def IsFirst (members : OrderedMap Text Value) (names : List String) (v : Value) : Prop :=
  ∃ before name after, names = before ++ name :: after ∧
    (∀ n ∈ before, members.get? n.toList = none) ∧ members.get? name.toList = some v

/-- The entry is an object with a name that is a string and not blank. -/
def IsNamed (entry : Value) : Prop :=
  ∃ (members : OrderedMap Text Value) (name : Text), entry = .object members ∧
    members.get? "name".toList = some (.string name) ∧ ∃ c ∈ name, Text.isSpace c = false

/-- The tables of the entry are a list, and one of them has no name. -/
def HasNamelessTable (entry : Value) : Prop :=
  ∃ (members : OrderedMap Text Value) (tables : List Value) (table : Value),
    entry = .object members ∧ members.get? "tables".toList = some (.array tables) ∧
      table ∈ tables ∧ ¬ IsNamed table

/-- The document has a structural defect. -/
inductive IsDefective : Value → Prop
  /-- It is no object. -/
  | notAnObject {v : Value} (h : ∀ members, v ≠ .object members) : IsDefective v
  /-- Its schemas are given, but not as a list. -/
  | schemas {members : OrderedMap Text Value} {v : Value}
      (h : IsFirst members ["schemas", "metadata"] v) (hnull : v ≠ .null)
      (hlist : ∀ entries, v ≠ .array entries) : IsDefective (.object members)
  /-- One of its schemas has no name. -/
  | schema {members : OrderedMap Text Value} {entries : List Value} {entry : Value}
      (h : IsFirst members ["schemas", "metadata"] (.array entries)) (hentry : entry ∈ entries)
      (hname : ¬ IsNamed entry) : IsDefective (.object members)
  /-- One of its schemas has a name, and a table without one. -/
  | table {members : OrderedMap Text Value} {entries : List Value} {entry : Value}
      (h : IsFirst members ["schemas", "metadata"] (.array entries)) (hentry : entry ∈ entries)
      (hname : IsNamed entry) (htable : HasNamelessTable entry) : IsDefective (.object members)
  /-- Its functions are given, but not as an object. -/
  | builtins {members : OrderedMap Text Value} {v : Value}
      (h : IsFirst members ["builtins", "dbBuiltins", "builtins_by_database_type"] v)
      (hnull : v ≠ .null) (hobject : ∀ groups, v ≠ .object groups) : IsDefective (.object members)

section

variable {members : OrderedMap Text Value} {names : List String} {name : String} {v entry : Value}

theorem isFirst_cons_iff :
    IsFirst members (name :: names) v ↔ members.get? name.toList = some v ∨
      members.get? name.toList = none ∧ IsFirst members names v := by
  constructor
  · rintro ⟨before, key, after, hnames, hbefore, hv⟩
    cases before with
    | nil =>
      obtain ⟨rfl, -⟩ := List.cons.inj hnames
      exact Or.inl hv
    | cons n before =>
      obtain ⟨rfl, rfl⟩ := List.cons.inj hnames
      obtain ⟨hn, hbefore⟩ := List.forall_mem_cons.mp hbefore
      exact Or.inr ⟨hn, before, key, after, rfl, hbefore, hv⟩
  · rintro (hv | ⟨hn, before, key, after, rfl, hbefore, hv⟩)
    · exact ⟨[], name, names, rfl, fun _ h => absurd h List.not_mem_nil, hv⟩
    · exact ⟨name :: before, key, after, rfl, List.forall_mem_cons.mpr ⟨hn, hbefore⟩, hv⟩

/-- What is found under the names is what stands under the first of them, as far as it is not null. -/
theorem isFirst_iff (hnull : v ≠ .null) : IsFirst members names v ↔ first members names = v := by
  induction names with
  | nil =>
    refine iff_of_false ?_ (Ne.symm hnull)
    rintro ⟨before, name, after, h, -⟩
    exact List.append_ne_nil_of_right_ne_nil before (List.cons_ne_nil name after) h.symm
  | cons name names ih =>
    rw [isFirst_cons_iff, first, ih]
    cases members.get? name.toList <;> simp

/-- A condition that null does not meet is met by what stands under the first of the names if it is
met by what is found. -/
theorem exists_isFirst_iff {P : Value → Prop} (hnull : ¬ P .null) :
    (∃ v, IsFirst members names v ∧ P v) ↔ P (first members names) := by
  have hne : ∀ v, P v → v ≠ .null := by
    rintro v hv rfl
    exact hnull hv
  constructor
  · rintro ⟨v, h, hv⟩
    rwa [(isFirst_iff (hne v hv)).mp h]
  · intro h
    exact ⟨_, (isFirst_iff (hne _ h)).mpr rfl, h⟩

theorem first_singleton_eq (hnull : v ≠ .null) :
    first members [name] = v ↔ members.get? name.toList = some v := by
  rw [← isFirst_iff hnull, isFirst_cons_iff, isFirst_iff hnull]
  simp [first, Ne.symm hnull]

theorem isSome_name?_iff : (name? entry).isSome ↔ IsNamed entry := by
  have hname : ∀ members : OrderedMap Text Value, ∀ n : Text,
      (first members ["name"]).string? = some n ↔ members.get? "name".toList = some (.string n) := by
    intro members n
    rw [← first_singleton_eq (by simp)]
    cases first members ["name"] <;> simp [Value.string?]
  rw [Option.isSome_iff_exists]
  constructor
  · rintro ⟨n, h⟩
    obtain ⟨hn, htrim⟩ := Option.filter_eq_some_iff.mp h
    have hblank := Text.trim_ne_nil_iff.mp (by simpa using htrim)
    cases entry with
    | object members => exact ⟨members, n, rfl, (hname members n).mp hn, hblank⟩
    | _ => cases hn
  · rintro ⟨members, n, rfl, hn, hblank⟩
    refine ⟨n, Option.filter_eq_some_iff.mpr ⟨(hname members n).mpr hn, ?_⟩⟩
    simpa using Text.trim_ne_nil_iff.mpr hblank

end

/-! ### What is refused -/

section

variable {members : OrderedMap Text Value} {v entry : Value} {schema : Text}

theorem mem_tables_iff : v ∈ itemsOf (first (membersOf entry) ["tables"]) ↔
    ∃ (members : OrderedMap Text Value) (tables : List Value), entry = .object members ∧
      members.get? "tables".toList = some (.array tables) ∧ v ∈ tables := by
  have hlist : ∀ w : Value, v ∈ itemsOf w ↔ ∃ tables, w = .array tables ∧ v ∈ tables := by
    intro w
    cases w <;> simp [itemsOf, Value.items?]
  rw [hlist]
  constructor
  · rintro ⟨tables, htables, hv⟩
    have htables := (first_singleton_eq (by simp)).mp htables
    cases entry with
    | object members => exact ⟨members, tables, rfl, htables, hv⟩
    | _ => cases htables
  · rintro ⟨members, tables, rfl, htables, hv⟩
    exact ⟨tables, (first_singleton_eq (by simp)).mpr htables, hv⟩

theorem isSome_tableDefect?_iff :
    (tableDefect? schema (first (membersOf entry) ["tables"])).isSome ↔ HasNamelessTable entry := by
  have hall : (tableDefect? schema (first (membersOf entry) ["tables"])).isSome ↔
      ∃ table ∈ itemsOf (first (membersOf entry) ["tables"]), ¬ IsNamed table := by
    rw [tableDefect?]
    split_ifs with h
    · refine iff_of_false (by simp) ?_
      rintro ⟨table, hmem, hname⟩
      exact hname (isSome_name?_iff.mp (List.all_eq_true.mp h table hmem))
    · obtain ⟨table, hmem, hname⟩ := List.all_eq_false.mp (eq_false_of_ne_true h)
      exact iff_of_true rfl ⟨table, hmem, fun hnamed => hname (isSome_name?_iff.mpr hnamed)⟩
  rw [hall]
  constructor
  · rintro ⟨table, hmem, hname⟩
    obtain ⟨members, tables, rfl, htables, hmem⟩ := mem_tables_iff.mp hmem
    exact ⟨members, tables, table, rfl, htables, hmem, hname⟩
  · rintro ⟨members, tables, table, rfl, htables, hmem, hname⟩
    exact ⟨table, mem_tables_iff.mpr ⟨members, tables, rfl, htables, hmem⟩, hname⟩

theorem isSome_schemaDefect?_iff :
    (schemaDefect? entry).isSome ↔ ¬ IsNamed entry ∨ IsNamed entry ∧ HasNamelessTable entry := by
  rw [← isSome_name?_iff, schemaDefect?]
  cases name? entry with
  | none => simp
  | some n => simpa using isSome_tableDefect?_iff

theorem isSome_schemasDefect_iff :
    (match schemasIn members with
      | .null => none
      | .array entries => entries.findSome? schemaDefect?
      | _ => some Defect.schemasNotAList).isSome ↔
    (∃ v, IsFirst members ["schemas", "metadata"] v ∧ v ≠ .null ∧ ∀ entries, v ≠ .array entries) ∨
      ∃ v, IsFirst members ["schemas", "metadata"] v ∧ ∃ entries, v = .array entries ∧
        ∃ entry ∈ entries, ¬ IsNamed entry ∨ IsNamed entry ∧ HasNamelessTable entry := by
  have hschemas : schemasIn members = first members ["schemas", "metadata"] := rfl
  rw [exists_isFirst_iff (by simp), exists_isFirst_iff (by simp), ← hschemas]
  cases schemasIn members with
  | array entries => simp [List.findSome?_isSome_iff, isSome_schemaDefect?_iff]
  | _ => simp

theorem isSome_builtinsDefect_iff :
    (match builtinsIn members with
      | .null | .object _ => none
      | _ => some Defect.builtinsNotAnObject).isSome ↔
    ∃ v, IsFirst members ["builtins", "dbBuiltins", "builtins_by_database_type"] v ∧ v ≠ .null ∧
      ∀ groups, v ≠ .object groups := by
  have hbuiltins : builtinsIn members =
    first members ["builtins", "dbBuiltins", "builtins_by_database_type"] := rfl
  rw [exists_isFirst_iff (by simp), ← hbuiltins]
  cases builtinsIn members <;> simp

theorem isSome_defect?_object_iff :
    (defect? (.object members)).isSome ↔ IsDefective (.object members) := by
  rw [defect?, Option.isSome_or, Bool.or_eq_true]
  refine (or_congr isSome_schemasDefect_iff isSome_builtinsDefect_iff).trans ⟨?_, ?_⟩
  · rintro ((⟨v, h, hnull, hlist⟩ | ⟨v, h, entries, rfl, entry, hentry, hdefect⟩) |
      ⟨v, h, hnull, hobject⟩)
    · exact .schemas h hnull hlist
    · rcases hdefect with hname | ⟨hname, htable⟩
      · exact .schema h hentry hname
      · exact .table h hentry hname htable
    · exact .builtins h hnull hobject
  · intro h
    cases h with
    | notAnObject h => exact absurd rfl (h members)
    | schemas h hnull hlist => exact Or.inl (Or.inl ⟨_, h, hnull, hlist⟩)
    | schema h hentry hname =>
      exact Or.inl (Or.inr ⟨_, h, _, rfl, _, hentry, Or.inl hname⟩)
    | table h hentry hname htable =>
      exact Or.inl (Or.inr ⟨_, h, _, rfl, _, hentry, Or.inr ⟨hname, htable⟩⟩)
    | builtins h hnull hobject => exact Or.inr ⟨_, h, hnull, hobject⟩

theorem isSome_defect?_iff : (defect? v).isSome ↔ IsDefective v := by
  cases v with
  | object members => exact isSome_defect?_object_iff
  | _ => exact iff_of_true rfl (.notAnObject (by simp))

end

/-- **Strict reading refuses exactly the documents with a structural defect**, and what it reads is
what lenient reading, which never fails, reads of it. So do the readers of one pass, which are the
same. -/
theorem strict_reading (defaultType : Text) (v : Value) :
    readIn .lenient defaultType v = .ok (read defaultType v) ∧
      readIn .strict defaultType v = readStrict defaultType v ∧
      ((∃ defect, readIn .strict defaultType v = .error defect) ↔ IsDefective v) ∧
      ∀ c, readIn .strict defaultType v = .ok c → readIn .lenient defaultType v = .ok c := by
  have hlenient : readIn .lenient defaultType v = .ok (read defaultType v) :=
    readIn_eq .lenient defaultType v
  have hstrict : readIn .strict defaultType v = refuseOr (defect? v) (read defaultType v) :=
    readIn_eq .strict defaultType v
  refine ⟨hlenient, hstrict, ?_, fun c hc => ?_⟩
  · rw [hstrict, exists_refuseOr_eq_error_iff]
    exact isSome_defect?_iff
  · rw [hlenient, eq_of_refuseOr_eq_ok (hstrict.symm.trans hc)]

/-- The schemas are null, which hides what stands under their other name. -/
def hiddenSchemas : Value := object [("schemas", .null), ("metadata", .integer 1)]

/-- The name of a table is blank. -/
def blankTable : Value :=
  object [("metadata", .array [object [("name", .string "A".toList),
    ("tables", .array [object [("name", .string " ".toList)]])]])]

theorem strict_reading_blank_table :
    readIn .lenient [] hiddenSchemas = .ok { databaseType := [] } ∧
      readIn .strict [] hiddenSchemas = .ok { databaseType := [] } ∧
      readIn .lenient [] blankTable = .ok { databaseType := [], schemas := [⟨"A".toList, []⟩] } ∧
      ∃ defect, readIn .strict [] blankTable = .error defect := by
  obtain ⟨-, hread, -, hsame⟩ := strict_reading [] hiddenSchemas
  obtain ⟨hlenient, -, hrefused, -⟩ := strict_reading [] blankTable
  have hstrict : readIn .strict [] hiddenSchemas = .ok { databaseType := [] } := hread.trans rfl
  have hblank : ¬ IsNamed (object [("name", .string " ".toList)]) := by
    rw [← isSome_name?_iff]
    decide
  have hdefective : IsDefective blankTable :=
    .table ((isFirst_iff (by simp)).mpr rfl) List.mem_cons_self (isSome_name?_iff.mp rfl)
      ⟨_, _, _, rfl, rfl, List.mem_cons_self, hblank⟩
  exact ⟨hsame _ hstrict, hstrict, hlenient.trans rfl, hrefused.mpr hdefective⟩

end Document

end SqlAssist
