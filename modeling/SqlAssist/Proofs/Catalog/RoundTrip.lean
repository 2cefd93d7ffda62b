import SqlAssist.Catalog.Document
import SqlAssist.Proofs.Json.DistinctNames
import SqlAssist.Proofs.Json.RoundTrip
import SqlAssist.Proofs.Text.Space
import Mathlib.Data.List.Nodup
import Mathlib.Tactic.SplitIfs

/-!
# Catalog documents read back

What a document is read as is in normal form: names are trimmed and not blank, and no other text
that an entry is kept for is empty (`Document.read_isNormal`). A configuration in normal form is
written without defects, and read it is the same again (**`Document.readStrict_write`**). None of its
tables takes a default on the way, as each is spelt out.
-/

namespace SqlAssist

open Json

/-! ### Normal forms -/

/-- A name as catalogs keep it: trimmed and not empty. -/
def Text.IsTrimmedName (n : Text) : Prop :=
  n ≠ [] ∧ n.trim = n

/-- A table in normal form. -/
structure Table.IsNormal (t : Table) : Prop where
  /-- Its name is trimmed and not empty. -/
  name : t.name.IsTrimmedName
  /-- No column is empty. -/
  columns : ∀ c ∈ t.columns, c ≠ []

/-- A schema in normal form. -/
structure Schema.IsNormal (s : Schema) : Prop where
  /-- Its name is trimmed and not empty. -/
  name : s.name.IsTrimmedName
  /-- Its tables are in normal form. -/
  tables : ∀ t ∈ s.tables, t.IsNormal

/-- A configuration in normal form: what its document says of it is kept on reading. -/
structure Configuration.IsNormal (c : Configuration) : Prop where
  /-- The database type is not empty. -/
  databaseType : c.databaseType ≠ []
  /-- The schemas are in normal form. -/
  schemas : ∀ s ∈ c.schemas, s.IsNormal
  /-- No function's name is empty. -/
  builtins : ∀ p ∈ c.builtinsByType, ∀ b ∈ p.2, b.name ≠ []
  /-- No keyword is empty. -/
  keywords : ∀ k ∈ c.keywords, k ≠ []
  /-- No operator is empty. -/
  operators : ∀ o ∈ c.operators, o ≠ []

namespace Document

variable {v entry : Value} {t : Table} {s : Schema} {b : Builtin} {c : Configuration}
  {defaultType : Text}

theorem ne_nil_of_mem_strings {x : Text} (h : x ∈ strings v) : x ≠ [] := by
  obtain ⟨item, -, h⟩ := List.mem_filterMap.mp h
  obtain ⟨-, h⟩ := Option.filter_eq_some_iff.mp h
  simpa using h

theorem isTrimmedName_of_name? {n : Text} (h : name? entry = some n) : n.trim.IsTrimmedName := by
  obtain ⟨-, h⟩ := Option.filter_eq_some_iff.mp h
  exact ⟨by simpa using h, Text.trim_trim n⟩

theorem isNormal_of_table? (h : table? entry = some t) : t.IsNormal := by
  obtain ⟨n, hn, rfl⟩ := Option.map_eq_some_iff.mp h
  exact ⟨isTrimmedName_of_name? hn, fun _ => ne_nil_of_mem_strings⟩

theorem isNormal_of_schema? (h : schema? entry = some s) : s.IsNormal := by
  obtain ⟨n, hn, rfl⟩ := Option.map_eq_some_iff.mp h
  refine ⟨isTrimmedName_of_name? hn, fun t ht => ?_⟩
  obtain ⟨entry, -, ht⟩ := List.mem_filterMap.mp ht
  exact isNormal_of_table? ht

theorem name_ne_nil_of_builtin? (h : builtin? entry = some b) : b.name ≠ [] := by
  by_cases hname : (first (membersOf entry) ["name"]).isGiven = true
  · obtain rfl := Option.some.inj ((if_pos hname).symm.trans h)
    exact Value.shown_ne_nil hname
  · cases (if_neg hname).symm.trans h

theorem name_ne_nil_of_mem_builtins {p : Text × List Builtin} (hp : p ∈ builtins v) (hb : b ∈ p.2) :
    b.name ≠ [] := by
  obtain ⟨m, -, rfl⟩ := List.mem_map.mp hp
  obtain ⟨entry, -, h⟩ := List.mem_filterMap.mp hb
  exact name_ne_nil_of_builtin? h

/-- What holds of the default table and of each table that a document can give holds of the table
that is taken. -/
theorem orDefault_of {α : Type} {P : α → Prop} {default : α} {f : Value → α} (hdefault : P default)
    (hf : ∀ v, P (f v)) (v : Value) : P (orDefault v default f) := by
  rw [orDefault]
  split_ifs
  · exact hdefault
  · exact hf v

theorem defaults_isNormal (h : defaultType ≠ []) :
    Configuration.IsNormal { databaseType := defaultType } where
  databaseType := h
  schemas := by simp
  builtins := show ∀ p ∈ Defaults.builtins, ∀ b ∈ p.2, b.name ≠ [] by decide
  keywords := show ∀ k ∈ Defaults.keywords, k ≠ [] by decide
  operators := show ∀ o ∈ Defaults.operators, o ≠ [] by decide

/-- What a document is read as is in normal form. -/
theorem read_isNormal (h : defaultType ≠ []) (v : Value) : (read defaultType v).IsNormal := by
  have hdefaults := defaults_isNormal h
  cases v with
  | object ms =>
    refine ⟨?_, fun s hs => ?_, ?_, ?_, ?_⟩
    · change (if (first ms ["databaseType", "database_type", "dbType"]).isGiven then
        (first ms ["databaseType", "database_type", "dbType"]).shown else defaultType) ≠ []
      split_ifs with hgiven
      · exact Value.shown_ne_nil hgiven
      · exact h
    · obtain ⟨entry, -, hs⟩ := List.mem_filterMap.mp hs
      exact isNormal_of_schema? hs
    · exact orDefault_of (P := fun l => ∀ p ∈ l, ∀ b ∈ p.2, b.name ≠ []) hdefaults.builtins
        (fun v p hp b hb => name_ne_nil_of_mem_builtins hp hb) _
    · exact orDefault_of (P := fun l => ∀ k ∈ l, k ≠ []) hdefaults.keywords
        (fun v _ => ne_nil_of_mem_strings) _
    · exact orDefault_of (P := fun l => ∀ k ∈ l, k ≠ []) hdefaults.operators
        (fun v _ => ne_nil_of_mem_strings) _
  | _ => exact hdefaults

/-! ### Members read back -/

theorem get?_object (members : List (String × Value)) (name : String) :
    OrderedMap.get? (membersOf (object members)) name.toList = OrderedMap.get? members name := by
  change OrderedMap.get? (members.map fun m => (m.1.toList, m.2)) name.toList = _
  induction members with
  | nil => rfl
  | cons m members ih => simp only [List.map_cons, OrderedMap.get?, String.toList_inj, ih]

/-- If their names are different, each of the members that were written is found under its own,
whatever other names it may go by. -/
theorem forall_first_object {members : List (String × Value)} (hv : v = object members)
    (hnames : (members.map (·.1)).Nodup) :
    ∀ m ∈ members, ∀ names, first (membersOf v) (m.1 :: names) = m.2 := by
  intro m hm names
  rw [hv, first, get?_object, OrderedMap.get?_of_mem hnames hm, Option.getD_some]

theorem name?_eq {n : Text} (hfirst : first (membersOf v) ["name"] = .string n)
    (hn : n.IsTrimmedName) : name? v = some n := by
  have hne : n.trim.isEmpty = false := by simpa [hn.2] using hn.1
  rw [name?, hfirst]
  simp [Value.string?, hne]

theorem itemsOf_array (items : List Value) : itemsOf (.array items) = items := rfl

theorem strings_texts {l : List Text} (h : ∀ x ∈ l, x ≠ []) : strings (texts l) = l := by
  refine filterMap_map_of_forall fun x hx => ?_
  have hx : x.isEmpty = false := by simpa using h x hx
  simp [Value.string?, hx]

/-! ### Entries read back -/

theorem name?_ofTable (h : t.IsNormal) : name? (ofTable t) = some t.name :=
  name?_eq (forall_first_object rfl (by simp) _ List.mem_cons_self _) h.name

theorem table?_ofTable (h : t.IsNormal) : table? (ofTable t) = some t := by
  have hmembers := forall_first_object (v := ofTable t) rfl (by simp)
  simp only [List.forall_mem_cons] at hmembers
  rw [table?, name?_ofTable h, Option.map_some, hmembers.2.1, strings_texts h.columns, h.name.2]

/-- A schema is read back from its entry, and no strict reader refuses it. -/
theorem schema?_ofSchema (h : s.IsNormal) :
    schema? (ofSchema s) = some s ∧ schemaDefect? (ofSchema s) = none := by
  have hmembers := forall_first_object (v := ofSchema s) rfl (by simp)
  simp only [List.forall_mem_cons] at hmembers
  have hname : name? (ofSchema s) = some s.name := name?_eq (hmembers.1 _) h.name
  have htables : (s.tables.map ofTable).filterMap table? = s.tables :=
    filterMap_map_of_forall fun t ht => table?_ofTable (h.tables t ht)
  have hnamed : (s.tables.map ofTable).all (fun entry => (name? entry).isSome) = true := by
    rw [List.all_map, List.all_eq_true]
    intro t ht
    rw [Function.comp_apply, name?_ofTable (h.tables t ht), Option.isSome_some]
  constructor
  · rw [schema?, hname, Option.map_some, hmembers.2.1, itemsOf_array, htables, h.name.2]
  · rw [schemaDefect?, hname, hmembers.2.1]
    simp only [tableDefect?, itemsOf_array, hnamed, if_true]

theorem builtin?_ofBuiltin (h : b.name ≠ []) : builtin? (ofBuiltin b) = some b := by
  have hmembers := forall_first_object (v := ofBuiltin b) rfl (by simp)
  simp only [List.forall_mem_cons] at hmembers
  have hgiven : (Value.string b.name).isGiven = true := by simpa [Value.isGiven] using h
  have hasDescription :
      (OrderedMap.get? (membersOf (ofBuiltin b)) "description".toList).isSome = true := by
    rw [ofBuiltin, get?_object]
    rfl
  have hasSample : (OrderedMap.get? (membersOf (ofBuiltin b)) "sample".toList).isSome = true := by
    rw [ofBuiltin, get?_object]
    rfl
  simp only [builtin?, hmembers, hasDescription, hasSample, hgiven, Bool.true_or, if_true, Value.shown]

theorem variableOf?_ofVariable (x : Variable) : variableOf? (ofVariable x) = some x := by
  have hmembers := forall_first_object (v := ofVariable x) rfl (by simp)
  simp only [List.forall_mem_cons] at hmembers
  simp only [variableOf?, hmembers]

/-! ### Documents read back -/

/-- Writes the functions of each database type. -/
def ofBuiltins (l : OrderedMap Text (List Builtin)) : Value :=
  .object (l.map fun p => (p.1, .array (p.2.map ofBuiltin)))

theorem builtins_ofBuiltins {l : OrderedMap Text (List Builtin)}
    (h : ∀ p ∈ l, ∀ b ∈ p.2, b.name ≠ []) : builtins (ofBuiltins l) = l := by
  refine (List.map_map ..).trans (List.map_congr_left fun p hp => ?_) |>.trans (List.map_id l)
  have hp : ((p.2.map ofBuiltin).filterMap builtin?) = p.2 :=
    filterMap_map_of_forall fun b hb => builtin?_ofBuiltin (h p hp b hb)
  exact Prod.ext rfl hp

/-- A configuration in normal form is read back from its document. -/
theorem read_write (h : c.IsNormal) : read defaultType (write c) = c := by
  have hmembers := forall_first_object (v := write c) rfl (by simp)
  simp only [List.forall_mem_cons] at hmembers
  have hdatabaseType : (Value.string c.databaseType).isGiven = true := by
    simpa [Value.isGiven] using h.databaseType
  have hschemas : (c.schemas.map ofSchema).filterMap schema? = c.schemas :=
    filterMap_map_of_forall fun s hs => (schema?_ofSchema (h.schemas s hs)).1
  have hvariables : (c.workflowVariables.map ofVariable).filterMap variableOf? = c.workflowVariables :=
    filterMap_map_of_forall fun v _ => variableOf?_ofVariable v
  calc read defaultType (write c)
    _ = read defaultType (.object (membersOf (write c))) := rfl
    _ = { databaseType := c.databaseType
          schemas := (c.schemas.map ofSchema).filterMap schema?
          builtinsByType := builtins (ofBuiltins c.builtinsByType)
          keywords := strings (texts c.keywords)
          operators := strings (texts c.operators)
          workflowVariables := (c.workflowVariables.map ofVariable).filterMap variableOf? } := by
      simp only [read, schemasIn, builtinsIn, hmembers, hdatabaseType, if_true, Value.shown]
      rfl
    _ = c := by
      rw [hschemas, builtins_ofBuiltins h.builtins, strings_texts h.keywords,
        strings_texts h.operators, hvariables]

/-- It is written without defects. -/
theorem defect?_write (h : c.IsNormal) : defect? (write c) = none := by
  have hmembers := forall_first_object (v := write c) rfl (by simp)
  simp only [List.forall_mem_cons] at hmembers
  have hschemas : (c.schemas.map ofSchema).findSome? schemaDefect? = none := by
    rw [List.findSome?_eq_none_iff]
    intro entry hentry
    obtain ⟨s, hs, rfl⟩ := List.mem_map.mp hentry
    exact (schema?_ofSchema (h.schemas s hs)).2
  calc defect? (write c)
    _ = defect? (.object (membersOf (write c))) := rfl
    _ = ((c.schemas.map ofSchema).findSome? schemaDefect?).or none := by
      simp only [defect?, schemasIn, builtinsIn, hmembers]
    _ = none := by rw [hschemas, Option.or_none]

/-- **A configuration in normal form is read back from its document, and no strict reader refuses
it.** -/
theorem readStrict_write (h : c.IsNormal) : readStrict defaultType (write c) = .ok c := by
  rw [readStrict, defect?_write h]
  exact congrArg Except.ok (read_write h)

/-! ### Documents in files -/

section Files

variable {height : Nat}

theorem isReadable_texts (l : List Text) : (texts l).IsReadable (height + 1) := by
  refine .array fun v hv => ?_
  obtain ⟨x, -, rfl⟩ := List.mem_map.mp hv
  exact .string x

theorem isReadable_object {members : List (String × Value)} (hnames : (members.map (·.1)).Nodup)
    (h : ∀ m ∈ members, m.2.IsReadable height) : (object members).IsReadable (height + 1) := by
  refine .object ?_ fun m hm => ?_
  · have hkeys : OrderedMap.keys (members.map fun m => (m.1.toList, m.2)) =
        (members.map (·.1)).map String.toList := by
      simp [OrderedMap.keys]
    rw [hkeys]
    exact hnames.map fun _ _ => String.toList_inj.mp
  · obtain ⟨n, hn, rfl⟩ := List.mem_map.mp hm
    exact h n hn

theorem isReadable_ofTable (t : Table) : (ofTable t).IsReadable (height + 2) :=
  isReadable_object (by simp) (by simp [isReadable_texts, Value.IsReadable.string])

theorem isReadable_ofSchema (s : Schema) : (ofSchema s).IsReadable (height + 4) :=
  isReadable_object (by simp) (by
    simp [Value.IsReadable.array_map isReadable_ofTable, Value.IsReadable.string])

theorem isReadable_ofBuiltin (b : Builtin) : (ofBuiltin b).IsReadable (height + 1) :=
  isReadable_object (by simp) (by simp [Value.IsReadable.string])

theorem isReadable_ofVariable (x : Variable) : (ofVariable x).IsReadable (height + 1) :=
  isReadable_object (by simp) (by simp [Value.IsReadable.string])

theorem isReadable_ofBuiltins {l : OrderedMap Text (List Builtin)} (h : (OrderedMap.keys l).Nodup) :
    (ofBuiltins l).IsReadable (height + 3) := by
  refine .object ?_ fun m hm => ?_
  · rwa [OrderedMap.keys, List.map_map]
  · obtain ⟨p, -, rfl⟩ := List.mem_map.mp hm
    exact Value.IsReadable.array_map isReadable_ofBuiltin p.2

/-- The document of a configuration is made of strings, arrays and objects, six deep. -/
theorem isReadable_write (h : (OrderedMap.keys c.builtinsByType).Nodup) : (write c).IsReadable 6 := by
  refine isReadable_object (by simp) ?_
  simp only [List.forall_mem_cons]
  exact ⟨.string _, Value.IsReadable.array_map isReadable_ofSchema _, isReadable_ofBuiltins h,
    isReadable_texts _, isReadable_texts _, Value.IsReadable.array_map isReadable_ofVariable _,
    fun _ hm => absurd hm List.not_mem_nil⟩

theorem hasDistinctNames_first {ms : OrderedMap Text Value} (h : ∀ m ∈ ms, m.2.HasDistinctNames)
    (names : List String) : (first ms names).HasDistinctNames := by
  induction names with
  | nil => exact .plain rfl rfl
  | cons name names ih =>
    rw [first]
    cases hv : OrderedMap.get? ms name.toList with
    | none => exact ih
    | some v => exact h _ (OrderedMap.mem_of_get? hv)

theorem nodup_keys_builtins (h : v.HasDistinctNames) : (OrderedMap.keys (builtins v)).Nodup := by
  have hkeys : OrderedMap.keys (builtins v) = OrderedMap.keys (membersOf v) := List.map_map
  rw [hkeys]
  cases h with
  | plain hitems hmembers =>
    rw [membersOf, hmembers]
    exact List.nodup_nil
  | array h => exact List.nodup_nil
  | object hnames h => exact hnames

/-- The functions that a document gives are of different database types. -/
theorem nodup_keys_builtinsByType (h : v.HasDistinctNames) (defaultType : Text) :
    (OrderedMap.keys (read defaultType v).builtinsByType).Nodup := by
  have hdefaults : (OrderedMap.keys Defaults.builtins).Nodup := by decide
  cases h with
  | plain hitems hmembers =>
    cases v with
    | object members => cases hmembers
    | _ => exact hdefaults
  | array h => exact hdefaults
  | object hnames h =>
    rename_i members
    change (OrderedMap.keys (orDefault (builtinsIn members) Defaults.builtins builtins)).Nodup
    rw [orDefault]
    split_ifs
    · exact hdefaults
    · exact nodup_keys_builtins (hasDistinctNames_first h _)

end Files

end Document

end SqlAssist
