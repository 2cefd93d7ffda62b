import SqlAssist.Proofs.Text.LastEntry
import SqlAssist.Sql.Resolution

/-!
# What a level binds

The tables of a level are a map that is filled by one registration after the other.
Each registration is a list of bindings of keys to tables: an alias, if there is one
that is no reserved word, and the bare name of a table. So the map is the one made of
all bindings in order (`tables_ofText`), and what is known of such maps applies: a key
keeps the place of its first binding and has the value of its last.

There are two kinds of bindings (`mem_bindings_iff`): those of a table under its own
name, and those of an alias.
-/

namespace SqlAssist

namespace TableRef

/-- What the reference is registered under: the alias and, for a table, its bare name. -/
def bindings (ref : TableRef) (aliasName : Option Text) : List (Text × TableRef) :=
  aliasName.toList.map (·, ref) ++ if ref.derived then [] else [(ref.table, ref)]

/-- The result of a subquery with the alias. -/
def ofAlias (aliasName : Text) : TableRef :=
  { table := aliasName, derived := true }

theorem derived_ofName (name : Text) : (ofName name).derived = false := by
  rw [ofName]
  split <;> rfl

theorem mem_bindings_iff {ref ref' : TableRef} {a : Option Text} {k : Text} :
    (k, ref') ∈ ref.bindings a ↔ ref = ref' ∧ (a = some k ∨ ref.derived = false ∧ ref.table = k) := by
  rw [bindings, List.mem_append]
  cases ref.derived <;> cases a <;> grind

end TableRef

namespace Target

/-- What the target stands for, if it can be referred to. -/
def ref? (g : Target) : Option TableRef :=
  match g.name with
  | some name => some (.ofName name)
  | none => g.properAlias.map .ofAlias

/-- What the target is registered under. -/
def bindings (g : Target) : List (Text × TableRef) :=
  g.ref?.toList.flatMap (·.bindings g.properAlias)

theorem mem_bindings_iff {g : Target} {k : Text} {ref : TableRef} :
    (k, ref) ∈ g.bindings ↔
      g.ref? = some ref ∧ (g.properAlias = some k ∨ ref.derived = false ∧ ref.table = k) := by
  simp only [bindings, List.mem_flatMap, Option.mem_toList, TableRef.mem_bindings_iff]
  constructor
  · rintro ⟨r, hr, rfl, h⟩
    exact ⟨hr, h⟩
  · rintro ⟨hr, h⟩
    exact ⟨ref, hr, rfl, h⟩

/-- Tables have names, the results of subqueries have aliases. -/
theorem ref?_eq_some_iff {g : Target} {ref : TableRef} (h : ref.derived = false) :
    g.ref? = some ref ↔ ∃ name, g.name = some name ∧ .ofName name = ref := by
  rw [ref?]
  cases g.name with
  | some name => simp
  | none =>
    cases g.properAlias with
    | none => simp
    | some a =>
      have hne : TableRef.ofAlias a ≠ ref := by
        rintro rfl
        cases h
      simp [hne]

end Target

namespace OrderedMap

variable {α β : Type} [DecidableEq α]

/-- Sets the keys one after the other. -/
def insertAll (m : OrderedMap α β) (l : List (α × β)) : OrderedMap α β :=
  l.foldl (fun m p => m.insert p.1 p.2) m

theorem insertAll_append (m : OrderedMap α β) (l l' : List (α × β)) :
    m.insertAll (l ++ l') = (m.insertAll l).insertAll l' :=
  List.foldl_append

theorem ofList_eq_insertAll (l : List (α × β)) : ofList l = insertAll [] l := rfl

end OrderedMap

namespace Resolution

theorem register_eq_insertAll (m : OrderedMap Text TableRef) (ref : TableRef) (aliasName : Option Text) :
    register m ref aliasName = m.insertAll (ref.bindings aliasName) := by
  simp only [register, TableRef.bindings]
  cases aliasName <;> cases ref.derived <;> rfl

theorem registerTarget_eq_insertAll (m : OrderedMap Text TableRef) (g : Target) :
    registerTarget m g = m.insertAll g.bindings := by
  rw [registerTarget, Target.bindings, Target.ref?]
  cases hname : g.name with
  | some name => simp [register_eq_insertAll]
  | none =>
    cases g.properAlias with
    | some a => simp [register_eq_insertAll, TableRef.ofAlias]
    | none => rfl

theorem foldl_registerTarget_eq_insertAll (l : List Target) (m : OrderedMap Text TableRef) :
    l.foldl registerTarget m = m.insertAll (l.flatMap Target.bindings) := by
  induction l generalizing m with
  | nil => rfl
  | cons g l ih =>
    rw [List.foldl_cons, ih, registerTarget_eq_insertAll, List.flatMap_cons, OrderedMap.insertAll_append]

/-- The targets behind `FROM`, `JOIN` and `UPDATE`, as they are registered. -/
def registered (t : Text) : List Target :=
  targets t ++ (updated? t).toList

/-- The first name behind `DELETE FROM`. -/
def deleted? (t : Text) : Option Text :=
  firstName? ["DELETE".toList, "FROM".toList] t

/-- The names of a text that stand for tables. -/
def tableNames (t : Text) : List Text :=
  (registered t).filterMap (·.name) ++ (deleted? t).toList

/-- What a text binds, in order. -/
def bindings (t : Text) : List (Text × TableRef) :=
  (registered t).flatMap Target.bindings ++
    (deleted? t).toList.flatMap fun name => (TableRef.ofName name).bindings none

/-- The tables of a text are all that it binds, set in order. -/
theorem tables_ofText (t : Text) : (ofText t).tables = OrderedMap.ofList (bindings t) := by
  have hdelete : ∀ m name, register m (.ofName name) none =
      OrderedMap.insertAll m ([name].flatMap fun name => (TableRef.ofName name).bindings none) := by
    intro m name
    rw [List.flatMap_singleton]
    exact register_eq_insertAll m _ none
  rw [OrderedMap.ofList_eq_insertAll, bindings, registered, List.flatMap_append, OrderedMap.insertAll_append,
    OrderedMap.insertAll_append, ← foldl_registerTarget_eq_insertAll, ← foldl_registerTarget_eq_insertAll,
    deleted?]
  simp only [ofText]
  cases updated? t with
  | none =>
    cases firstName? ["DELETE".toList, "FROM".toList] t with
    | none => rfl
    | some name => exact hdelete _ name
  | some u =>
    cases firstName? ["DELETE".toList, "FROM".toList] t with
    | none => rfl
    | some name => exact hdelete _ name

/-- The keys of a text's tables differ. -/
theorem nodup_keys_ofText (t : Text) : (OrderedMap.keys (ofText t).tables).Nodup := by
  rw [tables_ofText]
  exact OrderedMap.nodup_keys_ofList _

theorem mem_keys_ofText_iff {t k : Text} :
    k ∈ OrderedMap.keys (ofText t).tables ↔ ∃ ref, (k, ref) ∈ bindings t := by
  rw [tables_ofText, OrderedMap.keys_ofList, List.mem_eraseDups, List.mem_map]
  constructor
  · rintro ⟨⟨k, ref⟩, h, rfl⟩
    exact ⟨ref, h⟩
  · rintro ⟨ref, h⟩
    exact ⟨(k, ref), h, rfl⟩

/-- What a key stands for is bound to it. -/
theorem mem_bindings_of_get? {t k : Text} {ref : TableRef} (h : (ofText t).tables.get? k = some ref) :
    (k, ref) ∈ bindings t := by
  rw [tables_ofText, OrderedMap.get?_ofList] at h
  obtain ⟨⟨k', ref'⟩, hfind, rfl⟩ := Option.map_eq_some_iff.mp h
  obtain rfl : k' = k := by simpa using List.find?_some hfind
  exact List.mem_reverse.mp (List.mem_of_find?_eq_some hfind)

theorem mem_tableNames_iff {t name : Text} :
    name ∈ tableNames t ↔ (∃ g ∈ registered t, g.name = some name) ∨ deleted? t = some name := by
  rw [tableNames, List.mem_append, List.mem_filterMap, Option.mem_toList]

/-- A binding is that of a table under its own name, or of an alias that is no reserved word. -/
theorem mem_bindings_iff {t k : Text} {ref : TableRef} :
    (k, ref) ∈ bindings t ↔
      (∃ name ∈ tableNames t, .ofName name = ref ∧ ref.table = k) ∨
        ∃ g ∈ registered t, g.ref? = some ref ∧ g.properAlias = some k := by
  rw [bindings, List.mem_append, List.mem_flatMap, List.mem_flatMap]
  simp only [mem_tableNames_iff, Target.mem_bindings_iff, TableRef.mem_bindings_iff]
  constructor
  · rintro (⟨g, hg, href, halias | ⟨hderived, hk⟩⟩ | ⟨name, hname, rfl, halias | ⟨-, hk⟩⟩)
    · exact Or.inr ⟨g, hg, href, halias⟩
    · obtain ⟨name, hname, rfl⟩ := (Target.ref?_eq_some_iff hderived).mp href
      exact Or.inl ⟨name, Or.inl ⟨g, hg, hname⟩, rfl, hk⟩
    · cases halias
    · exact Or.inl ⟨name, Or.inr (Option.mem_toList.mp hname), rfl, hk⟩
  · rintro (⟨name, ⟨g, hg, hname⟩ | hname, rfl, hk⟩ | ⟨g, hg, href, halias⟩)
    · have hderived := TableRef.derived_ofName name
      exact Or.inl ⟨g, hg, (Target.ref?_eq_some_iff hderived).mpr ⟨name, hname, rfl⟩, Or.inr ⟨hderived, hk⟩⟩
    · exact Or.inr ⟨name, Option.mem_toList.mpr hname, rfl, Or.inr ⟨TableRef.derived_ofName name, hk⟩⟩
    · exact Or.inl ⟨g, hg, href, Or.inl halias⟩

end Resolution

end SqlAssist
