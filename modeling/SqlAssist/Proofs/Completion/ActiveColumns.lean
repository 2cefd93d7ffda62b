import SqlAssist.Completion.Engine
import SqlAssist.Proofs.Completion.Output
import Mathlib.Data.List.Induction

/-!
# The columns of the tables at hand

Each column of a level's tables is on offer behind every key that reaches its table, and once by
itself: right behind the first key that reaches a column of that name (`offersAt`). The columns that
have been reached so far are shared by all keys and tables, so the first key decides for all later
ones, be it an alias of the same table or another table with a column of the same name.

**`activeColumns_complete`** says so of every index and all tables, and that in a condition, with
nothing typed, an answer misses no column in either form, whatever other candidates have its label.
-/

namespace SqlAssist

/-- A key, the table that it stands for, and one of the columns of that table. -/
abbrev ReachedColumn := Text × TableRef × Text

namespace ReachedColumn

/-- The name of the column. -/
def column (p : ReachedColumn) : Text :=
  p.2.2

/-- The name of the column behind its key. -/
def dotted (p : ReachedColumn) : Text :=
  p.1 ++ '.' :: p.column

/-- The column behind its key, with the name of its table. -/
def behindKey (p : ReachedColumn) : Candidate :=
  Suggestion.plain .field p.dotted (some (p.2.1.qualifiedName ++ '.' :: p.column))

/-- The column by itself, with the key that reaches it. -/
def bare (p : ReachedColumn) : Candidate :=
  Suggestion.plain .field p.column (some p.dotted)

/-- The columns that the keys reach, in the order of the keys and then of the columns. -/
def all (i : CatalogIndex) (tables : OrderedMap Text TableRef) : List ReachedColumn :=
  tables.flatMap fun t => (i.columnsFor t.2).map fun c => (t.1, t.2, c)

/-- No column of this name is reached before the place `n`. -/
def IsNewAt (ps : List ReachedColumn) (n : Nat) (p : ReachedColumn) : Prop :=
  p.column ∉ (ps.take n).map column

instance (ps : List ReachedColumn) (n : Nat) (p : ReachedColumn) : Decidable (IsNewAt ps n p) :=
  inferInstanceAs (Decidable (_ ∉ _))

/-- What is on offer for the column at a place: the column behind its key, and, if it is new there,
the column by itself. -/
def offersAt (ps : List ReachedColumn) (q : ReachedColumn × Nat) : List Candidate :=
  q.1.behindKey :: if IsNewAt ps q.2 q.1 then [q.1.bare] else []

/-- The columns that are on offer by themselves. -/
def new (ps : List ReachedColumn) : List ReachedColumn :=
  (ps.zipIdx.filter fun q => decide (IsNewAt ps q.2 q.1)).map (·.1)

variable {i : CatalogIndex} {tables : OrderedMap Text TableRef} {ps : List ReachedColumn}
  {seen : List Text} {p : ReachedColumn} {n : Nat}

/-! ### What is produced -/

/-- The columns that have been seen are those of the places in front. -/
theorem activeFrom_eq (before : List ReachedColumn) (hseen : ∀ c, c ∈ seen ↔ c ∈ before.map column)
    (ps : List ReachedColumn) :
    Suggestion.activeFrom i seen ps = (ps.zipIdx before.length).flatMap (offersAt (before ++ ps)) := by
  induction ps generalizing before seen with
  | nil => rfl
  | cons p ps ih =>
    have hoffers : offersAt (before ++ p :: ps) (p, before.length) =
        p.behindKey :: if p.column ∈ seen then [] else [p.bare] := by
      rw [offersAt]
      simp only [IsNewAt, List.take_left, ← hseen]
      split_ifs <;> rfl
    have hrest : ∀ {seen' : List Text}, (∀ c, c ∈ seen' ↔ c ∈ (before ++ [p]).map column) →
        Suggestion.activeFrom i seen' ps =
          (ps.zipIdx (before.length + 1)).flatMap (offersAt (before ++ p :: ps)) := by
      intro seen' hseen'
      have happend : before ++ [p] ++ ps = before ++ p :: ps := List.append_cons before p ps ▸ rfl
      rw [ih _ hseen', List.length_append, List.length_singleton, happend]
    rw [List.zipIdx_cons, List.flatMap_cons, hoffers]
    show p.behindKey :: (if p.column ∈ seen then Suggestion.activeFrom i seen ps
      else p.bare :: Suggestion.activeFrom i (p.column :: seen) ps) = _
    split_ifs with hmem
    · rw [hrest fun c => ?_]
      · rfl
      · have hold : c = p.column → c ∈ before.map column := fun e => e ▸ (hseen _).mp hmem
        rw [hseen, List.map_append, List.mem_append, List.map_singleton, List.mem_singleton]
        exact (or_iff_left_of_imp hold).symm
    · rw [hrest fun c => ?_]
      · rfl
      · rw [List.mem_cons, hseen, List.map_append, List.mem_append, List.map_singleton,
          List.mem_singleton]
        exact or_comm

theorem activeColumns_eq (i : CatalogIndex) (tables : OrderedMap Text TableRef) :
    Suggestion.activeColumns i tables = (all i tables).zipIdx.flatMap (offersAt (all i tables)) :=
  activeFrom_eq [] (fun _ => Iff.rfl) _

/-! ### The columns by themselves -/

theorem new_concat (ps : List ReachedColumn) (p : ReachedColumn) :
    new (ps ++ [p]) = new ps ++ if p.column ∈ ps.map column then [] else [p] := by
  have hfront : ∀ q ∈ ps.zipIdx, decide (IsNewAt (ps ++ [p]) q.2 q.1) = decide (IsNewAt ps q.2 q.1) := by
    intro q hq
    have hlt : q.2 < ps.length := by
      simpa using List.snd_lt_of_mem_zipIdx hq
    refine decide_eq_decide.mpr ?_
    rw [IsNewAt, IsNewAt, List.take_append_of_le_length (Nat.le_of_lt hlt)]
  have hlast : IsNewAt (ps ++ [p]) ps.length p ↔ p.column ∉ ps.map column := by
    rw [IsNewAt, List.take_left]
  rw [new, List.zipIdx_append, List.filter_append, List.filter_congr hfront, List.map_append]
  refine congrArg (new ps ++ ·) ?_
  rw [Nat.zero_add, List.zipIdx_singleton]
  by_cases h : p.column ∈ ps.map column
  · rw [if_pos h, List.filter_cons_of_neg (by simpa [hlast] using h)]
    rfl
  · rw [if_neg h, List.filter_cons_of_pos (by simpa [hlast] using h)]
    rfl

/-- By itself each column is on offer once. -/
theorem map_column_new (ps : List ReachedColumn) : (new ps).map column = (ps.map column).eraseDups := by
  induction ps using List.reverseRecOn with
  | nil => rfl
  | append_singleton ps p ih =>
    rw [new_concat, List.map_append, ih, List.map_append, List.map_singleton]
    split_ifs with h
    · rw [eraseDups_concat_of_mem h]
      simp
    · rw [eraseDups_concat_of_not_mem h]
      rfl

/-- A column is on offer by itself where it is reached first. -/
theorem exists_append_of_mem_new (h : p ∈ new ps) :
    ∃ before after, ps = before ++ p :: after ∧ p.column ∉ before.map column := by
  induction ps using List.reverseRecOn with
  | nil => exact absurd h List.not_mem_nil
  | append_singleton ps q ih =>
    rw [new_concat, List.mem_append] at h
    rcases h with h | h
    · obtain ⟨before, after, rfl, hnew⟩ := ih h
      exact ⟨before, after ++ [q], by simp, hnew⟩
    · split_ifs at h with hold
      · exact absurd h List.not_mem_nil
      · obtain rfl := List.mem_singleton.mp h
        exact ⟨ps, [], rfl, hold⟩

theorem mem_map_column_all_iff {c : Text} :
    c ∈ (all i tables).map column ↔ ∃ t ∈ tables, c ∈ i.columnsFor t.2 := by
  rw [List.mem_map]
  constructor
  · rintro ⟨p, hp, rfl⟩
    obtain ⟨t, ht, hp⟩ := List.mem_flatMap.mp hp
    obtain ⟨c, hc, rfl⟩ := List.mem_map.mp hp
    exact ⟨t, ht, hc⟩
  · rintro ⟨t, ht, hc⟩
    exact ⟨(t.1, t.2, c), List.mem_flatMap.mpr ⟨t, ht, List.mem_map_of_mem hc⟩, rfl⟩

/-! ### What is on offer -/

theorem behindKey_mem (h : p ∈ all i tables) : p.behindKey ∈ Suggestion.activeColumns i tables := by
  rw [← List.zipIdx_map_fst 0 (all i tables)] at h
  obtain ⟨q, hq, rfl⟩ := List.mem_map.mp h
  rw [activeColumns_eq]
  exact List.mem_flatMap.mpr ⟨q, hq, List.mem_cons_self⟩

theorem bare_mem (h : p ∈ new (all i tables)) : p.bare ∈ Suggestion.activeColumns i tables := by
  obtain ⟨q, hq, rfl⟩ := List.mem_map.mp h
  obtain ⟨hq, hnew⟩ := List.mem_filter.mp hq
  rw [activeColumns_eq]
  refine List.mem_flatMap.mpr ⟨q, hq, ?_⟩
  rw [offersAt, if_pos (of_decide_eq_true hnew)]
  exact List.mem_cons_of_mem _ List.mem_cons_self

/-- No column of a table at hand is missed, neither behind a key nor by itself. -/
theorem mem_labels_activeColumns {t : Text × TableRef} {c : Text} (ht : t ∈ tables)
    (hc : c ∈ i.columnsFor t.2) :
    t.1 ++ '.' :: c ∈ (Suggestion.activeColumns i tables).map (·.label) ∧
      c ∈ (Suggestion.activeColumns i tables).map (·.label) := by
  have hall : (t.1, t.2, c) ∈ all i tables :=
    List.mem_flatMap.mpr ⟨t, ht, List.mem_map_of_mem hc⟩
  have hnew : c ∈ (new (all i tables)).map column := by
    rw [map_column_new, List.mem_eraseDups]
    exact mem_map_column_all_iff.mpr ⟨t, ht, hc⟩
  obtain ⟨p, hp, rfl⟩ := List.mem_map.mp hnew
  exact ⟨List.mem_map_of_mem (behindKey_mem hall), List.mem_map_of_mem (bare_mem hp)⟩

end ReachedColumn

namespace Engine

/-- The clauses of conditions. -/
def conditions : List Clause :=
  [.whereCondition, .having, .on]

variable {e : Engine} {r : Request} {place : CursorPlace}

/-- With nothing typed, an answer from a condition has all labels of the columns at hand. -/
theorem mem_labels_complete {l : Text} (hroute : r.route e.index = .clause place)
    (hclause : place.clause ∈ conditions) (htyped : r.typed = [])
    (hl : l ∈ (Suggestion.activeColumns e.index place.resolution.tables).map (·.label)) (hne : l ≠ []) :
    l ∈ (e.complete r).map (·.label) := by
  obtain ⟨c, hc, rfl⟩ := List.mem_map.mp hl
  have hmem : c ∈ place.clause.candidates e.index e.snapshot.configuration place.resolution := by
    have hsplit : place.clause.candidates e.index e.snapshot.configuration place.resolution =
        Suggestion.activeColumns e.index place.resolution.tables ++
          Suggestion.operators e.snapshot.configuration.operators ++
          Suggestion.keywords Clause.logicalKeywords := by
      rcases place with ⟨statement, level, clause, clauseLevel, resolution⟩
      simp only [conditions, List.mem_cons, List.not_mem_nil, or_false] at hclause
      rcases hclause with rfl | rfl | rfl <;> rfl
    rw [hsplit]
    exact List.mem_append_left _ (List.mem_append_left _ hc)
  have hfits : Candidate.Fits r.typed c.label := Or.inr (htyped ▸ List.nil_prefix)
  obtain ⟨k, hk, hlabel⟩ := (Candidate.keptOf_unique_narrow r.typed _).complete c hmem hne hfits
  rw [complete, Request.complete, hroute]
  exact hlabel ▸ List.mem_map_of_mem hk

open ReachedColumn in
/-- **All columns at hand are on offer, and none twice.** Each column that a key reaches is on offer
behind the key, and directly after that by itself if no earlier key or column of the table reaches
one of its name. So each name of a column is on offer by itself once, with the key that reaches it
first. In a condition, with nothing typed, both forms of each column are in the answer. -/
theorem activeColumns_complete (i : CatalogIndex) (tables : OrderedMap Text TableRef) :
    Suggestion.activeColumns i tables = (all i tables).zipIdx.flatMap (offersAt (all i tables)) ∧
    ((new (all i tables)).map column).Nodup ∧
    (∀ c, c ∈ (new (all i tables)).map column ↔ ∃ t ∈ tables, c ∈ i.columnsFor t.2) ∧
    (∀ p ∈ new (all i tables), ∃ before after,
      all i tables = before ++ p :: after ∧ p.column ∉ before.map column) ∧
    ∀ (e : Engine) (r : Request) (place : CursorPlace), r.route e.index = .clause place →
      place.clause ∈ conditions → r.typed = [] →
      ∀ t ∈ place.resolution.tables, ∀ c ∈ e.index.columnsFor t.2, c ≠ [] →
        t.1 ++ '.' :: c ∈ (e.complete r).map (·.label) ∧ c ∈ (e.complete r).map (·.label) := by
  refine ⟨activeColumns_eq i tables, ?_, fun c => ?_, fun p => exists_append_of_mem_new,
    fun e r place hroute hclause htyped t ht c hc hne => ?_⟩
  · rw [map_column_new]
    exact nodup_eraseDups _
  · rw [map_column_new, List.mem_eraseDups]
    exact mem_map_column_all_iff
  · obtain ⟨hdotted, hbare⟩ := mem_labels_activeColumns ht hc
    exact ⟨mem_labels_complete hroute hclause htyped hdotted (by simp),
      mem_labels_complete hroute hclause htyped hbare hne⟩

open ReachedColumn in
/-- A column with the label of a keyword, which two tables have; by itself it comes with the key that
reaches it first. -/
theorem activeColumns_complete_in_condition :
    ∃ e : Engine, ∃ r : Request, ∃ place, r.route e.index = .clause place ∧
      place.clause ∈ conditions ∧ r.typed = [] ∧
      (∃ p ∈ new (all e.index place.resolution.tables), p.dotted = "A.AND".toList ∧
        ∃ before after, all e.index place.resolution.tables = before ++ p :: after ∧
          p.column ∉ before.map column) ∧
      ∃ t ∈ place.resolution.tables, "AND".toList ∈ e.index.columnsFor t.2 ∧ "AND".toList ≠ [] ∧
        t.1 ++ '.' :: "AND".toList ∈ (e.complete r).map (·.label) ∧
        "AND".toList ∈ (e.complete r).map (·.label) := by
  let e := ofConfiguration
    { schemas := [⟨"s".toList, [⟨"t".toList, ["x".toList, "AND".toList]⟩, ⟨"u".toList, ["AND".toList]⟩]⟩] }
  let r : Request := { before := "SELECT b FROM t a, u WHERE ".toList }
  let level : Level := ⟨r.before, [], 0⟩
  let t : TableRef := { table := "T".toList }
  let u : TableRef := { table := "U".toList }
  let place : CursorPlace :=
    ⟨r.before, level, .whereCondition, level,
      { tables := [("A".toList, t), ("T".toList, t), ("U".toList, u)] }⟩
  have hroute : r.route e.index = .clause place := by decide +kernel
  have hclause : place.clause ∈ conditions := by decide
  have hfirst : ("A".toList, t, "AND".toList) ∈ new (all e.index place.resolution.tables) := by
    decide
  have hu : ("U".toList, u) ∈ place.resolution.tables := by decide
  have hcolumn : "AND".toList ∈ e.index.columnsFor u := by decide
  have hne : "AND".toList ≠ [] := by decide
  obtain ⟨-, -, -, hnew, hanswer⟩ := activeColumns_complete e.index place.resolution.tables
  exact ⟨e, r, place, hroute, hclause, rfl, ⟨_, hfirst, rfl, hnew _ hfirst⟩, _, hu, hcolumn, hne,
    hanswer e r place hroute hclause rfl _ hu _ hcolumn hne⟩

end Engine

end SqlAssist
