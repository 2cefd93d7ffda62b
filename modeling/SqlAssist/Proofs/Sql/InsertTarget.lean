import SqlAssist.Proofs.Sql.InsertedNames
import SqlAssist.Proofs.Sql.LevelExtension

/-!
# The target of a column list

That the cursor is in a column list is seen at the end of the level around it, up to the parenthesis;
the target is looked for from the start of that level on, past the cursor. Both find the same table if
the level holds one insertion. In general the target is the first insertion of the level
(`insertTarget_of_columnList`), so a second one is completed with the columns of the first
(`columnList_of_other_target`).

A run of path characters is read as a name up to the first dot that has no name behind it. A dotted
name is read in full (`IsDotted.exists_name?`), and dots behind it do not matter.
-/

namespace SqlAssist

/-! ### Dotted names -/

/-- The text is a dotted name, with or without dots behind it: parts of name characters, with single
dots between them. -/
def IsDotted (t : Text) : Prop :=
  ∃ (first : Text) (others : List Text) (n : Nat),
    (∀ part ∈ first :: others, part ≠ [] ∧ ∀ c ∈ part, Text.isNameChar c = true) ∧
      t = first ++ others.flatMap ('.' :: ·) ++ List.replicate n '.'

namespace Target

open Text

variable {first : Text} {others : List Text} {n : Nat}

theorem head?_parts (others : List Text) (n : Nat) :
    (others.flatMap ('.' :: ·) ++ List.replicate n '.').head?.any isNameChar = false := by
  cases others with
  | nil => cases n <;> rfl
  | cons _ _ => rfl

theorem moreNames_parts (h : ∀ part ∈ others, part ≠ [] ∧ ∀ c ∈ part, isNameChar c = true) (n : Nat) :
    moreNames (others.flatMap ('.' :: ·) ++ List.replicate n '.') = others.flatMap ('.' :: ·) := by
  induction others with
  | nil =>
    cases n with
    | zero => rfl
    | succ n =>
      have hdots : (List.replicate n '.').takeWhile isNameChar = [] := by
        cases n with
        | zero => rfl
        | succ n => exact List.takeWhile_cons_of_neg (by decide)
      rw [List.flatMap_nil, List.nil_append, List.replicate_succ, moreNames_dot, hdots]
      rfl
  | cons part others ih =>
    obtain ⟨⟨hne, hpart⟩, hothers⟩ := List.forall_mem_cons.mp h
    have hstop := head?_parts others n
    have hassoc : (part :: others).flatMap ('.' :: ·) ++ List.replicate n '.' =
        '.' :: (part ++ (others.flatMap ('.' :: ·) ++ List.replicate n '.')) := by
      simp
    rw [hassoc, moreNames_dot, takeWhile_append_stop hpart hstop, dropWhile_append_stop hpart hstop,
      ih hothers, if_neg (by simp [hne]), List.flatMap_cons]

/-- A dotted name is read but for the dots behind it. -/
theorem name?_parts (h : ∀ part ∈ first :: others, part ≠ [] ∧ ∀ c ∈ part, isNameChar c = true)
    (n : Nat) : name? (first ++ others.flatMap ('.' :: ·) ++ List.replicate n '.') =
      some (first ++ others.flatMap ('.' :: ·)) := by
  obtain ⟨⟨hne, hfirst⟩, hothers⟩ := List.forall_mem_cons.mp h
  have hstop := head?_parts others n
  rw [name?_eq, List.append_assoc, takeWhile_append_stop hfirst hstop,
    dropWhile_append_stop hfirst hstop, moreNames_parts hothers, if_neg (by simp [hne])]

end Target

namespace TableRef

variable {s t first : Text} {others : List Text}

/-- Names with the same parts refer to the same table. -/
theorem ofName_congr (h : (s.split '.').filter (!·.isEmpty) = (t.split '.').filter (!·.isEmpty))
    (hne : (t.split '.').filter (!·.isEmpty) ≠ []) : ofName s = ofName t := by
  rw [ofName, ofName, h]
  have hne' := mt List.reverse_eq_nil_iff.mp hne
  generalize ((t.split '.').filter (!·.isEmpty)).reverse = l at hne'
  cases l with
  | nil => exact absurd rfl hne'
  | cons _ l => cases l <;> rfl

theorem split_parts (h : ∀ part ∈ first :: others, '.' ∉ part) :
    Text.split '.' (first ++ others.flatMap ('.' :: ·)) = first :: others := by
  induction others generalizing first with
  | nil =>
    rw [List.flatMap_nil, List.append_nil, Text.split_of_not_mem (h first List.mem_cons_self)]
  | cons part others ih =>
    obtain ⟨hfirst, hothers⟩ := List.forall_mem_cons.mp h
    rw [List.flatMap_cons, List.cons_append, Text.split_append_cons hfirst, ih hothers]

/-- Dots behind a name do not matter. -/
theorem ofName_append_dots (h : ∀ part ∈ first :: others, part ≠ [] ∧ '.' ∉ part) (n : Nat) :
    ofName (first ++ others.flatMap ('.' :: ·) ++ List.replicate n '.') =
      ofName (first ++ others.flatMap ('.' :: ·)) := by
  have hdots : List.replicate n '.' = (List.replicate n []).flatMap ('.' :: ·) := by
    induction n with
    | zero => rfl
    | succ n ih => rw [List.replicate_succ, List.replicate_succ, List.flatMap_cons, ← ih]; rfl
  have hparts : (first :: others).filter (!·.isEmpty) = first :: others :=
    List.filter_eq_self.mpr fun part hpart => by simpa using (h part hpart).1
  have hempty : (List.replicate n ([] : Text)).filter (!·.isEmpty) = [] := by
    rw [List.filter_eq_nil_iff]
    intro part hpart
    rw [List.eq_of_mem_replicate hpart]
    decide
  have hsplit : Text.split '.' (first ++ others.flatMap ('.' :: ·)) = first :: others :=
    split_parts fun part hpart => (h part hpart).2
  have hsplit' : Text.split '.' (first ++ others.flatMap ('.' :: ·) ++ List.replicate n '.') =
      first :: others ++ List.replicate n [] := by
    rw [hdots, List.append_assoc, ← List.flatMap_append, split_parts]
    · rfl
    · intro part hpart
      rw [← List.cons_append, List.mem_append] at hpart
      rcases hpart with hpart | hpart
      · exact (h part hpart).2
      · rw [List.eq_of_mem_replicate hpart]
        exact List.not_mem_nil
  refine ofName_congr ?_ ?_
  · rw [hsplit, hsplit', List.filter_append, hparts, hempty, List.append_nil]
  · rw [hsplit, hparts]
    exact List.cons_ne_nil _ _

end TableRef

open Text in
/-- The name read of a dotted run refers to the table that the run refers to. -/
theorem IsDotted.exists_name? {t : Text} (h : IsDotted t) :
    ∃ name, Target.name? t = some name ∧ TableRef.ofName name.upper = TableRef.ofName t.upper := by
  obtain ⟨first, others, n, hparts, rfl⟩ := h
  refine ⟨_, Target.name?_parts hparts n, ?_⟩
  have hdots : upper (List.replicate n '.') = List.replicate n '.' := by
    induction n with
    | zero => rfl
    | succ n ih => rw [List.replicate_succ, upper_cons, ih]; rfl
  have hothers : upper (others.flatMap ('.' :: ·)) = (others.map upper).flatMap ('.' :: ·) := by
    rw [upper, List.flatMap_assoc, List.flatMap_map]
    rfl
  have hupper : ∀ part ∈ upper first :: others.map upper, part ≠ [] ∧ '.' ∉ part := by
    rw [← List.map_cons, List.forall_mem_map]
    intro part hpart
    obtain ⟨hne, hname⟩ := hparts part hpart
    refine ⟨fun e => ?_, fun hdot => ?_⟩
    · have := Text.isEmpty_upper part
      rw [e] at this
      exact hne (List.isEmpty_iff.mp this.symm)
    · obtain ⟨c, hc, hdot⟩ := List.mem_flatMap.mp hdot
      rw [← eq_of_mem_upperChar hdot (by decide)] at hc
      exact absurd (hname _ hc) (by decide)
  simp only [upper_append, hothers, hdots]
  exact (TableRef.ofName_append_dots hupper n).symm

/-! ### The target of a column list -/

namespace Clause

open Level Text

/-- The cursor is in a column list if the level around it ends in a target; the clause is read from
that level. -/
theorem exists_of_detect_eq_insertColumns {s : Text} {l : Level}
    (h : detect (atCursor s) = (insertColumns, l)) :
    ∃ k < Paren.depth s, l = atDepth s k ∧ (atDepth s k).endsInTarget = true := by
  rw [atCursor_eq] at h
  cases hcol : isColumnList (atDepth s (Paren.depth s)) with
  | true =>
    cases hd : Paren.depth s with
    | zero =>
      rw [hd] at hcol
      cases hcol
    | succ k =>
      rw [hd] at h hcol
      rw [detect_of_columnList hcol] at h
      exact ⟨k, Nat.lt_succ_self k, (Prod.mk.inj h).2.symm, hcol⟩
  | false =>
    rw [detect_of_not_columnList hcol] at h
    have hclause := (Prod.mk.inj h).1
    rcases classify_eq (atDepth s (Paren.depth s)).effective.masked with ⟨habsent, -⟩ | hmem
    · rw [habsent] at hclause
      cases hclause
    · rw [hclause] at hmem
      exact absurd hmem (by decide)

/-- The first name behind an `INSERT INTO` of a level around the cursor's is the target. -/
theorem insertTarget_of_head? {s name : Text} {k : Nat} (hk : k < Paren.depth s)
    (hsteady : Steady (atDepth s k).masked)
    (hname : (insertedNames (atDepth s k).masked).head? = some name) (c : Text) :
    (Resolution.ofText ((atDepth s k).extended c).upper).insertTarget =
      some (TableRef.ofName name.upper) := by
  obtain ⟨u, hu⟩ := exists_extended_eq s c hk
  have hupper : upper ((atDepth s k).masked ++ '(' :: u) =
      upper (atDepth s k).masked ++ '(' :: upper u := upper_append _ _
  have hfirst : Resolution.firstName? insertWords ((atDepth s k).extended c).upper =
      some name.upper := by
    rw [firstName?_insertWords, hu, hupper, insertedNames_append_open, insertedNames_upper hsteady,
      List.head?_append, List.head?_map, hname]
    rfl
  have hresolved : (Resolution.ofText ((atDepth s k).extended c).upper).insertTarget =
      (Resolution.firstName? insertWords ((atDepth s k).extended c).upper).map TableRef.ofName := rfl
  rw [hresolved, hfirst, Option.map_some]

/-- **A column list completes the first insertion of its level**: the target is the first name behind
an `INSERT INTO` of the level that the list belongs to. The last of these names is read of the run in
front of the list; so if no insertion of the level stands before it, and the run is a dotted name,
that is the target. -/
theorem insertTarget_of_columnList {s : Text} {l : Level}
    (h : detect (atCursor s) = (insertColumns, l)) (hsteady : Steady l.masked) :
    ∃ earlier, insertedNames l.masked = earlier ++ (Target.name? (targetRun l.masked)).toList ∧
      ∀ c, (∀ name, (insertedNames l.masked).head? = some name →
          (Resolution.ofText (l.extended c).upper).insertTarget =
            some (TableRef.ofName name.upper)) ∧
        (earlier = [] → IsDotted (targetRun l.masked) →
          (Resolution.ofText (l.extended c).upper).insertTarget =
            some (TableRef.ofName (targetRun l.masked).upper)) := by
  obtain ⟨k, hk, rfl, hends⟩ := exists_of_detect_eq_insertColumns h
  obtain ⟨earlier, hnames⟩ := exists_insertedNames_eq hends
  refine ⟨earlier, hnames, fun c => ⟨fun name hname => insertTarget_of_head? hk hsteady hname c, ?_⟩⟩
  rintro rfl hrun
  obtain ⟨name, hname, href⟩ := hrun.exists_name?
  rw [List.nil_append, hname] at hnames
  rw [← href]
  exact insertTarget_of_head? hk hsteady (by rw [hnames]; rfl) c

/-- The columns of a table with a schema, whatever follows the cursor. -/
theorem insertTarget_of_columnList_of_one :
    detect (atCursor "INSERT INTO hr.emp (id, ".toList) =
        (insertColumns, atDepth "INSERT INTO hr.emp (id, ".toList 0) ∧
      Steady (atDepth "INSERT INTO hr.emp (id, ".toList 0).masked ∧
      IsDotted (targetRun (atDepth "INSERT INTO hr.emp (id, ".toList 0).masked) ∧
      ∀ c, (Resolution.ofText
        ((atDepth "INSERT INTO hr.emp (id, ".toList 0).extended c).upper).insertTarget =
          some { table := "EMP".toList, schema := some "HR".toList } := by
  have h : detect (atCursor "INSERT INTO hr.emp (id, ".toList) =
      (insertColumns, atDepth "INSERT INTO hr.emp (id, ".toList 0) := by decide
  have hsteady : Steady (atDepth "INSERT INTO hr.emp (id, ".toList 0).masked := by decide
  have hrun : IsDotted (targetRun (atDepth "INSERT INTO hr.emp (id, ".toList 0).masked) :=
    ⟨"hr".toList, ["emp".toList], 0, by decide, by decide⟩
  refine ⟨h, hsteady, hrun, fun c => ?_⟩
  obtain ⟨earlier, hnames, htarget⟩ := insertTarget_of_columnList h hsteady
  have hone : insertedNames (atDepth "INSERT INTO hr.emp (id, ".toList 0).masked =
      [] ++ (Target.name? (targetRun (atDepth "INSERT INTO hr.emp (id, ".toList 0).masked)).toList := by
    decide
  rw [(htarget c).2 (List.append_cancel_right (hnames.symm.trans hone)) hrun]
  decide

/-- The cursor is in a column list, and its target is not what the run in front of it refers to. -/
def CompletesOther (s : Text) : Prop :=
  (detect (atCursor s)).1 = insertColumns ∧
    (Resolution.ofText ((detect (atCursor s)).2.extended []).upper).insertTarget ≠
      some (TableRef.ofName (targetRun (detect (atCursor s)).2.masked).upper)

instance (s : Text) : Decidable (CompletesOther s) :=
  inferInstanceAs (Decidable (_ ∧ _))

/-- With an insertion before it a column list completes that one. A run with two dots in a row is read
up to the first of them, and no insertion is found where upper case makes a word of the character in
front. -/
theorem columnList_of_other_target :
    CompletesOther "INSERT INTO a (x) VALUES (1) INSERT INTO b (".toList ∧
      CompletesOther "INSERT INTO a..b (".toList ∧ CompletesOther "\u0345INSERT INTO b (".toList := by
  decide +kernel

end Clause

end SqlAssist
