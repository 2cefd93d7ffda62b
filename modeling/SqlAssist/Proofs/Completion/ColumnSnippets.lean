import SqlAssist.Proofs.Completion.SnippetText

/-!
# Snippets for all columns

A combined snippet holds the columns of a table, up to the twenty-fifth, and a placeholder for each.
The text of a column may be anything, a comma, `value` and a line break included, so the text of the
snippet cannot be read back; which column a placeholder belongs to is told by the offset that it
carries. The text in front of that offset ends in the column and its equals sign, behind the
assignments of the columns before (`AssignsInOrder`), or it holds the list of the columns and as many
values as there are columns before (`ListsValues`). So it is in the snippets on offer, whatever the
index and the table (**`placeholders_follow_columns`**).

Both snippets are rows of groups, each of which ends in its placeholder (`row`). What the groups in
front of a placeholder insert is known without looking at the texts (`stops_row`).
-/

namespace SqlAssist

namespace Snippet

open Piece

variable {columns : List Text} {j : Nat} {s s' : TabStop}

/-! ### What the snippets hold -/

/-- The tab stops of a candidate are `m` placeholders: they are numbered from one on, and each covers
a `value` of the inserted text. -/
structure HasPlaceholders (m : Nat) (c : Candidate) : Prop where
  numbered : c.stops.map (·.index) = (List.range' 1 m).map Nat.cast
  defaults : c.stops.map (·.defaultText) = List.replicate m "value".toList
  covers : ∀ s ∈ c.stops, 0 ≤ s.offset ∧
    c.insertText.slice s.offset.toNat (s.offset.toNat + 5) = "value".toList

/-- The snippet assigns the columns in order, each to the placeholder of its own position. -/
structure AssignsInOrder (columns : List Text) (c : Candidate) : Prop where
  placeholders : HasPlaceholders (min columns.length 25) c
  /-- The assignments stand on lines of their own, with a mark behind them where columns are left. -/
  text : c.insertText = "  ".toList ++
    Text.join ",\n  ".toList ((columns.take 25).map (· ++ " = value".toList)) ++
      if 25 < columns.length then ",\n  -- ...".toList else []
  /-- In front of a placeholder stand the assignments of the columns before, and its own column. -/
  front : ∀ j s, c.stops[j]? = some s → ∃ column, columns[j]? = some column ∧
    c.insertText.take s.offset.toNat = "  ".toList ++
      (columns.take j).flatMap (· ++ " = value,\n  ".toList) ++ (column ++ " = ".toList)
  /-- From a placeholder to the next there are its value, a separator and the next column. -/
  between : ∀ j s s', c.stops[j]? = some s → c.stops[j + 1]? = some s' →
    ∃ column, columns[j + 1]? = some column ∧
      c.insertText.slice s.offset.toNat s'.offset.toNat =
        "value".toList ++ ",\n  ".toList ++ (column ++ " = ".toList)
  /-- The last line is the mark if columns are left, and only then. -/
  more : "\n  -- ...".toList <:+ c.insertText ↔ 25 < columns.length

/-- The columns in front of `VALUES`, with a mark where columns are left. -/
def header (columns : List Text) : Text :=
  Text.join ", ".toList (columns.take 25) ++
    (if 25 < columns.length then ", /*...*/".toList else []) ++ ") VALUES (".toList

/-- The snippet lists the columns and a placeholder for each. -/
structure ListsValues (columns : List Text) (c : Candidate) : Prop where
  placeholders : HasPlaceholders (min columns.length 25) c
  text : c.insertText = header columns ++
    Text.join ", ".toList (List.replicate (min columns.length 25) "value".toList) ++ ")".toList
  /-- In front of a placeholder stand the values of the columns before. -/
  front : ∀ j s, c.stops[j]? = some s → c.insertText.take s.offset.toNat =
    header columns ++ (List.replicate j "value, ".toList).flatten

/-- The snippet that assigns one column. -/
def assigning (column : Text) : Candidate where
  label := column ++ " = (snippet)".toList
  insertText := column ++ " = value".toList
  kind := .snippet
  detail := some ("Assign ".toList ++ column)
  isSnippet := true
  stops := [⟨1, "value".toList, (column ++ " = ".toList).length⟩]

/-! ### Groups with a text between them -/

theorem separate_cons_of_ne_nil {gs : List (List Piece)} (h : gs ≠ []) (sep : Text) (g : List Piece) :
    separate sep (g :: gs) = g ++ .text sep :: separate sep gs := by
  cases gs with
  | nil => exact absurd rfl h
  | cons f gs => rfl

theorem separate_cons (sep : Text) (g : List Piece) (gs : List (List Piece)) :
    separate sep (g :: gs) = g ++ gs.flatMap (.text sep :: ·) := by
  induction gs generalizing g with
  | nil => exact (List.append_nil g).symm
  | cons f gs ih =>
    rw [separate_cons_of_ne_nil (List.cons_ne_nil f gs), ih, List.flatMap_cons, List.cons_append]

theorem separate_append_cons (sep : Text) (gs : List (List Piece)) (g : List Piece)
    (hs : List (List Piece)) :
    separate sep (gs ++ g :: hs) =
      gs.flatMap (· ++ [.text sep]) ++ (g ++ hs.flatMap (.text sep :: ·)) := by
  induction gs with
  | nil => exact separate_cons ..
  | cons f gs ih =>
    rw [List.cons_append, separate_cons_of_ne_nil (by simp), ih, List.flatMap_cons,
      List.append_assoc, List.append_assoc]
    rfl

theorem insertedBy_separate (sep : Text) (gs : List (List Piece)) :
    insertedBy (separate sep gs) = Text.join sep (gs.map insertedBy) := by
  fun_induction separate sep gs with
  | case1 => rfl
  | case2 g => rfl
  | case3 g gs hne ih =>
    obtain ⟨f, fs, rfl⟩ := List.exists_cons_of_ne_nil (fun h => hne h)
    rw [insertedBy_append, insertedBy_text, ih, ← List.append_assoc]
    rfl

theorem defaults_separate (sep : Text) (gs : List (List Piece)) :
    defaults (separate sep gs) = gs.flatMap defaults := by
  fun_induction separate sep gs with
  | case1 => rfl
  | case2 g => exact (List.append_nil _).symm
  | case3 g gs hne ih => rw [defaults_append, defaults_text, ih, List.flatMap_cons]

/-! ### A value for each column -/

/-- A value for each column, behind what introduces it, with a separator between them. -/
def row (front sep : Text) (lead : Text → List Piece) (columns : List Text) (back : List Piece) :
    List Piece :=
  .text front :: separate sep (columns.map fun c => lead c ++ [value]) ++ back

/-- What a row inserts in front of the value of a column, when `columns` are those before. -/
def inFront (front sep : Text) (lead : Text → List Piece) (columns : List Text) (column : Text) :
    Text :=
  front ++ columns.flatMap (fun c => insertedBy (lead c) ++ "value".toList ++ sep) ++
    insertedBy (lead column)

section Row

variable {front sep label : Text} {lead : Text → List Piece} {back : List Piece}
  {detail : Option Text}

theorem insertedBy_row (front sep : Text) (lead : Text → List Piece) (columns : List Text)
    (back : List Piece) :
    insertedBy (row front sep lead columns back) =
      front ++ Text.join sep (columns.map fun c => insertedBy (lead c) ++ "value".toList) ++
        insertedBy back := by
  rw [row, insertedBy_append, insertedBy_text, insertedBy_separate, List.map_map]
  simp only [Function.comp_def, insertedBy_append]
  rfl

theorem defaults_groups (hlead : ∀ c, defaults (lead c) = []) (ps : List Piece) (hps : defaults ps = [])
    (gs : List Text) :
    defaults (gs.flatMap fun c => lead c ++ value :: ps) = List.replicate gs.length "value".toList := by
  induction gs with
  | nil => rfl
  | cons g gs ih =>
    rw [List.flatMap_cons, defaults_append, defaults_append, hlead, ih, value, defaults_stop, hps]
    rfl

theorem defaults_row (hlead : ∀ c, defaults (lead c) = []) (hback : defaults back = []) :
    defaults (row front sep lead columns back) =
      List.replicate columns.length "value".toList := by
  have h := defaults_groups hlead [] rfl columns
  rw [row, defaults_append, defaults_text, hback, List.append_nil, defaults_separate,
    List.flatMap_map, ← h]
  exact List.filterMap_flatMap.symm

theorem row_append_cons (gs : List Text) (g : Text) (hs : List Text) :
    row front sep lead (gs ++ g :: hs) back =
      (.text front :: gs.flatMap (fun c => lead c ++ [value, .text sep]) ++ lead g) ++
        value :: (hs.flatMap (fun c => .text sep :: (lead c ++ [value])) ++ back) := by
  rw [row, List.map_append, List.map_cons, separate_append_cons, List.flatMap_map, List.flatMap_map]
  simp only [List.cons_append, List.append_assoc, List.nil_append]

theorem insertedBy_groups (gs : List Text) (g : Text) :
    insertedBy (.text front :: gs.flatMap (fun c => lead c ++ [value, .text sep]) ++ lead g) =
      inFront front sep lead gs g := by
  rw [insertedBy_append, insertedBy_text, insertedBy, List.flatMap_assoc]
  refine congrArg (front ++ · ++ _) (congrArg gs.flatMap (funext fun c => ?_))
  have h : insertedBy [value, .text sep] = "value".toList ++ sep := by
    rw [value, insertedBy_stop, insertedBy_text, insertedBy_nil, List.append_nil]
  exact (insertedBy_append ..).trans ((congrArg _ h).trans (List.append_assoc ..).symm)

/-- The stop of a column covers a value right behind what the row inserts in front of it. -/
theorem stops_row (hlead : ∀ c, defaults (lead c) = []) (hback : defaults back = [])
    (h : (build (row front sep lead columns back) label detail).stops[j]? = some s) :
    ∃ column, columns[j]? = some column ∧
      s.offset = (inFront front sep lead (columns.take j) column).length ∧
      inFront front sep lead (columns.take j) column <+:
        (build (row front sep lead columns back) label detail).insertText := by
  have hplaced := arePlaced_build (row front sep lead columns back) label detail
  have hlength := congrArg List.length hplaced.defaults
  rw [defaults_row hlead hback, List.length_map, List.length_replicate] at hlength
  have hj : j < columns.length := hlength ▸ (List.getElem?_eq_some_iff.mp h).1
  have hcolumns : columns = columns.take j ++ columns[j] :: columns.drop (j + 1) := by
    rw [List.getElem_cons_drop, List.take_append_drop]
  have hrow := congrArg (row front sep lead · back) hcolumns
  rw [row_append_cons] at hrow
  have hfront := defaults_groups hlead [.text sep] rfl (columns.take j)
  have hstop := hplaced.offset _ _ _ hrow
  refine ⟨columns[j], List.getElem?_eq_getElem hj, ?_, ?_⟩
  · rw [List.cons_append, defaults_text, defaults_append, hfront, hlead, List.append_nil,
      List.length_replicate, List.length_take_of_le hj.le, ← List.cons_append,
      insertedBy_groups] at hstop
    exact congrArg TabStop.offset (Option.some.inj (h.symm.trans hstop))
  · rw [hplaced.inserted, hrow, insertedBy_append, insertedBy_groups]
    exact List.prefix_append ..

theorem hasPlaceholders_row (hlead : ∀ c, defaults (lead c) = []) (hback : defaults back = []) :
    HasPlaceholders columns.length (build (row front sep lead columns back) label detail) := by
  have hplaced := arePlaced_build (row front sep lead columns back) label detail
  have hdefaults := hplaced.defaults.trans (defaults_row hlead hback)
  have hlength := congrArg List.length hdefaults
  rw [List.length_map, List.length_replicate] at hlength
  refine ⟨hlength ▸ hplaced.numbered, hdefaults, fun s hs => ?_⟩
  have hvalue : s.defaultText = "value".toList :=
    List.eq_of_mem_replicate (hdefaults ▸ List.mem_map_of_mem hs)
  have hcovers := hplaced.covers s hs
  rwa [hvalue] at hcovers

theorem take_stops_row (hlead : ∀ c, defaults (lead c) = []) (hback : defaults back = [])
    (h : (build (row front sep lead columns back) label detail).stops[j]? = some s) :
    ∃ column, columns[j]? = some column ∧
      (build (row front sep lead columns back) label detail).insertText.take s.offset.toNat =
        inFront front sep lead (columns.take j) column := by
  obtain ⟨column, hcolumn, hoffset, hprefix⟩ := stops_row hlead hback h
  refine ⟨column, hcolumn, ?_⟩
  rw [hoffset, Int.toNat_natCast]
  exact (List.prefix_iff_eq_take.mp hprefix).symm

theorem slice_stops_row (hlead : ∀ c, defaults (lead c) = []) (hback : defaults back = [])
    (h : (build (row front sep lead columns back) label detail).stops[j]? = some s)
    (h' : (build (row front sep lead columns back) label detail).stops[j + 1]? = some s') :
    ∃ column, columns[j + 1]? = some column ∧
      (build (row front sep lead columns back) label detail).insertText.slice
        s.offset.toNat s'.offset.toNat = "value".toList ++ sep ++ insertedBy (lead column) := by
  obtain ⟨column, hcolumn, hoffset, -⟩ := stops_row hlead hback h
  obtain ⟨column', hcolumn', htake⟩ := take_stops_row hlead hback h'
  refine ⟨column', hcolumn', ?_⟩
  have hnext : inFront front sep lead (columns.take (j + 1)) column' =
      inFront front sep lead (columns.take j) column ++
        ("value".toList ++ sep ++ insertedBy (lead column')) := by
    simp [inFront, List.take_add_one, hcolumn]
  rw [Text.slice, ← List.drop_take, htake, hnext, hoffset, Int.toNat_natCast, List.drop_left]

/-- A row of at least one column ends in a value and what is behind the row. -/
theorem exists_insertedBy_row (front sep : Text) (lead : Text → List Piece) (back : List Piece)
    (h : columns ≠ []) :
    ∃ u, insertedBy (row front sep lead columns back) = u ++ "value".toList ++ insertedBy back := by
  obtain ⟨gs, g, rfl⟩ := (List.eq_nil_or_concat' columns).resolve_left h
  rw [row_append_cons, insertedBy_append, value, insertedBy_stop, ← List.append_assoc]
  exact ⟨_, rfl⟩

end Row

/-! ### The columns of a table -/

theorem getElem?_capped {column : Text} (h : (capped columns)[j]? = some column) :
    columns[j]? = some column ∧ (capped columns).take j = columns.take j := by
  have hj : j < maxColumns := by
    have := (List.getElem?_eq_some_iff.mp h).1
    rw [capped, List.length_take] at this
    omega
  refine ⟨(List.getElem?_take_of_lt hj).symm.trans h, ?_⟩
  rw [capped, List.take_take, Nat.min_eq_left hj.le]

theorem length_capped (columns : List Text) : (capped columns).length = min columns.length 25 := by
  rw [capped, List.length_take, Nat.min_comm]
  rfl

theorem isCapped_iff : isCapped columns = true ↔ 25 < columns.length :=
  decide_eq_true_iff

theorem columnsAndValues_eq_row (columns : List Text) :
    columnsAndValues columns =
      row (header columns) ", ".toList (fun _ => []) (capped columns) [.text ")".toList] := by
  simp only [columnsAndValues, row, header, columnList, isCapped_iff]
  rfl

/-- What introduces the value of a column in an assignment. -/
def equals (column : Text) : List Piece :=
  [.text (column ++ " = ".toList)]

theorem insertedBy_equals (column : Text) : insertedBy (equals column) = column ++ " = ".toList :=
  List.append_nil _

theorem inFront_assignments (columns : List Text) (column : Text) :
    inFront "  ".toList ",\n  ".toList equals columns column =
      "  ".toList ++ columns.flatMap (· ++ " = value,\n  ".toList) ++ (column ++ " = ".toList) := by
  simp only [inFront, insertedBy_equals, List.append_assoc]
  rfl

theorem inFront_values (front : Text) (columns : List Text) (column : Text) :
    inFront front ", ".toList (fun _ => []) columns column =
      front ++ (List.replicate columns.length "value, ".toList).flatten := by
  rw [inFront, insertedBy_nil, List.append_nil, ← List.map_const', ← List.flatMap_def]
  rfl

/-- A text that ends in a value does not end in the mark. -/
theorem mark_suffix_iff (u : Text) (p : Prop) [Decidable p] :
    "\n  -- ...".toList <:+ u ++ "value".toList ++ (if p then ",\n  -- ...".toList else []) ↔ p := by
  by_cases hp : p
  · rw [if_pos hp]
    exact iff_of_true ⟨u ++ "value".toList ++ [','], List.append_assoc _ [','] _⟩ hp
  · rw [if_neg hp, List.append_nil]
    refine iff_of_false ?_ hp
    rintro ⟨v, hv⟩
    have hlast := congrArg List.getLast? hv
    rw [List.getLast?_append, List.getLast?_append] at hlast
    have hdot : "\n  -- ...".toList.getLast? = some '.' := by decide
    have hvalue : "value".toList.getLast? = some 'e' := by decide
    rw [hdot, hvalue, Option.some_or, Option.some_or] at hlast
    exact absurd (Option.some.inj hlast) (by decide)

theorem assignsInOrder_assignments (h : columns ≠ []) (label : Text) (detail : Option Text) :
    AssignsInOrder columns (build (assignments columns) label detail) := by
  have hcapped : capped columns ≠ [] := by simp [capped, maxColumns, h]
  -- What stands behind the assignments, whether there is any or not, holds no placeholder.
  obtain ⟨back, hrow, hback, hinserted⟩ : ∃ back, assignments columns =
        row "  ".toList ",\n  ".toList equals (capped columns) back ∧
      defaults back = [] ∧
      insertedBy back = if 25 < columns.length then ",\n  -- ...".toList else [] := by
    refine ⟨_, rfl, ?_, ?_⟩
    · split <;> rfl
    · simp only [isCapped_iff]
      split <;> rfl
  rw [hrow]
  refine ⟨?_, ?_, fun j s hs => ?_, fun j s s' hs hs' => ?_, ?_⟩
  · rw [← length_capped]
    exact hasPlaceholders_row (fun _ => rfl) hback
  · refine (insertedBy_row ..).trans ?_
    simp only [hinserted, insertedBy_equals, List.append_assoc]
    rfl
  · obtain ⟨column, hcolumn, htake⟩ := take_stops_row (fun _ => rfl) hback hs
    obtain ⟨hcolumn, hbefore⟩ := getElem?_capped hcolumn
    exact ⟨column, hcolumn, by rw [htake, hbefore, inFront_assignments]⟩
  · obtain ⟨column, hcolumn, hslice⟩ := slice_stops_row (fun _ => rfl) hback hs hs'
    exact ⟨column, (getElem?_capped hcolumn).1, by rw [hslice, insertedBy_equals]⟩
  · obtain ⟨u, hu⟩ := exists_insertedBy_row "  ".toList ",\n  ".toList equals back hcapped
    have htext : (build (row "  ".toList ",\n  ".toList equals (capped columns) back)
        label detail).insertText = u ++ "value".toList ++ insertedBy back := hu
    rw [htext, hinserted]
    exact mark_suffix_iff u _

theorem listsValues_columnsAndValues (columns : List Text) (label : Text) (detail : Option Text) :
    ListsValues columns (build (columnsAndValues columns) label detail) := by
  rw [columnsAndValues_eq_row]
  refine ⟨?_, ?_, fun j s hs => ?_⟩
  · rw [← length_capped]
    exact hasPlaceholders_row (fun _ => rfl) rfl
  · refine (insertedBy_row ..).trans ?_
    rw [← length_capped, ← List.map_const']
    rfl
  · obtain ⟨column, hcolumn, htake⟩ := take_stops_row (fun _ => rfl) rfl hs
    have hj : j ≤ (capped columns).length := (List.getElem?_eq_some_iff.mp hcolumn).1.le
    rw [htake, inFront_values, List.length_take_of_le hj]

theorem build_assignment (column : Text) :
    build (assignment column) (column ++ " = (snippet)".toList) (some ("Assign ".toList ++ column)) =
      assigning column := by
  have htext : (assignment column).flatMap inserted = column ++ " = value".toList :=
    List.append_assoc ..
  have hstops : stopsFrom 1 0 (assignment column) = (assigning column).stops := by
    rw [assignment, stopsFrom, value, stopsFrom, stopsFrom, Nat.zero_add]
    rfl
  rw [build, htext, hstops]
  rfl

section Table

variable {i : CatalogIndex} {target : TableRef}

theorem ofUpdate_eq (h : i.columnsFor target ≠ []) :
    ofUpdate i target =
      build (assignments (i.columnsFor target)) "SET all columns (snippet)".toList
          (some (target.qualifiedName ++ " - generates assignments".toList)) ::
        (i.columnsFor target).map assigning := by
  have hne : ¬ (i.columnsFor target).isEmpty = true := by simpa using h
  simp only [← funext build_assignment]
  exact if_neg hne

theorem exists_ofInsert_eq (h : i.columnsFor target ≠ []) (closeList : Bool) :
    ∃ plain, ofInsert i target closeList =
      plain ++ [build (columnsAndValues (i.columnsFor target)) "Columns + VALUES (snippet)".toList
        (some "Generates VALUES placeholders".toList)] := by
  have hne : ¬ (i.columnsFor target).isEmpty = true := by simpa using h
  exact ⟨_, if_neg hne⟩

end Table

/-- **Placeholders stay with their columns.** In the snippet for all columns each placeholder is
assigned to the column of its position, and a snippet for each column follows; in the list with
values there are as many placeholders as columns listed. -/
theorem placeholders_follow_columns (i : CatalogIndex) (target : TableRef)
    (h : i.columnsFor target ≠ []) :
    (∃ all, ofUpdate i target = all :: (i.columnsFor target).map assigning ∧
      all.label = "SET all columns (snippet)".toList ∧
      AssignsInOrder (i.columnsFor target) all) ∧
    ∀ closeList, ∃ plain values, ofInsert i target closeList = plain ++ [values] ∧
      values.label = "Columns + VALUES (snippet)".toList ∧
      ListsValues (i.columnsFor target) values := by
  refine ⟨⟨_, ofUpdate_eq h, rfl, assignsInOrder_assignments h ..⟩, fun closeList => ?_⟩
  obtain ⟨plain, hplain⟩ := exists_ofInsert_eq h closeList
  exact ⟨plain, _, hplain, rfl, listsValues_columnsAndValues ..⟩

/-- More columns than a snippet may hold; the first one reads like two assignments. -/
theorem placeholders_follow_columns_twenty_six :
    ∃ (i : CatalogIndex) (target : TableRef), i.columnsFor target ≠ [] ∧
      (i.columnsFor target).length = 26 ∧
      (∃ all s, ofUpdate i target = all :: (i.columnsFor target).map assigning ∧
        HasPlaceholders 25 all ∧ "\n  -- ...".toList <:+ all.insertText ∧ all.stops[1]? = some s ∧
        all.insertText.take s.offset.toNat =
          "  a = value,\n  b = value,\n  value = ".toList) ∧
      ∃ values ∈ ofInsert i target, HasPlaceholders 25 values := by
  let columns := "a = value,\n  b".toList :: List.replicate 25 "value".toList
  let i := CatalogIndex.build [⟨"s".toList, [⟨"t".toList, columns⟩]⟩] []
  let target : TableRef := { table := "T".toList }
  have hcolumns : i.columnsFor target = columns := by decide
  have hne : i.columnsFor target ≠ [] := by rw [hcolumns]; exact List.cons_ne_nil _ _
  obtain ⟨⟨all, hall, -, hassigns⟩, hinsert⟩ := placeholders_follow_columns i target hne
  obtain ⟨plain, values, hvalues, -, hlists⟩ := hinsert true
  rw [hcolumns] at hassigns hlists
  have hlength := congrArg List.length hassigns.placeholders.numbered
  rw [List.length_map, List.length_map, List.length_range'] at hlength
  have hone : 1 < all.stops.length := hlength ▸ by decide
  obtain ⟨column, hcolumn, hfront⟩ := hassigns.front 1 _ (List.getElem?_eq_getElem hone)
  obtain rfl : "value".toList = column := Option.some.inj hcolumn
  exact ⟨i, target, hne, by rw [hcolumns]; rfl,
    ⟨all, _, hall, hassigns.placeholders, hassigns.more.mpr (by decide),
      List.getElem?_eq_getElem hone, hfront⟩,
    values, by rw [hvalues]; exact List.mem_append_right _ (List.mem_singleton_self _),
    hlists.placeholders⟩

end Snippet

end SqlAssist
