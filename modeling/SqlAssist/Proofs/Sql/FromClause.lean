import SqlAssist.Proofs.Sql.TableClause

/-!
# Clauses of tables

A list of tables behind `FROM`, followed by joins without a condition: the clauses in
which every item is a table. They are clauses of the wider grammar (`FromClause.clause`),
with the same text and the same targets.

A clause in capitals is the clause of its names in capitals (`FromClause.text_upper`).
-/

namespace SqlAssist

/-! ### Syntax -/

/-- A further table of a list, with its comma. -/
structure ListedItem where
  /-- The white space before the comma. -/
  before : Blank
  /-- The white space behind the comma. -/
  after : Blank
  /-- The table. -/
  item : FromItem

/-- A joined table. -/
structure JoinedItem where
  /-- The white space before the `JOIN`. -/
  before : Gap
  /-- The white space behind the `JOIN`. -/
  after : Gap
  /-- The table. -/
  item : FromItem

/-- A list of tables behind `FROM` and the tables joined to it. -/
structure FromClause where
  /-- The white space before the `FROM`. -/
  before : Gap
  /-- The white space behind the `FROM`. -/
  after : Gap
  /-- The first table. -/
  first : FromItem
  /-- The other tables of the list. -/
  listed : List ListedItem
  /-- The joined tables. -/
  joined : List JoinedItem

namespace ListedItem

/-- The item behind its comma, as written. -/
def text (l : ListedItem) : Text :=
  l.before.1 ++ ',' :: (l.after.1 ++ l.item.text)

/-- The item in capitals. -/
def upper (l : ListedItem) : ListedItem :=
  { l with item := l.item.upper }

end ListedItem

namespace JoinedItem

/-- The item behind its `JOIN`, as written. -/
def text (j : JoinedItem) : Text :=
  j.before.1 ++ ("JOIN".toList ++ (j.after.1 ++ j.item.text))

/-- The item in capitals. -/
def upper (j : JoinedItem) : JoinedItem :=
  { j with item := j.item.upper }

end JoinedItem

namespace FromClause

/-- All tables, in order. -/
def items (q : FromClause) : List FromItem :=
  q.first :: (q.listed.map (·.item) ++ q.joined.map (·.item))

/-- The clause as written. -/
def text (q : FromClause) : Text :=
  q.before.1 ++ ("FROM".toList ++ (q.after.1 ++
    (q.first.text ++ (q.listed.flatMap (·.text) ++ q.joined.flatMap (·.text)))))

/-- The clause in capitals. -/
def upper (q : FromClause) : FromClause where
  before := q.before
  after := q.after
  first := q.first.upper
  listed := q.listed.map .upper
  joined := q.joined.map .upper

end FromClause

/-! ### Capitals -/

theorem ListedItem.text_upper (l : ListedItem) : l.upper.text = l.text.upper := by
  have hcomma : Text.upperChar ',' = [','] := by decide
  simp only [text, upper, Text.upper_append, Text.upper_cons, FromItem.text_upper, hcomma,
    Text.upper_of_isBlank l.before.2, Text.upper_of_isBlank l.after.2, List.singleton_append]

theorem JoinedItem.text_upper (j : JoinedItem) : j.upper.text = j.text.upper := by
  have hjoin : Text.upper "JOIN".toList = "JOIN".toList := by decide
  simp only [text, upper, Text.upper_append, FromItem.text_upper, hjoin, Gap.upper]

namespace FromClause

theorem items_upper (q : FromClause) : q.upper.items = q.items.map .upper := by
  simp [items, upper, Function.comp_def, ListedItem.upper, JoinedItem.upper]

theorem text_upper (q : FromClause) : q.upper.text = q.text.upper := by
  have hfrom : Text.upper "FROM".toList = "FROM".toList := by decide
  have hlisted : (q.listed.map ListedItem.upper).flatMap (·.text) =
      Text.upper (q.listed.flatMap (·.text)) := by
    rw [List.flatMap_map, Text.upper, List.flatMap_assoc]
    exact List.flatMap_congr fun l _ => l.text_upper
  have hjoined : (q.joined.map JoinedItem.upper).flatMap (·.text) =
      Text.upper (q.joined.flatMap (·.text)) := by
    rw [List.flatMap_map, Text.upper, List.flatMap_assoc]
    exact List.flatMap_congr fun j _ => j.text_upper
  simp only [text, upper, hlisted, hjoined, Text.upper_append, hfrom, Gap.upper, FromItem.text_upper]

end FromClause

/-! ### The wider grammar -/

/-- The item of a list, in the wider grammar. -/
def ListedItem.listed (l : ListedItem) : ListedTable :=
  ⟨l.before, l.after, .table l.item⟩

/-- The joined item, in the wider grammar. -/
def JoinedItem.joined (j : JoinedItem) : JoinedTable :=
  ⟨j.before, none, j.after, .table j.item, none⟩

namespace FromClause

/-- The clause, in the wider grammar. -/
def clause (q : FromClause) : TableClause where
  before := q.before
  after := q.after
  first := .table q.first
  listed := q.listed.map ListedItem.listed
  joined := q.joined.map JoinedItem.joined

theorem clause_text (q : FromClause) : q.clause.text = q.text := by
  have hjoined : ∀ j : JoinedItem, j.joined.text = j.text := fun j => by
    simp [JoinedItem.joined, JoinedTable.text, JoinedTable.kindText, JoinedTable.onText, JoinedItem.text,
      TableItem.text, TableItem.source, TableItem.aliasPart, FromItem.text]
  rw [TableClause.text, text, clause, List.flatMap_map, List.flatMap_map]
  simp only [hjoined]
  rfl

theorem clause_targets (q : FromClause) : q.clause.items.map (·.target) = q.items.map (·.target) := by
  simp [TableClause.items, items, clause, Function.comp_def, ListedItem.listed, JoinedItem.joined,
    TableItem.target, TableItem.name, TableItem.aliasPart, FromItem.target]

end FromClause

end SqlAssist
