import SqlAssist.Proofs.Sql.Bindings
import SqlAssist.Proofs.Sql.Registration

/-!
# Queries for all columns

`SELECT * FROM`, a list of items and the joins behind it: for each query of this form
the tables of its text are known from its syntax (`TableItem.bindings`). A table is
registered under its alias and then under its bare name, a subquery under its alias if
it has one. **`resolution_of_text`** says that reading the text of a query finds the
bindings of its items, set from left to right, and nothing else.
-/

namespace SqlAssist

/-- What the item is registered under, in order. -/
def TableItem.bindings : TableItem → List (Text × TableRef)
  | table item => (item.aliasPart.toList.map fun a => (a.name.text, item.ref)) ++ [(item.table.text, item.ref)]
  | group _ aliasPart => aliasPart.toList.map fun a => (a.name.text, .ofAlias a.name.text)

theorem TableItem.bindings_target (i : TableItem) : i.target.bindings = i.bindings := by
  have hproper : i.target.properAlias = i.aliasPart.map (·.name.text) := Target.properAlias_target i
  cases i with
  | table item =>
    have href : (table item).target.ref? = some item.ref := congrArg some item.ofName_name
    have hderived : item.ref.derived = false := rfl
    rw [Target.bindings, href, hproper, Option.toList_some, List.flatMap_singleton, TableRef.bindings,
      hderived, bindings, aliasPart]
    cases item.aliasPart <;> rfl
  | group inside a =>
    rw [Target.bindings, Target.ref?, hproper, bindings, aliasPart]
    cases a <;> rfl

/-- A query for all columns. -/
structure TableQuery where
  /-- The white space behind the `SELECT`. -/
  gap : Gap
  /-- The `FROM` and what it names. -/
  clause : TableClause

namespace TableQuery

/-- What stands before the `FROM`, as written. -/
def front (q : TableQuery) : Text :=
  "SELECT".toList ++ (q.gap.1 ++ ['*'])

/-- The query as written. -/
def text (q : TableQuery) : Text :=
  q.front ++ q.clause.text

/-- What its items are registered under, from left to right. -/
def bindings (q : TableQuery) : List (Text × TableRef) :=
  q.clause.items.flatMap TableItem.bindings

/-- No name stands before the `FROM`. -/
theorem namesOr_front (q : TableQuery) : Text.NamesOr ["SELECT".toList] q.front :=
  ((Text.namesOr_nil _).cons (by decide)).word_append (by decide) List.mem_cons_self q.gap

/-- **Reading undoes writing.** The tables of a query are the bindings of its items, set
from left to right: a key that is set again keeps its place and takes the new reference,
so the keys stand in the order of their first settings and have the values of their last.
Nothing is updated or inserted. -/
theorem resolution_of_text (q : TableQuery) :
    Resolution.ofText q.text =
        { tables := OrderedMap.ofList q.bindings, updateTarget := none, insertTarget := none } ∧
      OrderedMap.keys (Resolution.ofText q.text).tables = (q.bindings.map (·.1)).eraseDups ∧
      ∀ k, (Resolution.ofText q.text).tables.get? k = (q.bindings.reverse.find? (·.1 = k)).map (·.2) := by
  have htables : (q.clause.items.map (·.target)).foldl Resolution.registerTarget [] =
      OrderedMap.ofList q.bindings := by
    rw [Resolution.foldl_registerTarget_eq_insertAll, List.flatMap_map, OrderedMap.ofList_eq_insertAll,
      bindings]
    simp only [TableItem.bindings_target]
  have hread : Resolution.ofText q.text =
      { tables := OrderedMap.ofList q.bindings, updateTarget := none, insertTarget := none } := by
    rw [text, Resolution.ofText_clause q.clause q.namesOr_front, htables]
  refine ⟨hread, ?_, fun k => ?_⟩
  · rw [hread, OrderedMap.keys_ofList]
  · rw [hread, OrderedMap.get?_ofList]

/-- An alias that is given again, to a joined subquery: it keeps its place. -/
theorem resolution_of_text_given_twice :
    (Resolution.ofText "SELECT * FROM HR.EMP AS A, (  ) LEFT JOIN ( ) A ON A.ID=EMP.ID".toList).tables =
      [("A".toList, { table := "A".toList, derived := true }),
        ("EMP".toList, { table := "EMP".toList, schema := some "HR".toList })] := by
  let gap : Gap := ⟨" ".toList, by decide⟩
  let blank : Blank := ⟨" ".toList, by decide⟩
  let hr : Identifier := ⟨"HR".toList, by decide, by decide, by decide +kernel⟩
  let emp : Identifier := ⟨"EMP".toList, by decide, by decide, by decide +kernel⟩
  let a : Identifier := ⟨"A".toList, by decide, by decide, not_reserved_of_length (by decide)⟩
  let condition : Condition := ⟨"A.ID=EMP.ID".toList, by decide, by decide +kernel⟩
  let q : TableQuery :=
    ⟨gap, gap, gap, .table ⟨some hr, emp, some ⟨gap, some gap, a⟩⟩,
      [⟨⟨[], by decide⟩, blank, .group ⟨"  ".toList, by decide⟩ none⟩],
      [⟨gap, some (.left, gap), gap, .group blank (some ⟨gap, none, a⟩), some ⟨gap, gap, condition⟩⟩]⟩
  have htext : q.text =
      "SELECT * FROM HR.EMP AS A, (  ) LEFT JOIN ( ) A ON A.ID=EMP.ID".toList := by decide +kernel
  have h := (resolution_of_text q).1
  rw [htext] at h
  rw [h]
  decide

end TableQuery

end SqlAssist
