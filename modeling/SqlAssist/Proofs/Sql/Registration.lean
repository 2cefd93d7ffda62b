import SqlAssist.Proofs.Sql.FromClause
import SqlAssist.Proofs.Text.LastEntry

/-!
# Registration

The tables of a statement are registered one after the other, each under its alias
and under its own name, and later ones hide earlier ones. For a query of the grammar
of `FROM` this says what every name stands for: **`lookup_ofText_upper`**.

Targets are compared by what they are registered by (`Target.entry`), as a table
without an alias may have been read with a reserved word in the alias's place.
-/

namespace SqlAssist

namespace Resolution

open Text

theorem lookup_of_tables_eq_nil {r : Resolution} (hr : r.tables = []) (name : Text) :
    r.lookup name = none := by
  rw [lookup, hr]
  rfl

/-- Targets are registered by their names and proper aliases. -/
theorem foldl_registerTarget_congr {ts us : List Target} (h : ts.map Target.entry = us.map Target.entry)
    (m : OrderedMap Text TableRef) : ts.foldl registerTarget m = us.foldl registerTarget m := by
  induction ts generalizing us m with
  | nil =>
    obtain rfl : us = [] := List.map_eq_nil_iff.mp h.symm
    rfl
  | cons t ts ih =>
    obtain ⟨u, us, rfl⟩ := List.exists_cons_of_ne_nil (l := us) (by rintro rfl; simp at h)
    rw [List.map_cons, List.map_cons, List.cons.injEq, Target.entry, Target.entry, Prod.mk.injEq] at h
    obtain ⟨⟨hname, halias⟩, hrest⟩ := h
    have hstep : registerTarget m t = registerTarget m u := by
      rw [registerTarget, registerTarget, hname, halias]
    rw [List.foldl_cons, List.foldl_cons, hstep, ih hrest]

/-- The tables of a query are the items of its `FROM`, registered in order, and nothing is
updated or inserted. -/
theorem ofText_clause (q : TableClause) {u : Text} (hu : NamesOr ["SELECT".toList] u) :
    ofText (u ++ q.text) = { tables := (q.items.map (·.target)).foldl registerTarget [] } := by
  have hwords : NamesOr ("SELECT".toList :: TableClause.keywords) (u ++ q.text) :=
    (hu.mono (by decide)).append (q.before.apart u _) (q.namesOr_text.mono (by decide))
  have hfree : ∀ {k : Text} (ks : List Text), k.lower ∈ reservedWords →
      (∀ w ∈ "SELECT".toList :: TableClause.keywords, isKeyword k w = false) →
        afterEachKeywords (k :: ks) (u ++ q.text) = [] := fun ks hk hks =>
    afterEachKeywords_eq_nil (hwords.isKeyword_eq_false hk hks) ks
  have hupdate : updated? (u ++ q.text) = none := by
    rw [updated?, hfree [] (by decide) (by decide)]
    rfl
  have hdelete : firstName? ["DELETE".toList, "FROM".toList] (u ++ q.text) = none := by
    rw [firstName?, hfree _ (by decide +kernel) (by decide)]
    rfl
  have hinsert : firstName? ["INSERT".toList, "INTO".toList] (u ++ q.text) = none := by
    rw [firstName?, hfree _ (by decide +kernel) (by decide)]
    rfl
  have htargets : (targets (u ++ q.text)).map Target.entry =
      (q.items.map (·.target)).map Target.entry := by
    rw [q.targets_text hu (by decide), List.map_map]
    rfl
  simp only [ofText, hupdate, hdelete, hinsert, foldl_registerTarget_congr htargets []]
  rfl

/-- The tables of a query in which every item is a table. -/
theorem tables_ofText_text (q : FromClause) {u : Text} (hu : NamesOr ["SELECT".toList] u) :
    (ofText (u ++ q.text)).tables = (q.items.map (·.target)).foldl registerTarget [] := by
  rw [← q.clause_text, ofText_clause q.clause hu, q.clause_targets]

end Resolution

namespace FromItem

/-- The item is registered under the name as written: its alias or its bare table. -/
def isNamed (i : FromItem) (k : Text) : Bool :=
  decide (i.table.text = k) || i.aliasPart.any fun a => decide (a.name.text = k)

theorem isNamed_upper_iff (i : FromItem) (k : Identifier) :
    i.upper.isNamed k.text.upper = true ↔ i.Registers k := by
  rw [isNamed, Registers, Bool.or_eq_true, decide_eq_true_iff, Option.any_eq_true, upper]
  refine or_congr Iff.rfl ?_
  simp only [Option.mem_def, Option.map_eq_some_iff, decide_eq_true_iff]
  constructor
  · rintro ⟨a, ⟨b, hb, rfl⟩, h⟩
    exact ⟨b, hb, h⟩
  · rintro ⟨b, hb, h⟩
    exact ⟨b.upper, ⟨b, hb, rfl⟩, h⟩

/-- In capitals an item has no name but in capitals. -/
theorem upper_eq_of_isNamed_upper {i : FromItem} {k : Text} (h : i.upper.isNamed k = true) :
    k.upper = k := by
  rw [isNamed, Bool.or_eq_true, decide_eq_true_iff, Option.any_eq_true] at h
  rcases h with rfl | ⟨a, ha, h⟩
  · exact i.table.upper_upper
  · obtain ⟨b, -, rfl⟩ := Option.map_eq_some_iff.mp ha
    rw [← of_decide_eq_true h]
    exact b.name.upper_upper

end FromItem

namespace Resolution

/-- An item is found under its names, and hides what was registered under them before. -/
theorem get?_registerTarget (m : OrderedMap Text TableRef) (i : FromItem) (k : Text) :
    (registerTarget m i.target).get? k = if i.isNamed k then some i.ref else m.get? k := by
  have hproper : i.target.properAlias = i.target.aliasName := Target.properAlias_target (.table i)
  rw [registerTarget, hproper, FromItem.target, FromItem.isNamed]
  simp only [register, FromItem.ofName_name, Bool.false_eq_true, if_false,
    OrderedMap.get?_insert, FromItem.ref]
  cases i.aliasPart with
  | none =>
    simp [eq_comm]
  | some a =>
    simp only [Option.map_some, OrderedMap.get?_insert]
    by_cases ht : k = i.table.text <;> by_cases ha : k = a.name.text <;> simp [ht, ha, eq_comm]

/-- A name stands for the last item that is registered under it. -/
theorem get?_foldl_registerTarget (is : List FromItem) (k : Text) :
    ((is.map (·.target)).foldl registerTarget []).get? k =
      (is.reverse.find? (·.isNamed k)).map (·.ref) := by
  induction is using List.reverseRecOn with
  | nil => rfl
  | append_singleton is i ih =>
    rw [List.map_append, List.foldl_append, List.map_singleton, List.foldl_cons, List.foldl_nil,
      get?_registerTarget, List.reverse_concat, List.find?_cons, ih]
    cases i.isNamed k <;> rfl

/-- **The last item counts**: in a query a name, whatever its case, stands for the last
table that is written with it, be it as its alias or as its own name. -/
theorem lookup_ofText_upper (q : FromClause) {u : Text} (hu : Text.NamesOr ["SELECT".toList] u.upper)
    {k : Identifier} {earlier later : List FromItem} {item : FromItem}
    (hq : q.items = earlier ++ item :: later) (hk : item.Registers k)
    (hlater : ∀ i ∈ later, ¬ i.Registers k) :
    (ofText (u ++ q.text).upper).lookup k.text = some item.upper.ref := by
  have hfind : (q.upper.items.reverse.find? (·.isNamed k.text.upper)) = some item.upper := by
    rw [FromClause.items_upper, hq]
    refine List.find?_eq_some_iff_append.mpr ⟨(item.isNamed_upper_iff k).mpr hk,
      (later.map .upper).reverse, (earlier.map .upper).reverse, by simp, fun i hi => ?_⟩
    obtain ⟨j, hj, rfl⟩ := List.mem_map.mp (List.mem_reverse.mp hi)
    simpa using fun h => hlater j hj ((j.isNamed_upper_iff k).mp h)
  rw [Text.upper_append, ← q.text_upper, lookup, tables_ofText_text q.upper hu,
    get?_foldl_registerTarget, get?_foldl_registerTarget, hfind]
  by_cases hcase : k.text.upper = k.text
  · rw [hcase] at hfind
    rw [hfind]
    rfl
  · -- as written the name is no key, as all keys are in capitals
    have hnone : q.upper.items.reverse.find? (·.isNamed k.text) = none := by
      refine List.find?_eq_none.mpr fun i hi h => hcase ?_
      rw [FromClause.items_upper, List.mem_reverse] at hi
      obtain ⟨j, -, rfl⟩ := List.mem_map.mp hi
      exact FromItem.upper_eq_of_isNamed_upper h
    rw [hnone]
    rfl

end Resolution

end SqlAssist
