import SqlAssist.Proofs.Catalog.Lookup
import SqlAssist.Proofs.Completion.Output
import SqlAssist.Proofs.Completion.PlainText
import SqlAssist.Proofs.Sql.Registration

/-!
# Columns behind an alias

A name and a dot behind `SELECT` ask for the columns of the table that the name
stands for, and the table is named later, behind the cursor. **`complete_alias`**
follows such a request from the two texts to its answer, for every query of the
grammar of `FROM`: the name is looked up among the tables of the query, where the
last one written with it counts, and the table found is looked up in the catalog,
where the last one known by its name counts. The name of a schema would come first,
so it is left out.
-/

namespace SqlAssist

/-! ### The texts of the request -/

theorem Identifier.isPlain_text (k : Identifier) : IsPlain k.text := fun c hc =>
  Text.forall_isIdentifierChar (p := fun c => c ∉ marks) (by decide) (k.chars c hc)

theorem IsBlank.isPlain {w : Text} (h : IsBlank w) : IsPlain w := by
  intro c hc hm
  have hmarks : marks.all (!Text.isSpace ·) = true := by decide
  have hspace := List.all_eq_true.mp hmarks c hm
  rw [h c hc] at hspace
  cases hspace

theorem isPlain_flatMap {α : Type} {f : α → Text} {l : List α} (h : ∀ a ∈ l, IsPlain (f a)) :
    IsPlain (l.flatMap f) := by
  intro c hc
  obtain ⟨a, ha, hc⟩ := List.mem_flatMap.mp hc
  exact h a ha c hc

theorem AliasPart.isPlain_text (a : AliasPart) : IsPlain a.text := by
  obtain ⟨gap, behindAs, name⟩ := a
  have hgap := gap.2.2.isPlain
  cases behindAs with
  | none =>
    have hnil : IsPlain [] := by decide
    exact (hgap.append hnil).append name.isPlain_text
  | some g =>
    have has : IsPlain ("AS".toList ++ g.1) := IsPlain.append (by decide) g.2.2.isPlain
    exact (hgap.append has).append name.isPlain_text

namespace FromItem

theorem isPlain_name (i : FromItem) : IsPlain i.name := by
  obtain ⟨schema, table, aliasPart⟩ := i
  cases schema with
  | none => exact table.isPlain_text
  | some s =>
    have hdot : IsPlain ['.'] := by decide
    rw [name_of_schema]
    exact s.isPlain_text.append (hdot.append table.isPlain_text)

theorem isPlain_text (i : FromItem) : IsPlain i.text := by
  rw [text]
  cases i.aliasPart with
  | none => exact i.isPlain_name.append (by decide)
  | some a => exact i.isPlain_name.append a.isPlain_text

end FromItem

theorem FromClause.isPlain_text (q : FromClause) : IsPlain q.text := by
  have hcomma : IsPlain [','] := by decide
  have hjoin : IsPlain "JOIN".toList := by decide
  have hfrom : IsPlain "FROM".toList := by decide
  have hlisted : IsPlain (q.listed.flatMap (·.text)) := isPlain_flatMap fun l _ =>
    l.before.2.isPlain.append (hcomma.append (l.after.2.isPlain.append l.item.isPlain_text))
  have hjoined : IsPlain (q.joined.flatMap (·.text)) := isPlain_flatMap fun j _ =>
    j.before.2.2.isPlain.append (hjoin.append (j.after.2.2.isPlain.append j.item.isPlain_text))
  exact q.before.2.2.isPlain.append (hfrom.append (q.after.2.2.isPlain.append
    (q.first.isPlain_text.append (hlisted.append hjoined))))

/-- The text before the cursor: a name and a dot behind `SELECT`. -/
def Request.selectDot (k : Identifier) : Text :=
  "SELECT ".toList ++ k.text ++ ['.']

namespace Request

theorem isPlain_selectDot (k : Identifier) : IsPlain (selectDot k) := by
  have hselect : IsPlain "SELECT ".toList := by decide
  have hdot : IsPlain ['.'] := by decide
  exact (hselect.append k.isPlain_text).append hdot

theorem lastPath_selectDot (k : Identifier) : (selectDot k).lastPath = k.text ++ ['.'] := by
  have hlast : (selectDot k).getLast? = some '.' := List.getLast?_concat
  have hbreak : (selectDot k).dropFinalBreak = "SELECT ".toList ++ (k.text ++ ['.']) := by
    rw [Text.dropFinalBreak, hlast, if_neg (by decide)]
    exact List.append_assoc _ _ _
  have hpath : ∀ c ∈ k.text ++ ['.'], Text.isPathChar c = true :=
    List.forall_mem_append.mpr ⟨k.isPathChar_of_mem, List.forall_mem_singleton.mpr (by decide)⟩
  rw [Text.lastPath, hbreak, Text.takeWhileEnd_append_stop hpath (by decide)]

open Text in
/-- In capitals its words are `SELECT` and the name. -/
theorem namesOr_upper_selectDot (k : Identifier) :
    NamesOr ["SELECT".toList] (selectDot k).upper := by
  have hselect : NamesOr ["SELECT".toList] "SELECT ".toList := by
    have hwords : words "SELECT ".toList = ["SELECT".toList] := by decide
    intro w hw
    exact Or.inl (hwords ▸ hw)
  have hdot : ∀ c ∈ ['.'], isWordChar c = false := List.forall_mem_singleton.mpr (by decide)
  have hname : NamesOr ["SELECT".toList] (k.upper.text ++ ['.']) :=
    (namesOr_identifier _ k.upper).append (Or.inr (by decide)) (namesOr_of_no_word hdot)
  have hupper : (selectDot k).upper = "SELECT ".toList ++ (k.upper.text ++ ['.']) := by
    have hs : upper "SELECT ".toList = "SELECT ".toList := by decide
    have hd : upper ['.'] = ['.'] := by decide
    have hfront := upper_append "SELECT ".toList k.text
    have hwhole := upper_append ("SELECT ".toList ++ k.text) ['.']
    rw [hfront, hs, hd, List.append_assoc] at hwhole
    exact hwhole
  rw [hupper]
  exact hselect.append (Or.inl (by decide)) hname

end Request

/-! ### The answer -/

theorem FromItem.upper_name_upper (i : FromItem) : i.upper.name.upper = i.upper.name := by
  have hmap : i.upper.upper.name = i.upper.name := by
    obtain ⟨schema, table, aliasPart⟩ := i
    have htable : table.upper.upper.text = table.upper.text := table.upper_upper
    cases schema with
    | none => exact htable
    | some s =>
      have hs : s.upper.upper.text = s.upper.text := s.upper_upper
      simp only [name, upper, Option.map_some, hs, htable]
  rw [← name_upper, hmap]

namespace Candidate

/-- Of candidates that are made from their labels one is kept for each label. -/
theorem unique_map {f : Text → Candidate} (hf : ∀ l, (f l).label = l) (ls : List Text) :
    unique (ls.map f) = ((ls.filter (!·.isEmpty)).eraseDups).map f := by
  have hlabels : (ls.map f).map (·.label) = ls := by
    rw [List.map_map]
    exact (List.map_congr_left fun l _ => hf l).trans (List.map_id _)
  have hmap : unique (ls.map f) = ((unique (ls.map f)).map (·.label)).map f := by
    rw [List.map_map]
    refine (List.map_id _).symm.trans (List.map_congr_left fun c hc => ?_)
    obtain ⟨before, after, happend, -⟩ := exists_append_of_mem_unique hc
    have hmem : c ∈ ls.map f := happend ▸ by simp
    obtain ⟨l, -, rfl⟩ := List.mem_map.mp hmem
    exact congrArg f (hf l).symm
  rw [hmap, labels_unique, hlabels, filter_eraseDups]

end Candidate

namespace DotPath

/-- A name and a dot ask for the columns of the table that the name stands for, unless it is
the name of a schema. -/
theorem detect?_selectDot {i : CatalogIndex} {r : Resolution} {k : Identifier} {ref : TableRef}
    (hschema : i.findSchema k.text = none) (href : r.lookup k.text = some ref) :
    detect? (Request.selectDot k) i r = some (.columnsOfAlias k.text ref) := by
  have hsplit : Text.split '.' (k.text ++ ['.']) = [k.text, []] :=
    Text.split_append_cons k.dot_not_mem []
  have hempty : k.text.isEmpty = false := by simpa using k.ne_nil
  rw [detect?, Request.lastPath_selectDot, hsplit]
  simp [hempty, ofName?, hschema, href]

end DotPath

namespace Engine

/-- **An alias leads to its columns**: with a query of the grammar of `FROM` behind the
cursor, a name and a dot are answered by the columns of the last table that the query
registers under the name, as the catalog has it. -/
theorem complete_alias (c : Configuration) (q : FromClause) (k : Identifier) (typed : Text)
    {earlier later : List FromItem} {item : FromItem} (hq : q.items = earlier ++ item :: later)
    (hk : item.Registers k) (hlater : ∀ i ∈ later, ¬ i.Registers k)
    (hschema : ∀ s ∈ c.schemas, s.name.upper ≠ k.text.upper) :
    (ofConfiguration c).complete { before := Request.selectDot k, typed, after := q.text } =
      match CatalogIndex.lastKnownBy? c.schemas item.name with
      | some e => ((e.table.columns.filter (!·.isEmpty)).eraseDups).map fun column =>
          Suggestion.plain .field column (some (e.qualifiedName ++ '.' :: column))
      | none => [] := by
  have hfind : (CatalogIndex.build c.schemas c.workflowVariables).findSchema k.text = none := by
    rw [CatalogIndex.findSchema_build]
    refine List.find?_eq_none.mpr fun s hs => ?_
    simpa using hschema s (List.mem_reverse.mp hs)
  obtain ⟨place, hplace, hresolution⟩ :=
    CursorPlace.exists_find?_of_plain (Request.isPlain_selectDot k) q.isPlain_text
  have hlookup : place.resolution.lookup k.text = some item.upper.ref := by
    rw [hresolution]
    exact Resolution.lookup_ofText_upper q (Request.namesOr_upper_selectDot k) hq hk hlater
  have hroute : Request.route (CatalogIndex.build c.schemas c.workflowVariables)
      { before := Request.selectDot k, typed, after := q.text } =
        .dotPath place (.columnsOfAlias k.text item.upper.ref) := by
    rw [Request.route]
    simp only [VariableContext.detect?_of_plain (Request.isPlain_selectDot k), hplace,
      DotPath.detect?_selectDot hfind hlookup]
  have htable : (CatalogIndex.build c.schemas c.workflowVariables).findTable item.upper.ref.table
      item.upper.ref.schema = CatalogIndex.lastKnownBy? c.schemas item.name := by
    rw [CatalogIndex.findTable_build]
    refine CatalogIndex.lastKnownBy?_congr c.schemas ?_
    exact item.upper_name_upper.trans item.name_upper
  have hderived : item.upper.ref.derived = false := rfl
  have hcomplete : (ofConfiguration c).complete
      { before := Request.selectDot k, typed, after := q.text } =
        Candidate.unique (Suggestion.columnsOf (CatalogIndex.build c.schemas c.workflowVariables)
          item.upper.ref) := by
    have hindex : (ofConfiguration c).index = .build c.schemas c.workflowVariables := rfl
    rw [complete, Request.complete, hindex, hroute]
    rfl
  rw [hcomplete, Suggestion.columnsOf, htable]
  cases CatalogIndex.lastKnownBy? c.schemas item.name with
  | none => rfl
  | some e =>
    simp only [hderived, Bool.false_eq_true, if_false]
    exact Candidate.unique_map (fun _ => rfl) _

/-- An alias that is given twice, typed in another case. -/
theorem complete_alias_given_twice :
    (ofConfiguration
      { schemas := [⟨"S".toList, [⟨"t".toList, ["x".toList]⟩,
          ⟨"V".toList, ["y".toList, [], "z".toList, "y".toList]⟩]⟩] }).complete
      { before := "SELECT A.".toList, after := " FROM s.t AS a, u JOIN v a".toList } =
      [Suggestion.plain .field "y".toList (some "S.V.y".toList),
        Suggestion.plain .field "z".toList (some "S.V.z".toList)] := by
  let c : Configuration :=
    { schemas := [⟨"S".toList, [⟨"t".toList, ["x".toList]⟩,
        ⟨"V".toList, ["y".toList, [], "z".toList, "y".toList]⟩]⟩] }
  let gap : Gap := ⟨" ".toList, by decide⟩
  let s : Identifier :=
    ⟨"s".toList, by decide, List.forall_mem_singleton.mpr (by decide), not_reserved_of_length (by decide)⟩
  let t : Identifier :=
    ⟨"t".toList, by decide, List.forall_mem_singleton.mpr (by decide), not_reserved_of_length (by decide)⟩
  let u : Identifier :=
    ⟨"u".toList, by decide, List.forall_mem_singleton.mpr (by decide), not_reserved_of_length (by decide)⟩
  let v : Identifier :=
    ⟨"v".toList, by decide, List.forall_mem_singleton.mpr (by decide), not_reserved_of_length (by decide)⟩
  let a : Identifier :=
    ⟨"a".toList, by decide, List.forall_mem_singleton.mpr (by decide), not_reserved_of_length (by decide)⟩
  let k : Identifier :=
    ⟨"A".toList, by decide, List.forall_mem_singleton.mpr (by decide), not_reserved_of_length (by decide)⟩
  let first : FromItem := ⟨some s, t, some ⟨gap, some gap, a⟩⟩
  let second : FromItem := ⟨none, u, none⟩
  let last : FromItem := ⟨none, v, some ⟨gap, none, a⟩⟩
  let q : FromClause :=
    ⟨gap, gap, first, [⟨⟨[], by decide⟩, ⟨" ".toList, by decide⟩, second⟩], [⟨gap, gap, last⟩]⟩
  have hk : last.Registers k := Or.inr ⟨⟨gap, none, a⟩, rfl, by decide⟩
  have hschema : ∀ s ∈ c.schemas, s.name.upper ≠ k.text.upper := by decide
  have hq : q.items = [first, second] ++ last :: [] := rfl
  have h := complete_alias c q k [] hq hk (fun _ h => absurd h List.not_mem_nil) hschema
  have hname : CatalogIndex.lastKnownBy? c.schemas last.name =
      some ⟨"S".toList, "V".toList, ["y".toList, [], "z".toList, "y".toList]⟩ := by decide
  rw [hname] at h
  have htext : q.text = " FROM s.t AS a, u JOIN v a".toList := by decide
  have hdot : Request.selectDot k = "SELECT A.".toList := by decide
  rw [htext, hdot] at h
  refine h.trans ?_
  decide

end Engine

end SqlAssist
