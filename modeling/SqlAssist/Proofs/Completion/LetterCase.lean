import SqlAssist.Completion.Engine
import SqlAssist.Proofs.Completion.OpenVariable
import SqlAssist.Proofs.Sql.CommentCase
import SqlAssist.Proofs.Sql.TargetNames

/-!
# The case of letters in requests

The place of the cursor has the same clause and the same tables whatever the case of letters
(`CursorPlace.find?_sameLetters`), the latter because they are read off a text in capitals. A path
is taken from the text as it is written, but all that is done with its names is to look them up
(`DotPath.candidates_capitals`). So **`complete_sameLetters`**: requests without variables that
differ in the case of letters only are answered alike, as long as the lexical rules find the same
comments in their texts. They do so in texts without dollar signs
(`complete_sameLetters_of_no_dollar`).
-/

namespace SqlAssist

open Text

/-! ### The cursor's place -/

namespace CursorPlace

/-- What an answer depends on: the clause at the cursor and the tables of its level. -/
def outcome (p : CursorPlace) : Clause × Resolution :=
  (p.clause, p.resolution)

variable {before before' after after' : Text}

theorem continuation_sameLetters (h : SameLetters after after')
    (hkinds : Lexicon.kinds after = Lexicon.kinds after') :
    (continuation after).capitals = (continuation after').capitals := by
  have hmask : (Comment.mask after).capitals = (Comment.mask after').capitals :=
    Comment.mask_sameLetters h hkinds
  rw [continuation, continuation, ← Literal.blank_capitals, ← Literal.blank_capitals,
    ← Statement.afterCursor_capitals, ← Statement.afterCursor_capitals, hmask]

theorem find?_sameLetters (hbefore : SameLetters before before') (hafter : SameLetters after after')
    (hkinds : Lexicon.kinds before = Lexicon.kinds before')
    (hkinds' : Lexicon.kinds after = Lexicon.kinds after') :
    (find? before after).map outcome = (find? before' after').map outcome := by
  have hmask : (Comment.mask before).capitals = (Comment.mask before').capitals :=
    Comment.mask_sameLetters hbefore hkinds
  have hstatement : (Statement.beforeCursor (Comment.mask before)).capitals =
      (Statement.beforeCursor (Comment.mask before')).capitals := by
    rw [← Statement.beforeCursor_capitals, ← Statement.beforeCursor_capitals, hmask]
  rw [find?, find?, Comment.isOpen_eq hbefore hkinds]
  generalize Statement.beforeCursor (Comment.mask before) = s at hstatement ⊢
  generalize Statement.beforeCursor (Comment.mask before') = s' at hstatement ⊢
  have hopen : Literal.isOpen s = Literal.isOpen s' := by
    rw [← Literal.isOpen_capitals, hstatement, Literal.isOpen_capitals]
  have hlevel : (Level.atCursor (Literal.blank s)).capitals =
      (Level.atCursor (Literal.blank s')).capitals := by
    rw [← Level.atCursor_capitals, ← Level.atCursor_capitals, ← Literal.blank_capitals,
      ← Literal.blank_capitals, hstatement]
  have hdetect := congrArg Clause.detect hlevel
  rw [Clause.detect_capitals, Clause.detect_capitals, Prod.mk.injEq] at hdetect
  obtain ⟨hclause, hclauseLevel⟩ := hdetect
  rw [hopen]
  split_ifs
  · rfl
  · have hextended : upper ((Clause.detect (Level.atCursor (Literal.blank s))).2.extended
        (continuation after)) =
        upper ((Clause.detect (Level.atCursor (Literal.blank s'))).2.extended
          (continuation after')) := by
      rw [← upper_capitals, ← Level.extended_capitals, hclauseLevel,
        continuation_sameLetters hafter hkinds', Level.extended_capitals, upper_capitals]
    simp only [Option.map_some, outcome, hclause, hextended]

/-- The tables at a place are read off a text in capitals. -/
theorem exists_upper {place : CursorPlace} (h : find? before after = some place) :
    ∃ t : Text, place.resolution = Resolution.ofText t.upper := by
  simp only [find?] at h
  generalize Clause.detect _ = detected at h
  split_ifs at h
  rw [← Option.some.inj h]
  exact ⟨_, rfl⟩

end CursorPlace

/-! ### Paths -/

theorem TableRef.qualify_capitals (schema table : Text) :
    qualify (some schema.capitals) table.capitals = (qualify (some schema) table).capitals := by
  cases schema with
  | nil => rfl
  | cons c schema => exact (capitals_append (c :: schema) ('.' :: table)).symm

theorem CatalogIndex.findTable_capitals (i : CatalogIndex) (table schema : Text) :
    i.findTable table.capitals (some schema.capitals) = i.findTable table (some schema) := by
  rw [findTable, TableRef.qualify_capitals, upper_capitals]
  rfl

namespace DotPath

variable {s t u : Text}

theorem candidates_ofName?_capitals (i : CatalogIndex) (name : Text) :
    (ofName? i (.ofText u.upper) name.capitals).map (candidates i) =
      (ofName? i (.ofText u.upper) name).map (candidates i) := by
  have hschema : i.findSchema name.capitals = i.findSchema name := by
    rw [CatalogIndex.findSchema, upper_capitals]
    rfl
  have htable : i.findTable name.capitals = i.findTable name := by
    rw [CatalogIndex.findTable, TableRef.qualify, upper_capitals]
    rfl
  have hshown : Suggestion.schemaTables i name.capitals = Suggestion.schemaTables i name := by
    rw [Suggestion.schemaTables, hschema]
    rfl
  rw [ofName?, ofName?, hschema, htable, Resolution.lookup_ofText_upper_eq,
    Resolution.lookup_ofText_upper_eq, upper_capitals]
  split_ifs
  · exact congrArg some hshown
  · cases (Resolution.ofText u.upper).tables.get? name.upper <;> rfl

theorem candidates_ofNames?_capitals (i : CatalogIndex) (first second : Text) :
    (ofNames? i (.ofText u.upper) first.capitals second.capitals).map (candidates i) =
      (ofNames? i (.ofText u.upper) first second).map (candidates i) := by
  have hshown : Suggestion.columnsOf i { table := second.capitals, schema := some first.capitals } =
      Suggestion.columnsOf i { table := second, schema := some first } := by
    rw [Suggestion.columnsOf, CatalogIndex.findTable_capitals]
    rfl
  rw [ofNames?, ofNames?, CatalogIndex.findTable_capitals, Resolution.lookup_ofText_upper_eq,
    Resolution.lookup_ofText_upper_eq, upper_capitals]
  cases (Resolution.ofText u.upper).tables.get? first.upper with
  | some ref => rfl
  | none =>
    dsimp only
    split_ifs
    · exact congrArg some hshown
    · rfl

/-- The names of a path may be written in any case. -/
theorem candidates_capitals (i : CatalogIndex) (t : Text) :
    (detect? t.capitals i (.ofText u.upper)).map (candidates i) =
      (detect? t i (.ofText u.upper)).map (candidates i) := by
  have hcolumns (first second : Text) :
      candidates i (.columnsIn first.capitals second.capitals) = candidates i (.columnsIn first second) := by
    rw [candidates, Suggestion.columnsOf, CatalogIndex.findTable_capitals]
    rfl
  have hany (names : List Text) : (names.map capitals).any (·.isEmpty) = names.any (·.isEmpty) := by
    rw [List.any_map]
    exact congrArg names.any (funext isEmpty_capitals)
  have hlast (parts : List Text) :
      (parts.map capitals).getLast? = some [] ↔ parts.getLast? = some [] := by
    rw [List.getLast?_map, Option.map_eq_some_iff]
    simp only [capitals_eq_nil_iff, exists_eq_right]
  simp only [detect?, lastPath_capitals, split_capitals (d := '.') rfl, ← List.map_dropLast, hany, hlast]
  split_ifs
  · rfl
  · rcases (split '.' t.lastPath).dropLast with _ | ⟨first, _ | ⟨second, _ | ⟨third, rest⟩⟩⟩
    · rfl
    · exact candidates_ofName?_capitals i first
    · exact candidates_ofNames?_capitals i first second
    · exact congrArg some (hcolumns first second)
  · rcases (split '.' t.lastPath).dropLast with _ | ⟨first, _ | ⟨second, _ | ⟨third, rest⟩⟩⟩
    · rfl
    · exact candidates_ofName?_capitals i first
    · exact congrArg some (hcolumns first second)
    · exact congrArg some (hcolumns first second)

theorem candidates_sameLetters (h : SameLetters s t) (i : CatalogIndex) :
    (detect? s i (.ofText u.upper)).map (candidates i) =
      (detect? t i (.ofText u.upper)).map (candidates i) := by
  rw [← candidates_capitals i s, h, candidates_capitals]

end DotPath

/-! ### Answers -/

/-- What is on offer at a place, for the path or for the clause. -/
def Request.offered (i : CatalogIndex) (c : Configuration) (typed : Text)
    (path : Option (List Candidate)) (place : Clause × Resolution) : List Candidate :=
  match path with
  | some cs => Candidate.unique cs
  | none => Candidate.unique (Candidate.narrow typed (place.1.candidates i c place.2))

namespace Engine

variable {before before' typed typed' after after' : Text}

/-- Without a variable, an answer is read off the clause, the tables and the path. -/
theorem complete_of_detect?_eq_none (e : Engine) (h : VariableContext.detect? before = none) :
    e.complete { before, typed, after } =
      ((CursorPlace.find? before after).map fun place =>
        Request.offered e.index e.snapshot.configuration typed
          ((DotPath.detect? before e.index place.resolution).map (DotPath.candidates e.index))
          place.outcome).getD [] := by
  rw [complete, Request.complete, Request.route, h]
  cases CursorPlace.find? before after with
  | none => rfl
  | some place =>
    dsimp only
    cases hpath : DotPath.detect? before e.index place.resolution <;> simp [Request.offered, hpath,
      CursorPlace.outcome]

/-- **The case of letters does not matter**: two requests without `${` that differ in the case of
ASCII letters only get the same answer from all engines. Of the lexical rules it is assumed that
they find the same comments in the two texts before the cursor, and in those behind it. -/
theorem complete_sameLetters (hbefore : SameLetters before before')
    (htyped : SameLetters typed typed') (hafter : SameLetters after after')
    (hkinds : Lexicon.kinds before = Lexicon.kinds before')
    (hkinds' : Lexicon.kinds after = Lexicon.kinds after')
    (hvariable : ¬ VariableContext.opener <:+: before) (e : Engine) :
    e.complete { before, typed, after } =
      e.complete { before := before', typed := typed', after := after' } := by
  have hvariable' : ¬ VariableContext.opener <:+: before' := by
    rw [← hasInfix_iff, ← hasInfix_capitals (by decide)] at hvariable ⊢
    rwa [← hbefore]
  have hplace := CursorPlace.find?_sameLetters hbefore hafter hkinds hkinds'
  have hoffered (cs : List Candidate) : Candidate.narrow typed cs = Candidate.narrow typed' cs := by
    have htest : Candidate.isOffered typed = Candidate.isOffered typed' := by
      funext c
      rw [Candidate.isOffered, Candidate.isOffered, htyped.upper_eq]
    rw [Candidate.narrow, htest]
    rfl
  rw [complete_of_detect?_eq_none e (VariableContext.detect?_eq_none hvariable),
    complete_of_detect?_eq_none e (VariableContext.detect?_eq_none hvariable')]
  cases hp : CursorPlace.find? before after with
  | none =>
    rw [hp] at hplace
    rw [Option.map_eq_none_iff.mp hplace.symm]
    rfl
  | some place =>
    rw [hp] at hplace
    obtain ⟨place', hp', houtcome⟩ := Option.map_eq_some_iff.mp hplace.symm
    obtain ⟨u, hu⟩ := CursorPlace.exists_upper hp
    have hresolution : place'.resolution = place.resolution := congrArg Prod.snd houtcome
    rw [hp', Option.map_some, Option.map_some, houtcome, hresolution, hu,
      DotPath.candidates_sameLetters hbefore]
    simp only [Request.offered, hoffered]

/-- Keywords, a qualifier and the typed word in mixed case, with comments, a dollar quote and a join
behind the cursor. -/
theorem complete_sameLetters_in_join :
    (ofConfiguration { schemas := [⟨"Hr".toList, [⟨"Emp".toList, ["Id".toList]⟩]⟩] }).complete
        { before := "seLECT $Q$ -- $Q$, /* FROM */ e.id fROM hr.EMP e wHere E.".toList
          typed := "i".toList
          after := " and x = 1 JoiN hr.emp f".toList } =
      (ofConfiguration { schemas := [⟨"Hr".toList, [⟨"Emp".toList, ["Id".toList]⟩]⟩] }).complete
        { before := "SELect $q$ -- $q$, /* from */ E.Id From HR.emp E WHERE e.".toList
          typed := "I".toList
          after := " AND X = 1 join HR.Emp F".toList } :=
  complete_sameLetters (by decide) (by decide) (by decide) (by decide +kernel)
    (Lexicon.kinds_eq_of_no_dollar (by decide) (by decide)) (by rw [← hasInfix_iff]; decide) _

/-- Without dollar signs, nothing has to be assumed of the lexical rules. -/
theorem complete_sameLetters_of_no_dollar (hbefore : SameLetters before before')
    (htyped : SameLetters typed typed') (hafter : SameLetters after after') (hdollar : '$' ∉ before)
    (hdollar' : '$' ∉ after) (e : Engine) :
    e.complete { before, typed, after } =
      e.complete { before := before', typed := typed', after := after' } :=
  complete_sameLetters hbefore htyped hafter (Lexicon.kinds_eq_of_no_dollar hdollar hbefore)
    (Lexicon.kinds_eq_of_no_dollar hdollar' hafter)
    (fun h => hdollar (h.subset List.mem_cons_self)) e

end Engine

end SqlAssist
