import SqlAssist.Completion.Engine
import SqlAssist.Proofs.Sql.Comment
import SqlAssist.Proofs.Sql.Literal
import SqlAssist.Proofs.Text.Runs

/-!
# Neighbouring statements

A buffer holds several statements, and the answer to a request depends on the one at the
cursor only. Each part of the analysis finds that statement in its own way: variables,
levels and tables are read off the statement, literals are looked for in it, but comments
are looked for in the whole text and a dotted path is read from its end. As long as no
comment opens, all of them stop at a semicolon that stands outside literals:
**`complete_isolated`** says so of the statements before the cursor's and of those behind
it, whatever their literals and parentheses hold.
-/

namespace SqlAssist

section Before

variable {s t : Text}

theorem VariableContext.detect?_isolated (hs : Comment.hasMarker s = false)
    (ht : Comment.hasMarker t = false) (hclosed : Literal.isOpen s = false) :
    VariableContext.detect? (s ++ ';' :: t) = VariableContext.detect? t := by
  have hst := Comment.hasMarker_semicolon_append hs ht
  rw [detect?, detect?, Comment.mask_of_no_marker hst, Comment.mask_of_no_marker ht,
    Statement.beforeCursor_append hclosed]

theorem CursorPlace.find?_isolated_before (hs : Comment.hasMarker s = false)
    (ht : Comment.hasMarker t = false) (hclosed : Literal.isOpen s = false) (after : Text) :
    CursorPlace.find? (s ++ ';' :: t) after = CursorPlace.find? t after := by
  have hst := Comment.hasMarker_semicolon_append hs ht
  rw [find?, find?, Comment.mask_of_no_marker hst, Comment.mask_of_no_marker ht,
    Comment.isOpen_of_no_marker hst, Comment.isOpen_of_no_marker ht,
    Statement.beforeCursor_append hclosed]

/-- A dotted path does not reach across a semicolon. -/
theorem DotPath.detect?_isolated (s t : Text) (i : CatalogIndex) (r : Resolution) :
    DotPath.detect? (s ++ ';' :: t) i r = DotPath.detect? t i r := by
  have hpath : Text.isPathChar ';' = false := by decide
  rw [detect?, detect?, Text.lastPath_append_cons hpath (by decide)]

theorem Request.route_isolated_before (i : CatalogIndex) (typed after : Text)
    (hs : Comment.hasMarker s = false) (ht : Comment.hasMarker t = false)
    (hclosed : Literal.isOpen s = false) :
    Request.route i { before := s ++ ';' :: t, typed, after } =
      Request.route i { before := t, typed, after } := by
  simp only [route, VariableContext.detect?_isolated hs ht hclosed,
    CursorPlace.find?_isolated_before hs ht hclosed, DotPath.detect?_isolated]

end Before

section After

variable {s t : Text}

theorem CursorPlace.continuation_isolated (hs : Comment.hasMarker s = false)
    (ht : Comment.hasMarker t = false) (hclosed : Literal.isOpen s = false) :
    CursorPlace.continuation (s ++ ';' :: t) = CursorPlace.continuation s := by
  have hst := Comment.hasMarker_semicolon_append hs ht
  rw [continuation, continuation, Comment.mask_of_no_marker hst, Comment.mask_of_no_marker hs,
    Statement.afterCursor_append hclosed]

theorem Request.route_isolated_after (i : CatalogIndex) (before typed : Text)
    (hs : Comment.hasMarker s = false) (ht : Comment.hasMarker t = false)
    (hclosed : Literal.isOpen s = false) :
    Request.route i { before, typed, after := s ++ ';' :: t } =
      Request.route i { before, typed, after := s } := by
  simp only [route, CursorPlace.find?, CursorPlace.continuation_isolated hs ht hclosed]

end After

namespace Engine

/-- **Statements are isolated**: neither a statement that has ended before the cursor's nor
one behind it has an effect on the answer. -/
theorem complete_isolated (e : Engine) (typed : Text) :
    (∀ s t after : Text, Comment.hasMarker s = false → Comment.hasMarker t = false →
      Literal.isOpen s = false →
        e.complete { before := s ++ ';' :: t, typed, after } =
          e.complete { before := t, typed, after }) ∧
      ∀ before s t : Text, Comment.hasMarker s = false → Comment.hasMarker t = false →
        Literal.isOpen s = false →
          e.complete { before, typed, after := s ++ ';' :: t } =
            e.complete { before, typed, after := s } := by
  constructor
  · intro s t after hs ht hclosed
    rw [complete, complete, Request.complete, Request.complete,
      Request.route_isolated_before e.index typed after hs ht hclosed]
  · intro before s t hs ht hclosed
    rw [complete, complete, Request.complete, Request.complete,
      Request.route_isolated_after e.index before typed hs ht hclosed]

/-- Before the query at the cursor stands an update with a doubled quote, semicolons, an open
parenthesis and an open variable in its texts; behind it stands a query of another table. -/
theorem complete_isolated_between :
    (ofConfiguration
      { schemas := [⟨"S".toList, [⟨"T".toList, ["x".toList]⟩, ⟨"U".toList, ["y".toList]⟩]⟩] }).complete
      { before := "UPDATE u a SET v = ';''(', w = (\"$\x7bx';\"".toList ++ ';' :: "SELECT a.".toList
        after := " FROM t a WHERE b = ';'".toList ++ ';' :: "SELECT c FROM u a WHERE d = 'x".toList } =
      [Suggestion.plain .field "x".toList (some "S.T.x".toList)] := by
  let e := ofConfiguration
    { schemas := [⟨"S".toList, [⟨"T".toList, ["x".toList]⟩, ⟨"U".toList, ["y".toList]⟩]⟩] }
  let update := "UPDATE u a SET v = ';''(', w = (\"$\x7bx';\"".toList
  let query := "SELECT a.".toList
  let rest := " FROM t a WHERE b = ';'".toList
  let later := "SELECT c FROM u a WHERE d = 'x".toList
  have hbefore := (complete_isolated e []).1 update query (rest ++ ';' :: later) (by decide)
    (by decide) (by decide)
  have hafter := (complete_isolated e []).2 query rest later (by decide +kernel) (by decide +kernel)
    (by decide)
  refine (hbefore.trans hafter).trans ?_
  decide +kernel

end Engine

end SqlAssist
