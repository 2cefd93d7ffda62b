import SqlAssist.Completion.Cursor
import SqlAssist.Proofs.Sql.SparedLiteral

/-!
# The contents of literals

What is found of a cursor is found in the masked text with its literals blanked. Where
masking spares the literals, this is the text itself with its literals blanked
(`find?_of_spares`), so of two texts that look alike outside their literals the same is
found (`find?_congr_of_spares`). Plainly quoted texts are spared, and
**`literal_contents_unseen`** is about them. Behind a backslash it fails
(`literal_contents_seen_behind_backslash`).
-/

namespace SqlAssist

namespace CursorPlace

/-- All that the analysis says of a place, but for the text of its statement. -/
def analysis (p : CursorPlace) : Level × Clause × Level × Resolution :=
  (p.level, p.clause, p.clauseLevel, p.resolution)

/-- The analysis of a cursor outside literals and comments, from what is seen of its statement. -/
def ofSeen (seen after : Text) : Level × Clause × Level × Resolution :=
  let level := Level.atCursor seen
  let (clause, clauseLevel) := Clause.detect level
  (level, clause, clauseLevel,
    Resolution.ofText (Text.upper (clauseLevel.extended (continuation after))))

variable {s t : Text}

/-- In a text that masking spares, the analysis depends on what is seen of it. -/
theorem find?_of_spares (hm : Comment.hasMarker (Literal.blank t) = false)
    (h : Comment.SparesLiterals t) (after : Text) :
    (find? t after).map analysis =
      if Literal.isOpen (Literal.blank t) then none
      else some (ofSeen ((Literal.blank t).drop (Text.lastOffset ';' (Literal.blank t))) after) := by
  have hstatement : Literal.isOpen (Statement.beforeCursor (Comment.mask t)) = Literal.isOpen t := by
    rw [Statement.isOpen_beforeCursor, ← Literal.isOpen_blank, h, Literal.isOpen_blank]
  have hseen : Literal.blank (Statement.beforeCursor (Comment.mask t)) =
      (Literal.blank t).drop (Text.lastOffset ';' (Literal.blank t)) := by
    rw [Statement.blank_beforeCursor, h]
  rw [find?, hstatement, hseen, Literal.isOpen_blank]
  cases hclosed : Literal.isOpen t with
  | true => rfl
  | false =>
    rw [Comment.isOpen_of_spares hm h hclosed]
    rfl

/-- Of two texts in which the same is seen, masking sparing both, the analysis is the same. -/
theorem find?_congr_of_spares (hm : Comment.hasMarker (Literal.blank t) = false)
    (hs : Comment.SparesLiterals s) (ht : Comment.SparesLiterals t)
    (h : Literal.blank s = Literal.blank t) (after : Text) :
    (find? s after).map analysis = (find? t after).map analysis := by
  rw [find?_of_spares (h ▸ hm) hs, find?_of_spares hm ht, h]

/-- **The contents of literals are not seen** in plainly quoted texts: of two of them that look alike
outside their literals, the analysis is the same. -/
theorem literal_contents_unseen (hs : Comment.IsPlainlyQuoted s) (ht : Comment.IsPlainlyQuoted t)
    (h : Literal.blank s = Literal.blank t) (after : Text) :
    (find? s after).map analysis = (find? t after).map analysis :=
  find?_congr_of_spares ht.no_marker hs.sparesLiterals ht.sparesLiterals h after

/-- Keywords, parentheses, semicolons and markers in a literal, against letters. -/
theorem literal_contents_unseen_in_condition :
    (find? "SELECT a FROM t WHERE b = ';FROM (--' AND \"/*''x\" = ".toList []).map analysis =
      (find? "SELECT a FROM t WHERE b = 'abcdefghi' AND \"abcde\" = ".toList []).map analysis := by
  let s := "SELECT a FROM t WHERE b = ';FROM (--' AND \"/*''x\" = ".toList
  let t := "SELECT a FROM t WHERE b = 'abcdefghi' AND \"abcde\" = ".toList
  have hs : Comment.IsPlainlyQuoted s := by decide +kernel
  have ht : Comment.IsPlainlyQuoted t := by decide
  exact literal_contents_unseen hs ht (by decide) []

/-- A backslash keeps a quote from closing a literal for the lexical rules, not for the scan: a marker
in the next literal opens a comment. -/
theorem literal_contents_seen_behind_backslash :
    Literal.blank "'\\' '--'".toList = Literal.blank "'a' 'bb'".toList ∧
      Comment.hasMarker (Literal.blank "'\\' '--'".toList) = false ∧
      find? "'\\' '--'".toList [] = none ∧ find? "'a' 'bb'".toList [] ≠ none := by
  refine ⟨by decide +kernel, by decide, by decide +kernel, by decide⟩

end CursorPlace

end SqlAssist
