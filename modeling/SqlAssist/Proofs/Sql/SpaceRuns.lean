import SqlAssist.Proofs.Sql.ClauseSearch
import SqlAssist.Proofs.Sql.ClosedGroup

/-!
# Runs of white space

Two texts are `Respaced` when each maximal run of white space of the one stands for a run
of the other, of any length and of any characters, and all else is the same. That is what
the text with single spaces does not tell apart (`respaced_iff`).

The mask keeps line breaks and makes spaces of all else, some readers collapse runs and
others skip them, and offsets shift with the lengths of the runs. None of it shows:
**`detect_respaced`** says that clause, depths and tables are read off respaced texts
alike, before the cursor and behind it. A run that the cursor divides is two runs.
-/

namespace SqlAssist

/-- The texts differ in their maximal runs of white space only, and have them in the same places. -/
inductive Respaced : Text → Text → Prop where
  /-- Nothing stands for nothing. -/
  | nil : Respaced [] []
  /-- The same character in front, which is not white space. -/
  | char {s t : Text} {c : Char} : Text.isSpace c = false → Respaced s t →
      Respaced (c :: s) (c :: t)
  /-- Runs in front, which the texts behind them do not go on with. -/
  | run {s t w w' : Text} : IsGap w → IsGap w' → s.head?.any Text.isSpace = false →
      t.head?.any Text.isSpace = false → Respaced s t → Respaced (w ++ s) (w' ++ t)

open Text

variable {s t c c' : Text}

theorem Respaced.collapseSpace_eq (h : Respaced s t) : s.collapseSpace = t.collapseSpace := by
  induction h with
  | nil => rfl
  | char hc _ ih => rw [collapseSpace_cons hc, collapseSpace_cons hc, ih]
  | run hw hw' hs ht _ ih => rw [collapseSpace_run hw hs, collapseSpace_run hw' ht, ih]

theorem respaced_of_collapseSpace_eq (h : t.collapseSpace = s.collapseSpace) : Respaced s t := by
  induction s using spaceInduction generalizing t with
  | nil =>
    cases t with
    | nil => exact .nil
    | cons d t =>
      cases hd : isSpace d <;> simp [collapseSpace, collapseFrom, hd] at h
  | char c s hc ih =>
    rw [collapseSpace_cons hc] at h
    rcases collapseSpace_eq_cons h with ⟨r, rfl, -, hr⟩ | ⟨d, r, -, -, rfl, -⟩
    · exact .char hc (ih hr)
    · exact absurd hc (by decide)
  | space c s hc ih =>
    rw [collapseSpace_cons_of_isSpace hc] at h
    rcases collapseSpace_eq_cons h with ⟨r, -, hd, -⟩ | ⟨d, r, rfl, hd, -, hr⟩
    · exact absurd hd (by decide)
    · obtain ⟨w, hw, hs⟩ := exists_run hc s
      obtain ⟨w', hw', ht⟩ := exists_run hd r
      rw [hs, ht]
      exact .run hw hw' (head?_dropWhile isSpace s) (head?_dropWhile isSpace r) (ih hr)

/-- Respaced texts are those that are the same with single spaces. -/
theorem respaced_iff : Respaced s t ↔ s.collapseSpace = t.collapseSpace := by
  constructor
  · exact Respaced.collapseSpace_eq
  · intro h
    exact respaced_of_collapseSpace_eq h.symm

instance (s t : Text) : Decidable (Respaced s t) :=
  decidable_of_iff _ respaced_iff.symm

theorem Respaced.regrouped (h : Respaced s t) : Regrouped s t := by
  induction h with
  | nil => exact .nil
  | char _ _ ih => exact .cons _ ih
  | run hw hw' _ _ _ ih => exact .gap hw hw' ih

namespace Clause

open Level

/-- **Layout does not matter**: with other runs of white space, before the cursor and behind it, the
clause is the same, the cursor and the clause are as deep, and the tables are the same. -/
theorem detect_respaced (hs : Respaced s t) (hc : Respaced c c') :
    (detect (atCursor s)).1 = (detect (atCursor t)).1 ∧
      (atCursor s).depth = (atCursor t).depth ∧
      (detect (atCursor s)).2.depth = (detect (atCursor t)).2.depth ∧
      Resolution.ofText (Text.upper ((detect (atCursor s)).2.extended c)) =
        Resolution.ofText (Text.upper ((detect (atCursor t)).2.extended c')) := by
  obtain ⟨hclause, k, -, hlevel, hlevel'⟩ := detect_regrouped hs.regrouped
  refine ⟨hclause, ?_, ?_, ofText_regrouped hs.regrouped hc.regrouped⟩
  · rw [atCursor_eq, atCursor_eq, depth_atDepth, depth_atDepth, Paren.depth_regrouped hs.regrouped]
  · rw [hlevel, hlevel']
    rfl

/-- Lines are broken behind a keyword and in front of a parenthesis, `GROUP BY` is written with a tab,
and the cursor divides a run. -/
theorem detect_respaced_in_subquery :
    Respaced "SELECT a, (SELECT b\n FROM t GROUP\t BY c ".toList
        "SELECT  a, (SELECT\r\nb FROM t\nGROUP BY c\n\n".toList ∧
      Respaced " ,\nd ) FROM u".toList "\n, d\n) FROM u".toList ∧
      (detect (atCursor "SELECT a, (SELECT b\n FROM t GROUP\t BY c ".toList)).1 =
        (detect (atCursor "SELECT  a, (SELECT\r\nb FROM t\nGROUP BY c\n\n".toList)).1 ∧
      Resolution.ofText (Text.upper ((detect (atCursor
          "SELECT a, (SELECT b\n FROM t GROUP\t BY c ".toList)).2.extended " ,\nd ) FROM u".toList)) =
        Resolution.ofText (Text.upper ((detect (atCursor
          "SELECT  a, (SELECT\r\nb FROM t\nGROUP BY c\n\n".toList)).2.extended
            "\n, d\n) FROM u".toList)) := by
  have hs : Respaced "SELECT a, (SELECT b\n FROM t GROUP\t BY c ".toList
      "SELECT  a, (SELECT\r\nb FROM t\nGROUP BY c\n\n".toList := by decide +kernel
  have hc : Respaced " ,\nd ) FROM u".toList "\n, d\n) FROM u".toList := by decide
  obtain ⟨hclause, -, -, htables⟩ := detect_respaced hs hc
  exact ⟨hs, hc, hclause, htables⟩

end Clause

end SqlAssist
