import SqlAssist.Proofs.Sql.Nesting
import SqlAssist.Sql.Clause
import SqlAssist.Sql.Resolution

/-!
# Subqueries

Completion inside a subquery does not see the query around it. Take a text in which
every closing parenthesis has its partner and put it behind an outer text and an
open parenthesis: its levels are the innermost ones of the whole, with their texts
unchanged (`text_subquery`), so the clause search stops at the same level, provided
it stops at a clause at all, and that level goes on past the cursor to the same end
(`extended_subquery`). **`detect_subquery_eq`** puts the two together.

One look outwards remains. The outermost level of a text has none around it, but
behind `INSERT INTO t (` it is a column list and belongs to the insertion; that case
is left out.
-/

namespace SqlAssist

namespace Level

/-- The level ends in `INSERT INTO` and a name. -/
def endsInTarget (l : Level) : Bool :=
  (Text.afterEachKeywords Clause.insertWords l.masked).any Clause.isTargetOnly

/-! ### The climb to a clause -/

theorem effectiveFrom_atDepth_zero (s : Text) :
    effectiveFrom s (Paren.enclosing s) 0 = atDepth s 0 := rfl

theorem effectiveFrom_atDepth_succ (s : Text) (d : Nat) :
    effectiveFrom s (Paren.enclosing s) (d + 1) =
      if (atDepth s (d + 1)).hasClause then atDepth s (d + 1)
      else effectiveFrom s (Paren.enclosing s) d := rfl

theorem effective_atDepth (s : Text) (d : Nat) :
    (atDepth s d).effective = effectiveFrom s (Paren.enclosing s) d := rfl

/-- The climb ends at one of the levels that it passes. -/
theorem exists_effective_eq (s : Text) (d : Nat) :
    ∃ k ≤ d, (atDepth s d).effective = atDepth s k := by
  rw [effective_atDepth]
  induction d with
  | zero => exact ⟨0, Nat.le_refl 0, rfl⟩
  | succ d ih =>
    rw [effectiveFrom_atDepth_succ]
    split_ifs with h
    · exact ⟨d + 1, Nat.le_refl _, rfl⟩
    · obtain ⟨k, hk, e⟩ := ih
      exact ⟨k, Nat.le_succ_of_le hk, e⟩

/-- Two statements whose levels agree on having a clause, those of the second lying
`m` deeper, are climbed alike. With further levels above (`m ≠ 0`) the climb has to
end at a clause. -/
theorem effective_shift {s s' : Text} {m d : Nat}
    (h : ∀ k ≤ d, (atDepth s' (m + k)).hasClause = (atDepth s k).hasClause)
    (hm : m = 0 ∨ (atDepth s d).effective.hasClause = true) :
    (atDepth s' (m + d)).effective = atDepth s' (m + (atDepth s d).effective.depth) := by
  rw [effective_atDepth] at hm ⊢
  rw [effective_atDepth]
  induction d with
  | zero =>
    rw [effectiveFrom_atDepth_zero] at hm ⊢
    cases m with
    | zero => rfl
    | succ m =>
      have hc := (h 0 (Nat.le_refl 0)).trans (hm.resolve_left (Nat.succ_ne_zero m))
      exact (effectiveFrom_atDepth_succ s' m).trans (if_pos hc)
  | succ d ih =>
    rw [effectiveFrom_atDepth_succ] at hm ⊢
    rw [← Nat.add_assoc, effectiveFrom_atDepth_succ, Nat.add_assoc m d 1, h (d + 1) (Nat.le_refl _)]
    split_ifs at hm ⊢ with hc
    · rfl
    · exact ih (fun k hk => h k (Nat.le_succ_of_le hk)) hm

/-! ### The levels of a subquery -/

variable {inner : Text} (outer : Text)

theorem depth_subquery (h : Paren.ClosesAtMost 0 inner) :
    Paren.depth (outer ++ '(' :: inner) = Paren.depth outer + 1 + Paren.depth inner := by
  have hlen := congrArg List.length (Paren.levelTexts_subquery outer inner h)
  rw [List.length_append, Paren.length_levelTexts, Paren.length_levelTexts,
    Paren.length_levelTexts] at hlen
  omega

/-- The levels of a subquery keep their texts. -/
theorem text_subquery (h : Paren.ClosesAtMost 0 inner) {k : Nat} (hk : k ≤ Paren.depth inner) :
    (atDepth (outer ++ '(' :: inner) (Paren.depth outer + 1 + k)).text = (atDepth inner k).text := by
  have hd := depth_subquery outer h
  rw [text_atDepth _ (by omega), text_atDepth _ hk, Paren.levelTexts_subquery outer inner h,
    List.getD_append_right _ _ _ _ (by rw [Paren.length_levelTexts]; omega),
    Paren.length_levelTexts, Nat.add_sub_cancel_left]

theorem masked_subquery (h : Paren.ClosesAtMost 0 inner) {k : Nat} (hk : k ≤ Paren.depth inner) :
    (atDepth (outer ++ '(' :: inner) (Paren.depth outer + 1 + k)).masked =
      (atDepth inner k).masked := by
  rw [masked, masked, text_subquery outer h hk]

/-- The levels around a subquery keep theirs. -/
theorem masked_around_subquery (h : Paren.ClosesAtMost 0 inner) {k : Nat}
    (hk : k ≤ Paren.depth outer) :
    (atDepth (outer ++ '(' :: inner) k).masked = (atDepth outer k).masked := by
  have hd := depth_subquery outer h
  rw [masked, masked, text_atDepth _ (by omega), text_atDepth _ hk,
    Paren.levelTexts_subquery outer inner h,
    List.getD_append _ _ _ _ (by rw [Paren.length_levelTexts]; omega)]

/-- Past the cursor, too, the levels of a subquery are as they were. -/
theorem extended_subquery (h : Paren.ClosesAtMost 0 inner) {k : Nat} (hk : k ≤ Paren.depth inner)
    (c : Text) :
    (atDepth (outer ++ '(' :: inner) (Paren.depth outer + 1 + k)).extended c =
      (atDepth inner k).extended c := by
  have hd := depth_subquery outer h
  rw [extended_atDepth _ _ (by omega), extended_atDepth _ _ hk,
    Paren.levelTexts_subquery outer inner h, hd, Nat.add_sub_add_left, List.drop_append,
    List.drop_eq_nil_of_le (by rw [Paren.length_levelTexts]; omega), Paren.length_levelTexts,
    Nat.add_sub_cancel_left, List.nil_append]

end Level

namespace Clause

open Level

variable {inner : Text} (outer : Text)

theorem isColumnList_atDepth_zero (s : Text) : isColumnList (atDepth s 0) = false := rfl

theorem isColumnList_atDepth_succ (s : Text) (k : Nat) :
    isColumnList (atDepth s (k + 1)) = (atDepth s k).endsInTarget := rfl

theorem detect_of_columnList {s : Text} {k : Nat} (h : isColumnList (atDepth s (k + 1)) = true) :
    detect (atDepth s (k + 1)) = (insertColumns, atDepth s k) := by
  rw [detect, if_pos h]
  rfl

theorem detect_of_not_columnList {l : Level} (h : isColumnList l = false) :
    detect l = (classify l.effective.masked, l.effective) := by
  rw [detect, if_neg (by simp [h])]

/-- The clause is read from one of the levels at or around the cursor. -/
theorem exists_detect_eq (s : Text) : ∃ k ≤ Paren.depth s, (detect (atCursor s)).2 = atDepth s k := by
  rw [atCursor_eq]
  by_cases h : isColumnList (atDepth s (Paren.depth s)) = true
  · generalize Paren.depth s = d at h ⊢
    cases d with
    | zero => simp [isColumnList_atDepth_zero] at h
    | succ k => exact ⟨k, Nat.le_succ k, by rw [detect_of_columnList h]⟩
  · obtain ⟨k, hk, e⟩ := exists_effective_eq s (Paren.depth s)
    exact ⟨k, hk, by rw [detect_of_not_columnList (Bool.eq_false_iff.mpr h), e]⟩

/-- Two statements whose levels look alike, those of the second lying `m` deeper, have
the same clause, and it is read from the same level. -/
theorem detect_shift {s s' : Text} {m d : Nat}
    (hcol : isColumnList (atDepth s' (m + d)) = isColumnList (atDepth s d))
    (hclause : ∀ k ≤ d, (atDepth s' (m + k)).hasClause = (atDepth s k).hasClause)
    (hclassify : ∀ k ≤ d, classify (atDepth s' (m + k)).masked = classify (atDepth s k).masked)
    (hm : m = 0 ∨ (detect (atDepth s d)).2.hasClause = true) :
    detect (atDepth s' (m + d)) =
      ((detect (atDepth s d)).1, atDepth s' (m + (detect (atDepth s d)).2.depth)) := by
  cases hl : isColumnList (atDepth s d) with
  | true =>
    rw [hl] at hcol
    cases d with
    | zero =>
      rw [isColumnList_atDepth_zero] at hl
      cases hl
    | succ d =>
      rw [← Nat.add_assoc] at hcol ⊢
      rw [detect_of_columnList hl, detect_of_columnList hcol, depth_atDepth]
  | false =>
    rw [hl] at hcol
    obtain ⟨k, hk, e⟩ := exists_effective_eq s d
    rw [detect_of_not_columnList hl] at hm ⊢
    rw [detect_of_not_columnList hcol, effective_shift hclause hm, e, depth_atDepth,
      hclassify k hk]

/-- Two statements whose levels look alike have the same clause, and it is read from the same
level. -/
theorem detect_congr {s t : Text} (hdepth : Paren.depth s = Paren.depth t)
    (hclause : ∀ k ≤ Paren.depth s, (atDepth s k).hasClause = (atDepth t k).hasClause)
    (htarget : ∀ k ≤ Paren.depth s, (atDepth s k).endsInTarget = (atDepth t k).endsInTarget)
    (hclassify : ∀ k ≤ Paren.depth s, classify (atDepth s k).masked = classify (atDepth t k).masked) :
    (detect (atCursor s)).1 = (detect (atCursor t)).1 ∧
      ∃ k ≤ Paren.depth s, (detect (atCursor s)).2 = atDepth s k ∧
        (detect (atCursor t)).2 = atDepth t k := by
  have hcolumns : isColumnList (atDepth t (0 + Paren.depth s)) =
      isColumnList (atDepth s (Paren.depth s)) := by
    cases hd : Paren.depth s with
    | zero => rfl
    | succ d =>
      rw [Nat.zero_add, isColumnList_atDepth_succ, isColumnList_atDepth_succ, htarget d (by omega)]
  have hshift : detect (atDepth t (0 + Paren.depth s)) =
      ((detect (atDepth s (Paren.depth s))).1,
        atDepth t (0 + (detect (atDepth s (Paren.depth s))).2.depth)) := by
    refine detect_shift hcolumns (fun k hk => ?_) (fun k hk => ?_) (Or.inl rfl)
    · rw [Nat.zero_add, hclause k hk]
    · rw [Nat.zero_add, hclassify k hk]
  rw [Nat.zero_add, Nat.zero_add, hdepth, ← atCursor_eq, ← hdepth, ← atCursor_eq] at hshift
  obtain ⟨k, hk, e⟩ := exists_detect_eq s
  refine ⟨by rw [hshift], k, hk, e, ?_⟩
  rw [hshift, e, depth_atDepth]

/-- The innermost level of a subquery is a column list if it is one without the outer
text: only the level around it decides, and the outer text has no target there. -/
theorem isColumnList_subquery (h : Paren.ClosesAtMost 0 inner)
    (ht : ¬ (Paren.depth inner = 0 ∧ (atCursor outer).endsInTarget = true)) :
    isColumnList (atDepth (outer ++ '(' :: inner) (Paren.depth outer + 1 + Paren.depth inner)) =
      isColumnList (atDepth inner (Paren.depth inner)) := by
  cases hd : Paren.depth inner with
  | zero =>
    rw [Nat.add_zero, isColumnList_atDepth_zero, isColumnList_atDepth_succ, endsInTarget,
      masked_around_subquery outer h (Nat.le_refl _)]
    rw [atCursor_eq] at ht
    exact Bool.eq_false_iff.mpr fun e => ht ⟨hd, e⟩
  | succ k =>
    rw [← Nat.add_assoc, isColumnList_atDepth_succ, isColumnList_atDepth_succ, endsInTarget,
      endsInTarget, masked_subquery outer h (by omega)]

/-- In a subquery with a clause the same clause is found, at the same level. -/
theorem detect_subquery (h : Paren.ClosesAtMost 0 inner)
    (hc : (detect (atCursor inner)).2.hasClause = true)
    (ht : ¬ (Paren.depth inner = 0 ∧ (atCursor outer).endsInTarget = true)) :
    detect (atCursor (outer ++ '(' :: inner)) =
      ((detect (atCursor inner)).1, atDepth (outer ++ '(' :: inner)
        (Paren.depth outer + 1 + (detect (atCursor inner)).2.depth)) := by
  rw [atCursor_eq] at hc
  rw [atCursor_eq, atCursor_eq, depth_subquery outer h]
  refine detect_shift (isColumnList_subquery outer h ht) (fun k hk => ?_) (fun k hk => ?_) (Or.inr hc)
  · rw [hasClause, hasClause, masked_subquery outer h hk]
  · rw [masked_subquery outer h hk]

/-- **Subqueries are closed**: inside a subquery with a clause, whatever stands
around it, the clause is the one of the subquery alone, and so are the text that
table references are read from and the tables themselves. -/
theorem detect_subquery_eq (h : Paren.ClosesAtMost 0 inner)
    (hc : (detect (atCursor inner)).2.hasClause = true)
    (ht : ¬ (Paren.depth inner = 0 ∧ (atCursor outer).endsInTarget = true)) :
    (detect (atCursor (outer ++ '(' :: inner))).1 = (detect (atCursor inner)).1 ∧
      ∀ c, (detect (atCursor (outer ++ '(' :: inner))).2.extended c =
          (detect (atCursor inner)).2.extended c ∧
        Resolution.ofText (Text.upper ((detect (atCursor (outer ++ '(' :: inner))).2.extended c)) =
          Resolution.ofText (Text.upper ((detect (atCursor inner)).2.extended c)) := by
  obtain ⟨k, hk, e⟩ := exists_detect_eq inner
  have hext : ∀ c, (detect (atCursor (outer ++ '(' :: inner))).2.extended c =
      (detect (atCursor inner)).2.extended c := by
    intro c
    rw [detect_subquery outer h hc ht, e]
    exact extended_subquery outer h hk c
  refine ⟨by rw [detect_subquery outer h hc ht], fun c => ⟨hext c, ?_⟩⟩
  rw [hext c]

/-- A column is asked for in an argument list of a subquery, which stands in an
argument list of an update behind a stray parenthesis. -/
theorem detect_subquery_eq_in_update :
    Paren.ClosesAtMost 0 "SELECT f(a), g(".toList ∧
      (detect (atCursor "SELECT f(a), g(".toList)).2.hasClause = true ∧
      ¬ (Paren.depth "SELECT f(a), g(".toList = 0 ∧
        (atCursor "a) UPDATE t SET b = h(c, ".toList).endsInTarget = true) ∧
      (detect (atCursor ("a) UPDATE t SET b = h(c, ".toList ++ '(' :: "SELECT f(a), g(".toList))).1 =
        select := by
  have h : Paren.ClosesAtMost 0 "SELECT f(a), g(".toList := by decide
  have hc : (detect (atCursor "SELECT f(a), g(".toList)).2.hasClause = true := by decide
  have ht : ¬ (Paren.depth "SELECT f(a), g(".toList = 0 ∧
      (atCursor "a) UPDATE t SET b = h(c, ".toList).endsInTarget = true) := by decide
  refine ⟨h, hc, ht, ?_⟩
  rw [(detect_subquery_eq _ h hc ht).1]
  decide

end Clause

end SqlAssist
