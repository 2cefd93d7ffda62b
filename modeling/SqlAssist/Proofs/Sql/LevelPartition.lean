import SqlAssist.Proofs.Sql.GroupMask
import SqlAssist.Proofs.Sql.LevelExtension

/-!
# The levels as a partition

One level leads to the next one outwards, and the walk from the cursor's level passes
each depth once (`iterate_parent?`). The levels cut the statement at the parentheses
that are open at its end and at no other place, so that their texts, joined by open
parentheses, are the statement.

No group reaches across such a cut. A level that is opened by a parenthesis has all its
own ones in pairs, and the outermost one has none left open; it may hold closing ones
without a partner. So the mask leaves nothing to read between parentheses.

**`levels_partition`** puts this together with the climb to a clause, which ends at the
first of the levels on that walk that has one.
-/

namespace SqlAssist

namespace Paren

theorem enclosing_eq_nil_iff (t : Text) : enclosing t = [] ↔ depth t = 0 := by
  rw [← length_enclosing, List.length_eq_zero_iff]

theorem Pairing.lt_length_of_within {t : Text} {i : Nat} (h : (ofText t).Within i) :
    i < t.length := by
  obtain ⟨p, hp, -, hi⟩ := h
  have hlast := ((found_read 0 t).pairs p hp).2.2
  rw [offset_read] at hlast
  omega

/-- The mask has nothing left to blank in its own result: what stands between partners is blank. -/
theorem blank_of_within_maskGroups {t : Text} {i : Nat}
    (h : (Pairing.ofText (maskGroups t)).Within i) :
    (maskGroups t)[i]? = some ' ' ∨ (maskGroups t)[i]? = some '\r' ∨
      (maskGroups t)[i]? = some '\n' := by
  have hmask := getElem?_maskGroups (maskGroups t) 0 i
  rw [maskGroups_maskGroups, List.getElem?_eq_getElem (Pairing.lt_length_of_within h),
    Option.map_some, Nat.zero_add, ← Pairing.ofText, if_pos h, Option.some.injEq,
    Text.blankChar] at hmask
  simp only [List.getElem?_eq_getElem (Pairing.lt_length_of_within h), Option.some.injEq]
  split_ifs at hmask with hbreak
  · simp only [Text.isLineBreak, Bool.or_eq_true, decide_eq_true_eq] at hbreak
    exact Or.inr hbreak.symm
  · exact Or.inl hmask

end Paren

namespace Level

/-- The levels of a statement, the outermost first. -/
def levels (s : Text) : List Level :=
  (List.range (Paren.depth s + 1)).map (atDepth s)

theorem mem_levels_iff {s : Text} {l : Level} :
    l ∈ levels s ↔ ∃ k ≤ Paren.depth s, l = atDepth s k := by
  rw [levels, List.mem_map]
  constructor
  · rintro ⟨k, hk, rfl⟩
    exact ⟨k, Nat.le_of_lt_succ (List.mem_range.mp hk), rfl⟩
  · rintro ⟨k, hk, rfl⟩
    exact ⟨k, List.mem_range.mpr (Nat.lt_succ_of_le hk), rfl⟩

/-! ### The walk outwards -/

theorem parent?_atDepth_zero (s : Text) : (atDepth s 0).parent? = none := rfl

theorem parent?_atDepth_succ (s : Text) (k : Nat) :
    (atDepth s (k + 1)).parent? = some (atDepth s k) := rfl

/-- No walk goes on from nowhere. -/
theorem iterate_parent?_none (n : Nat) : (fun o => Option.bind o parent?)^[n] none = none := by
  induction n with
  | zero => rfl
  | succ n ih => exact ih

theorem iterate_parent?_atDepth (s : Text) (k n : Nat) :
    (fun o => Option.bind o parent?)^[n] (some (atDepth s k)) =
      if n ≤ k then some (atDepth s (k - n)) else none := by
  induction n generalizing k with
  | zero => rfl
  | succ n ih =>
    rw [Function.iterate_succ_apply]
    show (fun o => Option.bind o parent?)^[n] (atDepth s k).parent? = _
    cases k with
    | zero =>
      rw [parent?_atDepth_zero, iterate_parent?_none, if_neg (Nat.not_succ_le_zero n)]
    | succ k =>
      rw [parent?_atDepth_succ, ih k]
      simp only [Nat.succ_le_succ_iff, Nat.succ_sub_succ]

/-- From the cursor's level outwards one comes by all levels, the innermost first, and then to
none. -/
theorem iterate_parent? (s : Text) (n : Nat) :
    (fun o => Option.bind o parent?)^[n] (some (atCursor s)) = (levels s).reverse[n]? := by
  rw [atCursor_eq, iterate_parent?_atDepth, levels, ← List.map_reverse, List.getElem?_map]
  split_ifs with h
  · rw [List.getElem?_reverse (by simpa using Nat.lt_succ_of_le h)]
    simp only [List.length_range, Nat.add_sub_cancel]
    rw [List.getElem?_range (by omega)]
    rfl
  · rw [List.getElem?_eq_none (by simp; omega)]
    rfl

/-- The climb ends at the first level on the walk that has a clause. -/
theorem effective_eq_find? (s : Text) (d : Nat) :
    (atDepth s d).effective =
      (((List.range (d + 1)).map (atDepth s)).reverse.find? hasClause).getD (atDepth s 0) := by
  rw [effective_atDepth]
  induction d with
  | zero =>
    rw [effectiveFrom_atDepth_zero]
    show _ = ([atDepth s 0].find? hasClause).getD (atDepth s 0)
    rw [List.find?_singleton]
    split_ifs <;> rfl
  | succ d ih =>
    rw [effectiveFrom_atDepth_succ, List.range_succ, List.map_append, List.reverse_append, ih]
    show _ = ((atDepth s (d + 1) :: _).find? hasClause).getD (atDepth s 0)
    rw [List.find?_cons]
    cases (atDepth s (d + 1)).hasClause <;> rfl

/-! ### Texts and offsets -/

theorem map_text_levels (s : Text) : (levels s).map text = Paren.levelTexts s := by
  apply List.ext_getElem
  · simp [levels, Paren.length_levelTexts]
  · intro k hk hk'
    rw [Paren.length_levelTexts] at hk'
    simp only [levels, List.getElem_map, List.getElem_range]
    rw [text_atDepth s (Nat.le_of_lt_succ hk'), List.getD_eq_getElem]

theorem map_depth_levels (s : Text) :
    (levels s).map depth = List.range ((Paren.enclosing s).length + 1) := by
  rw [levels, List.map_map, Paren.length_enclosing]
  exact List.map_id _

theorem balanced_text_atDepth_succ {s : Text} {k : Nat} (h : k + 1 ≤ Paren.depth s) :
    Paren.Balanced (atDepth s (k + 1)).text := by
  have hlength := Paren.length_levelTexts s
  apply Paren.balanced_of_mem_tail_levelTexts (s := s)
  rw [text_atDepth s h, List.getD_eq_getElem _ _ (by omega), ← List.getElem_tail (i := k) (by simp; omega)]
  exact List.getElem_mem _

theorem enclosing_text_atDepth {s : Text} {k : Nat} (h : k ≤ Paren.depth s) :
    Paren.enclosing (atDepth s k).text = [] :=
  (Paren.enclosing_eq_nil_iff _).mpr (Paren.depth_of_mem_levelTexts (text_mem_levelTexts h))

/-- A level starts before it stops, and both are places of the statement. -/
theorem start_le_stop_le {s : Text} {k : Nat} (h : k ≤ Paren.depth s) :
    (atDepth s k).start ≤ (atDepth s k).stop ∧ (atDepth s k).stop ≤ s.length := by
  constructor
  · rw [stop_atDepth s h]
    exact Nat.le_add_right _ _
  · show (Paren.enclosing s).getD k s.length ≤ s.length
    by_cases hk : k < (Paren.enclosing s).length
    · rw [List.getD_eq_getElem _ _ hk]
      exact (Paren.lt_length_of_mem_enclosing (List.getElem_mem hk)).le
    · rw [List.getD_eq_default _ _ (Nat.le_of_not_lt hk)]

/-- **Levels partition the statement**: from the cursor's level outwards one comes by each depth
once. The texts of the levels, joined by open parentheses, are the statement; each but the
outermost one has its parentheses in pairs, none leaves one open, and once masked they hold
nothing between parentheses. A clause is looked for in all of them, from the innermost one
outwards. -/
theorem levels_partition (s : Text) :
    (∀ n, (fun o => Option.bind o parent?)^[n] (some (atCursor s)) = (levels s).reverse[n]?) ∧
      (levels s).map depth = List.range ((Paren.enclosing s).length + 1) ∧
      (∀ l ∈ levels s, l.depth ≤ l.opens.length ∧ l.start ≤ l.stop ∧ l.stop ≤ s.length) ∧
      Text.join ['('] ((levels s).map text) = s ∧
      (∀ l ∈ levels s, 0 < l.depth → Paren.Balanced l.text) ∧
      (∀ l ∈ levels s, Paren.enclosing l.text = [] ∧ Paren.enclosing l.masked = [] ∧
        ∀ i, (Paren.Pairing.ofText l.masked).Within i →
          l.masked[i]? = some ' ' ∨ l.masked[i]? = some '\r' ∨ l.masked[i]? = some '\n') ∧
      (atCursor s).effective = ((levels s).reverse.find? hasClause).getD (atDepth s 0) := by
  refine ⟨iterate_parent? s, map_depth_levels s, ?_, ?_, ?_, ?_, ?_⟩
  · intro l hl
    obtain ⟨k, hk, rfl⟩ := mem_levels_iff.mp hl
    exact ⟨(Paren.length_enclosing s).symm ▸ hk, start_le_stop_le hk⟩
  · rw [map_text_levels]
    exact Nest.join_texts_ofText s
  · intro l hl hpos
    obtain ⟨k, hk, rfl⟩ := mem_levels_iff.mp hl
    obtain ⟨j, rfl⟩ := Nat.exists_eq_succ_of_ne_zero hpos.ne'
    exact balanced_text_atDepth_succ hk
  · intro l hl
    obtain ⟨k, hk, rfl⟩ := mem_levels_iff.mp hl
    have htext := enclosing_text_atDepth hk
    refine ⟨htext, ?_, fun i => Paren.blank_of_within_maskGroups⟩
    rw [masked, Paren.enclosing_maskGroups, htext]
  · rw [atCursor_eq, effective_eq_find?, levels]

/-- Behind a closing parenthesis without a partner a call opens a subquery's level, and in it a
line break stands in a closed group. -/
theorem levels_partition_in_call :
    atDepth "a) f(SELECT g(\n), h(".toList 1 ∈ levels "a) f(SELECT g(\n), h(".toList ∧
      0 < (atDepth "a) f(SELECT g(\n), h(".toList 1).depth ∧
      Paren.Balanced (atDepth "a) f(SELECT g(\n), h(".toList 1).text ∧
      (Paren.Pairing.ofText (atDepth "a) f(SELECT g(\n), h(".toList 1).masked).Within 9 ∧
      ((atDepth "a) f(SELECT g(\n), h(".toList 1).masked[9]? = some ' ' ∨
        (atDepth "a) f(SELECT g(\n), h(".toList 1).masked[9]? = some '\r' ∨
        (atDepth "a) f(SELECT g(\n), h(".toList 1).masked[9]? = some '\n') := by
  have hmem : atDepth "a) f(SELECT g(\n), h(".toList 1 ∈
      levels "a) f(SELECT g(\n), h(".toList := by decide
  have hdepth : 0 < (atDepth "a) f(SELECT g(\n), h(".toList 1).depth := by decide
  have hwithin : (Paren.Pairing.ofText (atDepth "a) f(SELECT g(\n), h(".toList 1).masked).Within 9 := by
    decide
  obtain ⟨-, -, -, -, hbalanced, hmasked, -⟩ := levels_partition "a) f(SELECT g(\n), h(".toList
  exact ⟨hmem, hdepth, hbalanced _ hmem hdepth, hwithin, (hmasked _ hmem).2.2 9 hwithin⟩

end Level

end SqlAssist
