import SqlAssist.Proofs.Sql.Subquery

/-!
# A level and what follows it

The levels around the cursor leave no group open: each of their open parentheses has its partner in
the same level (`depth_of_mem_levelTexts`). So their closed groups are blanked alike whether one reads
the level alone or goes on past it (`maskFrom_append`), and a level around the cursor's, read to its
end, is the level itself, the parenthesis that opens the next one, and more (`exists_extended_eq`).
-/

namespace SqlAssist

namespace Paren

variable {k n : Nat} {t : Text}

/-- A group that is open and then no more is closed on the way. -/
theorem closes_of_foldl (h : t.foldl depthStep (k + 1) = 0) : closes k t = true := by
  induction t generalizing k with
  | nil => cases h
  | cons c t ih =>
    rw [List.foldl_cons, depthStep] at h
    rw [closes]
    split_ifs at h ⊢ with ho hc hk
    · exact ih h
    · rfl
    · obtain ⟨j, rfl⟩ := Nat.exists_eq_succ_of_ne_zero hk
      exact ih h
    · exact ih h

theorem closes_append (h : closes k t = true) (u : Text) : closes k (t ++ u) = true := by
  induction t generalizing k with
  | nil => cases h
  | cons c t ih =>
    rw [closes] at h
    rw [List.cons_append, closes]
    split_ifs at h ⊢ with ho hc hk
    · exact ih h
    · rfl
    · exact ih h
    · exact ih h

/-- A text that leaves no group open is masked the same whatever follows. -/
theorem maskFrom_append (h : t.foldl depthStep n = 0) (u : Text) :
    maskFrom n (t ++ u) = maskFrom n t ++ maskFrom 0 u := by
  induction t generalizing n with
  | nil =>
    obtain rfl : n = 0 := h
    rfl
  | cons c t ih =>
    rw [List.foldl_cons, depthStep] at h
    cases n with
    | zero =>
      rw [List.cons_append, maskFrom, maskFrom, List.cons_append]
      by_cases ho : c = '('
      · rw [if_pos ho] at h
        have hcloses := closes_of_foldl h
        rw [hcloses, closes_append hcloses u, ho, if_pos (by decide), ih h]
      · simp only [if_neg ho, Nat.zero_sub, ite_self] at h
        simp only [decide_eq_false ho, Bool.false_and, if_neg Bool.false_ne_true]
        rw [ih h]
    | succ n =>
      rw [List.cons_append, maskFrom, maskFrom]
      split_ifs at h ⊢ with ho hc hn
      · exact congrArg (' ' :: ·) (ih h)
      · exact congrArg (')' :: ·) (ih h)
      · exact congrArg (' ' :: ·) (ih h)
      · exact congrArg (Text.blankChar c :: ·) (ih h)

end Paren

namespace Nest

variable {t u : Text} {us : List Text}

/-- Inside other levels a level closes exactly what it opens; the outermost one may close more, but
leaves nothing open. -/
def Settled (current : Text) : List Text → Prop
  | [] => Paren.depth current = 0
  | t :: ts => Paren.Balanced current ∧ Settled t ts

theorem Settled.append (h : Settled t us) (hu : Paren.Balanced u) : Settled (t ++ u) us := by
  cases us with
  | nil =>
    have hdepth : Paren.depth t = 0 := h
    rw [Settled, Paren.depth, List.foldl_append]
    rw [Paren.depth] at hdepth
    rw [hdepth]
    exact Paren.foldl_depthStep_closing 0 hu
  | cons v vs => exact ⟨h.1.append hu, h.2⟩

theorem settled_step {n : Nest} (h : Settled n.current n.outer) (c : Char) :
    Settled (n.step c).current (n.step c).outer := by
  obtain ⟨t, us⟩ := n
  by_cases ho : c = '('
  · subst ho
    rw [step_open]
    exact ⟨Paren.balanced_of_no_paren fun c hc => absurd hc List.not_mem_nil, h⟩
  by_cases hc : c = ')'
  · subst hc
    cases us with
    | nil =>
      have hdepth : Paren.depth t = 0 := h
      rw [step_close_nil, Settled, Paren.depth_concat, hdepth]
      rfl
    | cons u us =>
      rw [step_close_cons, List.append_assoc]
      exact h.2.append (Paren.balanced_group h.1)
  · rw [step_other ho hc]
    exact h.append (Paren.balanced_of_no_paren (List.forall_mem_singleton.mpr ⟨ho, hc⟩))

theorem settled_ofText (t : Text) : Settled (ofText t).current (ofText t).outer := by
  induction t using List.reverseRecOn with
  | nil => rfl
  | append_singleton t c ih =>
    rw [ofText_append_singleton]
    exact settled_step ih c

theorem Settled.depth_eq_zero (h : Settled t us) : ∀ u ∈ t :: us, Paren.depth u = 0 := by
  induction us generalizing t with
  | nil => exact List.forall_mem_singleton.mpr h
  | cons v vs ih =>
    exact List.forall_mem_cons.mpr ⟨Paren.foldl_depthStep_closing 0 h.1, ih h.2⟩

/-- Every level but the outermost one closes exactly what it opens. -/
theorem Settled.balanced (h : Settled t us) : ∀ u ∈ (t :: us).dropLast, Paren.Balanced u := by
  induction us generalizing t with
  | nil =>
    intro u hu
    simp at hu
  | cons v vs ih =>
    intro u hu
    rw [List.dropLast_cons_cons, List.mem_cons] at hu
    rcases hu with rfl | hu
    · exact h.1
    · exact ih h.2 u hu

end Nest

namespace Paren

/-- No level leaves a group open. -/
theorem depth_of_mem_levelTexts {s t : Text} (h : t ∈ levelTexts s) : depth t = 0 := by
  refine (Nest.settled_ofText s).depth_eq_zero t ?_
  rw [levelTexts, Nest.texts, List.mem_append, List.mem_reverse, List.mem_singleton] at h
  exact List.mem_cons.mpr h.symm

/-- The levels that a parenthesis opens have all of theirs in pairs. -/
theorem balanced_of_mem_tail_levelTexts {s t : Text} (h : t ∈ (levelTexts s).tail) :
    Balanced t := by
  have hreverse : levelTexts s = ((Nest.ofText s).current :: (Nest.ofText s).outer).reverse := by
    rw [levelTexts, Nest.texts, List.reverse_cons]
  rw [hreverse, List.tail_reverse, List.mem_reverse] at h
  exact (Nest.settled_ofText s).balanced t h

end Paren

namespace Level

theorem text_mem_levelTexts {s : Text} {k : Nat} (h : k ≤ Paren.depth s) :
    (atDepth s k).text ∈ Paren.levelTexts s := by
  have hlength := Paren.length_levelTexts s
  rw [text_atDepth s h, List.getD_eq_getElem _ _ (by omega)]
  exact List.getElem_mem _

/-- A level around another one goes on with the parenthesis that opens that one. -/
theorem exists_extended_eq (s c : Text) {k : Nat} (h : k < Paren.depth s) :
    ∃ u, (atDepth s k).extended c = (atDepth s k).masked ++ '(' :: u := by
  have hlength := Paren.length_levelTexts s
  have hk : k < (Paren.levelTexts s).length := by omega
  have hne : (Paren.levelTexts s).drop (k + 1) ≠ [] := by
    rw [ne_eq, List.drop_eq_nil_iff]
    omega
  have htext : (atDepth s k).text = (Paren.levelTexts s)[k] := by
    rw [text_atDepth s h.le, List.getD_eq_getElem _ _ hk]
  have hdepth : (atDepth s k).text.foldl Paren.depthStep 0 = 0 :=
    Paren.depth_of_mem_levelTexts (text_mem_levelTexts h.le)
  rw [extended_atDepth s c h.le, List.drop_eq_getElem_cons hk, Text.join_cons _ _ hne, ← htext,
    masked, Paren.maskGroups, Paren.maskGroups, List.append_assoc, List.append_assoc,
    Paren.maskFrom_append hdepth]
  exact ⟨_, rfl⟩

end Level

end SqlAssist
