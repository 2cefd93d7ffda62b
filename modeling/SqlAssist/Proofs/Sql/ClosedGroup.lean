import SqlAssist.Proofs.Sql.Layout
import SqlAssist.Proofs.Sql.Subquery

/-!
# Closed groups

What stands between a parenthesis and its partner has no part in completion outside
of it. Two statements that differ in the contents of closed groups, and perhaps in
the length of runs of white space (`Regrouped`), have levels that differ in the same
way (`levelTexts_regrouped`), and once the groups are masked only white space is
left to differ (`maskGroups_regrouped`). From there on the clause and the tables are
read off texts of a different layout, which changes neither: `detect_regrouped` and
`ofText_regrouped` hold at every level, before the cursor and past it.

**`detect_closed_group`** is the case of one group, wherever in the statement it
stands.
-/

namespace SqlAssist

/-- The texts differ in the length of some runs of white space and in the contents of
some closed groups. -/
abbrev Regrouped : Text → Text → Prop := Alike IsGap Paren.Balanced

theorem IsBlank.balanced {w : Text} (h : IsBlank w) : Paren.Balanced w :=
  Paren.balanced_of_no_paren fun c hc =>
    ⟨Text.ne_of_isSpace (h c hc) (by decide), Text.ne_of_isSpace (h c hc) (by decide)⟩

namespace Paren

variable {s t x : Text}

/-! ### Scans past a closed text -/

theorem closes_closing_append {j : Nat} (h : Closing j x) (n : Nat) (r : Text) :
    closes (n + j) (x ++ r) = closes n r := by
  induction h using Closing.induction with
  | nil => rfl
  | opening j x _ ih => exact ih
  | closing j x _ ih => exact ih
  | other c j x ho hc _ ih =>
    rw [List.cons_append, closes, if_neg ho, if_neg hc]
    exact ih

/-- Inside a closed group all is blanked. -/
theorem maskFrom_closing_append {j : Nat} (h : Closing j x) (n : Nat) (r : Text) :
    maskFrom (n + j + 1) (x ++ r) = Text.blank x ++ maskFrom (n + 1) r := by
  induction h using Closing.induction with
  | nil => rfl
  | opening j x _ ih => exact congrArg (' ' :: ·) ih
  | closing j x _ ih => exact congrArg (' ' :: ·) ih
  | other c j x ho hc _ ih =>
    rw [List.cons_append, maskFrom, if_neg ho, if_neg hc, ih]
    rfl

theorem untilClosed_closing_append {j : Nat} (h : Closing j x) (n : Nat) (r : Text) :
    untilClosed (n + j) (x ++ r) = x ++ untilClosed n r := by
  induction h using Closing.induction with
  | nil => rfl
  | opening j x _ ih => exact congrArg ('(' :: ·) ih
  | closing j x _ ih => exact congrArg (')' :: ·) ih
  | other c j x ho hc _ ih =>
    rw [List.cons_append, List.cons_append, untilClosed, if_neg ho, if_neg hc, ih]

/-- A closed group keeps its parentheses and loses its contents. -/
theorem maskFrom_group (h : Balanced x) (r : Text) :
    maskFrom 0 ('(' :: (x ++ ')' :: r)) = '(' :: (Text.blank x ++ ')' :: maskFrom 0 r) := by
  have hcloses : closes 0 (x ++ ')' :: r) = true := closes_closing_append h 0 _
  rw [maskFrom, if_pos (by simp [hcloses])]
  exact congrArg ('(' :: ·) (maskFrom_closing_append h 0 _)

theorem maskFrom_blank_append {w : Text} (h : IsBlank w) (r : Text) :
    maskFrom 0 (w ++ r) = w ++ maskFrom 0 r := by
  induction w with
  | nil => rfl
  | cons c w ih =>
    obtain ⟨hc, hw⟩ := List.forall_mem_cons.mp h
    have ho : c ≠ '(' := Text.ne_of_isSpace hc (by decide)
    rw [List.cons_append, maskFrom, if_neg (by simp [ho]), ih hw, List.cons_append]

end Paren

/-! ### Texts with other groups -/

/-- Texts with other groups are built up from the end: the same character is put in
front, or a balanced text for another. -/
theorem Regrouped.induction_front {P : (s t : Text) → Regrouped s t → Prop} (nil : P [] [] .nil)
    (cons : ∀ c s t (h : Regrouped s t), P s t h → P (c :: s) (c :: t) (.cons c h))
    (front : ∀ u u' s t (h : Regrouped s t), Paren.Balanced u → Paren.Balanced u' →
      (hfront : ∀ s t, Regrouped s t → Regrouped (u ++ s) (u' ++ t)) → P s t h →
        P (u ++ s) (u' ++ t) (hfront s t h))
    {s t : Text} (h : Regrouped s t) : P s t h := by
  induction h with
  | nil => exact nil
  | cons c h ih => exact cons c _ _ h ih
  | gap hw hw' _ ih =>
    exact front _ _ _ _ _ hw.2.balanced hw'.2.balanced (fun _ _ => .gap hw hw') ih
  | @group s t x x' hx hx' _ ih =>
    have hassoc : ∀ y r : Text, '(' :: (y ++ ')' :: r) = ('(' :: y ++ [')']) ++ r := by simp
    have hfront : ∀ s t, Regrouped s t →
        Regrouped (('(' :: x ++ [')']) ++ s) (('(' :: x' ++ [')']) ++ t) := by
      intro s t h
      rw [← hassoc, ← hassoc]
      exact .group hx hx' h
    have := front _ _ _ _ _ (Paren.balanced_group hx) (Paren.balanced_group hx') hfront ih
    simp only [hassoc]
    exact this

namespace Paren

variable {s t : Text}

theorem closes_regrouped (h : Regrouped s t) : ∀ n, closes n s = closes n t := by
  induction h using Regrouped.induction_front with
  | nil => exact fun _ => rfl
  | cons c s t _ ih =>
    intro n
    simp only [closes, ih]
  | front u u' s t _ hu hu' _ ih =>
    intro n
    exact (closes_closing_append hu n s).trans ((ih n).trans (closes_closing_append hu' n t).symm)

theorem untilClosed_regrouped (h : Regrouped s t) :
    ∀ n, Regrouped (untilClosed n s) (untilClosed n t) := by
  induction h using Regrouped.induction_front with
  | nil => exact fun _ => .nil
  | cons c s t _ ih =>
    intro n
    rw [untilClosed, untilClosed]
    split_ifs
    · exact .cons c (ih _)
    · exact .nil
    · exact .cons c (ih _)
    · exact .cons c (ih _)
  | front u u' s t _ hu hu' hfront ih =>
    intro n
    have e : untilClosed n (u ++ s) = u ++ untilClosed n s := untilClosed_closing_append hu n s
    have e' : untilClosed n (u' ++ t) = u' ++ untilClosed n t := untilClosed_closing_append hu' n t
    rw [e, e']
    exact hfront _ _ (ih n)

/-- Read inside groups that are closed, texts with other groups are masked to white
space up to the end of the outermost one. Behind it stand texts with other groups. -/
theorem exists_maskFrom_regrouped (h : Regrouped s t) : ∀ n, closes n s = true →
    ∃ w w' u v, IsBlank w ∧ IsBlank w' ∧ Regrouped u v ∧ u.length < s.length ∧
      maskFrom (n + 1) s = w ++ ')' :: maskFrom 0 u ∧
      maskFrom (n + 1) t = w' ++ ')' :: maskFrom 0 v := by
  induction h using Regrouped.induction_front with
  | nil => exact fun n hn => absurd hn (by simp [closes])
  | cons c s t h ih =>
    intro n hn
    rw [closes] at hn
    rw [maskFrom, maskFrom]
    by_cases ho : c = '('
    · subst ho
      obtain ⟨w, w', u, v, hw, hw', huv, hl, e, e'⟩ := ih (n + 1) hn
      refine ⟨' ' :: w, ' ' :: w', u, v, hw.cons (by decide), hw'.cons (by decide), huv,
        Nat.lt_succ_of_lt hl, ?_, ?_⟩
      · exact congrArg (' ' :: ·) e
      · exact congrArg (' ' :: ·) e'
    by_cases hc : c = ')'
    · subst hc
      cases n with
      | zero => exact ⟨[], [], s, t, .nil, .nil, h, Nat.lt_succ_self _, rfl, rfl⟩
      | succ n =>
        obtain ⟨w, w', u, v, hw, hw', huv, hl, e, e'⟩ := ih n hn
        refine ⟨' ' :: w, ' ' :: w', u, v, hw.cons (by decide), hw'.cons (by decide), huv,
          Nat.lt_succ_of_lt hl, ?_, ?_⟩
        · exact congrArg (' ' :: ·) e
        · exact congrArg (' ' :: ·) e'
    · rw [if_neg ho, if_neg hc] at hn ⊢
      obtain ⟨w, w', u, v, hw, hw', huv, hl, e, e'⟩ := ih n hn
      have hspace := Text.isBlank_blank [c] _ List.mem_cons_self
      refine ⟨_ :: w, _ :: w', u, v, hw.cons hspace, hw'.cons hspace, huv,
        Nat.lt_succ_of_lt hl, ?_, ?_⟩
      · rw [e]
        rfl
      · rw [if_neg ho, if_neg hc, e']
        rfl
  | front x x' s t _ hx hx' _ ih =>
    intro n hn
    obtain ⟨w, w', u, v, hw, hw', huv, hl, e, e'⟩ :=
      ih n ((closes_closing_append hx n s).symm.trans hn)
    have hb : ∀ y z, IsBlank z → IsBlank (Text.blank y ++ z) := fun y z hz =>
      List.forall_mem_append.mpr ⟨Text.isBlank_blank y, hz⟩
    refine ⟨Text.blank x ++ w, Text.blank x' ++ w', u, v, hb x w hw, hb x' w' hw', huv, ?_, ?_, ?_⟩
    · rw [List.length_append]
      omega
    · rw [List.append_assoc, ← e]
      exact maskFrom_closing_append hx n s
    · rw [List.append_assoc, ← e']
      exact maskFrom_closing_append hx' n t

/-- **Masking leaves layout**: when the contents of closed groups are blanked, only
white space is left to differ. -/
theorem maskGroups_regrouped (h : Regrouped s t) : Relaid (maskGroups s) (maskGroups t) := by
  unfold maskGroups
  induction hn : s.length using Nat.strongRecOn generalizing s t with
  | ind n ih =>
    subst hn
    cases h with
    | nil => exact .nil
    | @cons s t c h =>
      rw [maskFrom, maskFrom, closes_regrouped h]
      split_ifs with hg
      · simp only [Bool.and_eq_true, decide_eq_true_eq] at hg
        obtain ⟨rfl, hg⟩ := hg
        obtain ⟨w, w', u, v, hw, hw', huv, hl, e, e'⟩ :=
          exists_maskFrom_regrouped h 0 ((closes_regrouped h 0).trans hg)
        rw [e, e']
        exact .group hw hw' (ih _ (Nat.lt_succ_of_lt hl) huv rfl)
      · exact .cons c (ih _ (Nat.lt_succ_self _) h rfl)
    | @gap s t w w' hw hw' h =>
      rw [maskFrom_blank_append hw.2, maskFrom_blank_append hw'.2]
      refine .gap hw hw' (ih _ ?_ h rfl)
      have := List.length_pos_iff.mpr hw.1
      rw [List.length_append]
      omega
    | @group s t x x' hx hx' h =>
      rw [maskFrom_group hx, maskFrom_group hx']
      refine .group (Text.isBlank_blank x) (Text.isBlank_blank x') (ih _ ?_ h rfl)
      simp only [List.length_cons, List.length_append]
      omega

end Paren

/-! ### Levels -/

namespace Nest

/-- The levels correspond. -/
structure Regrouped (n m : Nest) : Prop where
  /-- The innermost ones do. -/
  current : SqlAssist.Regrouped n.current m.current
  /-- Those around them do. -/
  outer : List.Forall₂ SqlAssist.Regrouped n.outer m.outer

theorem step_regrouped {n m : Nest} (h : Regrouped n m) (c : Char) :
    Regrouped (n.step c) (m.step c) := by
  obtain ⟨t, us⟩ := n
  obtain ⟨t', us'⟩ := m
  obtain ⟨hcur, hout⟩ := h
  by_cases ho : c = '('
  · subst ho
    rw [step_open, step_open]
    exact ⟨.nil, .cons hcur hout⟩
  by_cases hc : c = ')'
  · subst hc
    cases hout with
    | nil =>
      rw [step_close_nil, step_close_nil]
      exact ⟨hcur.append (.refl _ _ _), .nil⟩
    | cons hu hus =>
      rw [step_close_cons, step_close_cons]
      exact ⟨(hu.append (.cons '(' hcur)).append (.refl _ _ _), hus⟩
  · rw [step_other ho hc, step_other ho hc]
    exact ⟨hcur.append (.refl _ _ _), hout⟩

theorem foldl_step_regrouped {s t : Text} (h : SqlAssist.Regrouped s t) :
    ∀ n m, Regrouped n m → Regrouped (s.foldl step n) (t.foldl step m) := by
  induction h using Regrouped.induction_front with
  | nil => exact fun _ _ hnm => hnm
  | cons c s t _ ih => exact fun n m hnm => ih _ _ (step_regrouped hnm c)
  | front u u' s t _ hu hu' hfront ih =>
    intro n m hnm
    rw [List.foldl_append, List.foldl_append, foldl_step_balanced hu, foldl_step_balanced hu']
    have huu := hfront [] [] .nil
    rw [List.append_nil, List.append_nil] at huu
    exact ih _ _ ⟨hnm.current.append huu, hnm.outer⟩

end Nest

namespace Paren

variable {s t : Text}

theorem levelTexts_regrouped (h : Regrouped s t) :
    List.Forall₂ Regrouped (levelTexts s) (levelTexts t) := by
  obtain ⟨hcur, hout⟩ := Nest.foldl_step_regrouped h ⟨[], []⟩ ⟨[], []⟩ ⟨.nil, .nil⟩
  exact List.rel_append (List.forall₂_reverse_iff.mpr hout) (.cons hcur .nil)

theorem depth_regrouped (h : Regrouped s t) : depth s = depth t := by
  have := (levelTexts_regrouped h).length_eq
  rw [length_levelTexts, length_levelTexts] at this
  omega

theorem join_alike {gap inner : Text → Prop} {sep : Text} {ts us : List Text}
    (h : List.Forall₂ (Alike gap inner) ts us) :
    Alike gap inner (Text.join sep ts) (Text.join sep us) := by
  induction h with
  | nil => exact .nil
  | @cons t u ts us htu h ih =>
    cases h with
    | nil => exact htu
    | cons hr hrs => exact (htu.append (.refl _ _ sep)).append ih

theorem getD_alike {gap inner : Text → Prop} {ts us : List Text}
    (h : List.Forall₂ (Alike gap inner) ts us) (k : Nat) :
    Alike gap inner (ts.getD k []) (us.getD k []) := by
  induction h generalizing k with
  | nil => exact .nil
  | cons htu _ ih =>
    cases k with
    | zero => exact htu
    | succ k => exact ih k

end Paren

namespace Level

variable {s t : Text}

theorem masked_regrouped (h : Regrouped s t) {k : Nat} (hk : k ≤ Paren.depth s) :
    Relaid (atDepth s k).masked (atDepth t k).masked := by
  rw [masked, masked, text_atDepth s hk, text_atDepth t (Paren.depth_regrouped h ▸ hk)]
  exact Paren.maskGroups_regrouped (Paren.getD_alike (Paren.levelTexts_regrouped h) k)

/-- Past the cursor, too, only white space is left to differ. -/
theorem extended_regrouped (h : Regrouped s t) {c c' : Text} (hc : Regrouped c c') {k : Nat}
    (hk : k ≤ Paren.depth s) : Relaid ((atDepth s k).extended c) ((atDepth t k).extended c') := by
  have hd := Paren.depth_regrouped h
  rw [extended_atDepth s c hk, extended_atDepth t c' (hd ▸ hk), hd]
  exact Paren.maskGroups_regrouped
    ((Paren.join_alike (List.forall₂_drop k (Paren.levelTexts_regrouped h))).append
      (Paren.untilClosed_regrouped hc _))

theorem hasClause_regrouped (h : Regrouped s t) {k : Nat} (hk : k ≤ Paren.depth s) :
    (atDepth s k).hasClause = (atDepth t k).hasClause :=
  any_startsClause_relaid (masked_regrouped h hk)

theorem endsInTarget_regrouped (h : Regrouped s t) {k : Nat} (hk : k ≤ Paren.depth s) :
    (atDepth s k).endsInTarget = (atDepth t k).endsInTarget :=
  Clause.any_isTargetOnly_relaid (masked_regrouped h hk)

end Level

namespace Clause

open Level

variable {s t : Text}

/-- The same clause is found, and at the same depth. -/
theorem detect_regrouped (h : Regrouped s t) :
    (detect (atCursor s)).1 = (detect (atCursor t)).1 ∧
      ∃ k ≤ Paren.depth s, (detect (atCursor s)).2 = atDepth s k ∧
        (detect (atCursor t)).2 = atDepth t k :=
  detect_congr (Paren.depth_regrouped h) (fun _ => hasClause_regrouped h)
    (fun _ => endsInTarget_regrouped h) fun _ hk => classify_alike (masked_regrouped h hk)

theorem ofText_regrouped (h : Regrouped s t) {c c' : Text} (hc : Regrouped c c') :
    Resolution.ofText (Text.upper ((detect (atCursor s)).2.extended c)) =
      Resolution.ofText (Text.upper ((detect (atCursor t)).2.extended c')) := by
  obtain ⟨-, k, hk, e, e'⟩ := detect_regrouped h
  rw [e, e']
  exact Resolution.ofText_relaid
    (Text.upper_alike (fun _ => id) (extended_regrouped h hc hk))

/-- **Closed groups are invisible**: what a group holds that is closed before the
cursor changes neither the clause nor the depth of its level nor the tables. -/
theorem detect_closed_group (before after continuation : Text) {x x' : Text}
    (hx : Paren.Balanced x) (hx' : Paren.Balanced x') :
    (detect (atCursor (before ++ '(' :: (x ++ ')' :: after)))).1 =
        (detect (atCursor (before ++ '(' :: (x' ++ ')' :: after)))).1 ∧
      (detect (atCursor (before ++ '(' :: (x ++ ')' :: after)))).2.depth =
        (detect (atCursor (before ++ '(' :: (x' ++ ')' :: after)))).2.depth ∧
      Resolution.ofText
          ((detect (atCursor (before ++ '(' :: (x ++ ')' :: after)))).2.extended continuation).upper =
        Resolution.ofText
          ((detect (atCursor (before ++ '(' :: (x' ++ ')' :: after)))).2.extended continuation).upper := by
  have h : Regrouped (before ++ '(' :: (x ++ ')' :: after)) (before ++ '(' :: (x' ++ ')' :: after)) :=
    (Alike.group hx hx' (.refl _ _ after)).append_left before
  obtain ⟨hclause, k, -, e, e'⟩ := detect_regrouped h
  refine ⟨hclause, ?_, ofText_regrouped h (.refl _ _ continuation)⟩
  rw [e, e']
  rfl

/-- A subquery in the condition of an update, itself in an open group, and a call in
its place. -/
theorem detect_closed_group_in_update :
    Paren.Balanced "SELECT a FROM (b) JOIN c".toList ∧ Paren.Balanced "f(1)".toList ∧
      (detect (atCursor ("UPDATE t SET u = g(v IN ".toList ++
        '(' :: ("SELECT a FROM (b) JOIN c".toList ++ ')' :: " AND ".toList)))).1 = set := by
  have hx : Paren.Balanced "SELECT a FROM (b) JOIN c".toList := by decide
  have hx' : Paren.Balanced "f(1)".toList := by decide
  refine ⟨hx, hx', ?_⟩
  rw [(detect_closed_group "UPDATE t SET u = g(v IN ".toList " AND ".toList [] hx hx').1]
  decide

end Clause

end SqlAssist
