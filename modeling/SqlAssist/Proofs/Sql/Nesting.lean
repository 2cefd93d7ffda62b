import SqlAssist.Proofs.Text.Lines
import SqlAssist.Sql.Level
import Mathlib.Data.List.GetD
import Mathlib.Data.List.Induction

/-!
# The nesting of levels

A statement is scanned backward for the parentheses that enclose its end, and its
levels are kept as offsets. This module reads the same levels from left to right,
as texts: an open parenthesis starts a new level, a closing one puts the level
that it ends, parentheses included, back into the level around it (`Nest`). A
closing parenthesis without a partner stays in the outermost level.

The two agree. The backward scan finds the places between the level texts
(`enclosing_eq_openOffsets`), the level at a depth has the level text of that
depth (`text_atDepth`), and the statement from its start on is that text and the
deeper ones, joined by open parentheses (`drop_start_atDepth`). What is said of
levels elsewhere is said of their texts, so that offsets are left behind here.

Two facts say how level texts come together: a text that closes nothing opened
before it adds its own levels to those it is put into (`levelTexts_subquery`),
and a balanced text stays in the level where it stands (`foldl_step_balanced`).
-/

namespace SqlAssist

namespace Paren

/-! ### Texts that close what they open -/

/-- At no place has the text closed more than `k` parentheses beyond those that it
has opened. With `k = 0` no closing parenthesis is without a partner. -/
def ClosesAtMost (k : Nat) (t : Text) : Prop :=
  ∀ p, p <+: t → p.count ')' ≤ k + p.count '('

/-- The text closes all that it opens and `k` parentheses from before it. -/
structure Closing (k : Nat) (t : Text) : Prop where
  /-- It closes nothing beyond those. -/
  atMost : ClosesAtMost k t
  /-- It leaves none of them open. -/
  count : t.count ')' = k + t.count '('

/-- Every parenthesis of the text has its partner in the text. -/
def Balanced (t : Text) : Prop := Closing 0 t

theorem closesAtMost_nil (k : Nat) : ClosesAtMost k [] := by
  intro p hp
  rw [List.prefix_nil.mp hp]
  simp

theorem closesAtMost_cons (k : Nat) (c : Char) (t : Text) :
    ClosesAtMost k (c :: t) ↔ ∀ p, p <+: t → (c :: p).count ')' ≤ k + (c :: p).count '(' := by
  constructor
  · intro h p hp
    exact h (c :: p) (List.cons_prefix_cons.mpr ⟨rfl, hp⟩)
  · intro h p hp
    rcases List.prefix_cons_iff.mp hp with rfl | ⟨q, rfl, hq⟩
    · simp
    · exact h q hq

theorem closesAtMost_open_iff (k : Nat) (t : Text) :
    ClosesAtMost k ('(' :: t) ↔ ClosesAtMost (k + 1) t := by
  rw [closesAtMost_cons]
  refine forall₂_congr fun p _ => ?_
  rw [List.count_cons_self, List.count_cons_of_ne (by decide)]
  omega

theorem closesAtMost_close_iff (k : Nat) (t : Text) :
    ClosesAtMost k (')' :: t) ↔ ∃ j, k = j + 1 ∧ ClosesAtMost j t := by
  rw [closesAtMost_cons]
  constructor
  · intro h
    have h0 := h [] List.nil_prefix
    simp at h0
    refine ⟨k - 1, by omega, fun p hp => ?_⟩
    have := h p hp
    rw [List.count_cons_self, List.count_cons_of_ne (by decide)] at this
    omega
  · rintro ⟨j, rfl, h⟩ p hp
    have := h p hp
    rw [List.count_cons_self, List.count_cons_of_ne (by decide)]
    omega

theorem closesAtMost_other_iff {c : Char} (ho : c ≠ '(') (hc : c ≠ ')') (k : Nat) (t : Text) :
    ClosesAtMost k (c :: t) ↔ ClosesAtMost k t := by
  rw [closesAtMost_cons]
  refine forall₂_congr fun p _ => ?_
  rw [List.count_cons_of_ne hc, List.count_cons_of_ne ho]

theorem closing_nil_iff (k : Nat) : Closing k [] ↔ k = 0 := by
  constructor
  · intro h
    have := h.count
    simp at this
    exact this.symm
  · rintro rfl
    exact ⟨closesAtMost_nil 0, rfl⟩

theorem closing_open_iff (k : Nat) (t : Text) : Closing k ('(' :: t) ↔ Closing (k + 1) t := by
  have hc : ('(' :: t).count ')' = t.count ')' := List.count_cons_of_ne (by decide)
  have ho : ('(' :: t).count '(' = t.count '(' + 1 := List.count_cons_self
  constructor
  · rintro ⟨h, e⟩
    exact ⟨(closesAtMost_open_iff k t).mp h, by omega⟩
  · rintro ⟨h, e⟩
    exact ⟨(closesAtMost_open_iff k t).mpr h, by omega⟩

theorem closing_close_iff (k : Nat) (t : Text) :
    Closing k (')' :: t) ↔ ∃ j, k = j + 1 ∧ Closing j t := by
  have hc : (')' :: t).count ')' = t.count ')' + 1 := List.count_cons_self
  have ho : (')' :: t).count '(' = t.count '(' := List.count_cons_of_ne (by decide)
  constructor
  · rintro ⟨h, e⟩
    obtain ⟨j, rfl, h'⟩ := (closesAtMost_close_iff k t).mp h
    exact ⟨j, rfl, h', by omega⟩
  · rintro ⟨j, rfl, h, e⟩
    exact ⟨(closesAtMost_close_iff _ t).mpr ⟨j, rfl, h⟩, by omega⟩

theorem closing_other_iff {c : Char} (ho : c ≠ '(') (hc : c ≠ ')') (k : Nat) (t : Text) :
    Closing k (c :: t) ↔ Closing k t := by
  have ec : (c :: t).count ')' = t.count ')' := List.count_cons_of_ne hc
  have eo : (c :: t).count '(' = t.count '(' := List.count_cons_of_ne ho
  constructor
  · rintro ⟨h, e⟩
    exact ⟨(closesAtMost_other_iff ho hc k t).mp h, by omega⟩
  · rintro ⟨h, e⟩
    exact ⟨(closesAtMost_other_iff ho hc k t).mpr h, by omega⟩

/-- Induction over a text that closes what it opens, by its first character. -/
@[elab_as_elim]
theorem Closing.induction {motive : (k : Nat) → (t : Text) → Closing k t → Prop}
    (nil : motive 0 [] ((closing_nil_iff 0).mpr rfl))
    (opening : ∀ k t (h : Closing (k + 1) t), motive (k + 1) t h →
      motive k ('(' :: t) ((closing_open_iff k t).mpr h))
    (closing : ∀ k t (h : Closing k t), motive k t h →
      motive (k + 1) (')' :: t) ((closing_close_iff (k + 1) t).mpr ⟨k, rfl, h⟩))
    (other : ∀ c k t (ho : c ≠ '(') (hc : c ≠ ')') (h : Closing k t), motive k t h →
      motive k (c :: t) ((closing_other_iff ho hc k t).mpr h))
    {k : Nat} {t : Text} (h : Closing k t) : motive k t h := by
  induction t generalizing k with
  | nil =>
    obtain rfl := (closing_nil_iff k).mp h
    exact nil
  | cons c t ih =>
    by_cases ho : c = '('
    · subst ho
      exact opening k t ((closing_open_iff k t).mp h) (ih _)
    by_cases hc : c = ')'
    · subst hc
      obtain ⟨j, rfl, hj⟩ := (closing_close_iff k t).mp h
      exact closing j t hj (ih hj)
    · exact other c k t ho hc ((closing_other_iff ho hc k t).mp h) (ih _)

/-- What a text closes is what the look ahead for the end of a group finds. -/
theorem closes_eq_false_iff (k : Nat) (t : Text) : closes k t = false ↔ ClosesAtMost k t := by
  induction t generalizing k with
  | nil => simp [closes, closesAtMost_nil]
  | cons c t ih =>
    rw [closes]
    by_cases ho : c = '('
    · subst ho
      rw [if_pos rfl, ih, closesAtMost_open_iff]
    by_cases hc : c = ')'
    · subst hc
      rw [if_neg ho, if_pos rfl, closesAtMost_close_iff]
      cases k with
      | zero => simp
      | succ k => simp [ih]
    · rw [if_neg ho, if_neg hc, ih, closesAtMost_other_iff ho hc]

instance (k : Nat) (t : Text) : Decidable (ClosesAtMost k t) :=
  decidable_of_iff _ (closes_eq_false_iff k t)

instance (t : Text) : Decidable (Balanced t) :=
  decidable_of_iff (ClosesAtMost 0 t ∧ t.count ')' = 0 + t.count '(')
    ⟨fun h => ⟨h.1, h.2⟩, fun h => ⟨h.atMost, h.count⟩⟩

/-- A text without parentheses is balanced. -/
theorem balanced_of_no_paren {t : Text} (h : ∀ c ∈ t, c ≠ '(' ∧ c ≠ ')') : Balanced t := by
  unfold Balanced
  induction t with
  | nil => exact (closing_nil_iff 0).mpr rfl
  | cons c t ih =>
    obtain ⟨ho, hc⟩ := h c List.mem_cons_self
    exact (closing_other_iff ho hc 0 t).mpr (ih fun d hd => h d (List.mem_cons_of_mem c hd))

/-- Two texts in a row close what each of them closes. -/
theorem Closing.append {j k : Nat} {x y : Text} (hx : Closing j x) (hy : Closing k y) :
    Closing (j + k) (x ++ y) := by
  induction hx using Closing.induction with
  | nil => rwa [Nat.zero_add]
  | opening j x _ ih =>
    rw [Nat.add_right_comm] at ih
    exact (closing_open_iff _ _).mpr ih
  | closing j x _ ih => exact (closing_close_iff _ _).mpr ⟨j + k, Nat.add_right_comm j 1 k, ih⟩
  | other c j x ho hc _ ih => exact (closing_other_iff ho hc _ _).mpr ih

/-- A balanced text between parentheses is balanced. -/
theorem balanced_group {x : Text} (h : Balanced x) : Balanced ('(' :: x ++ [')']) := by
  have hclose : Closing 1 [')'] := (closing_close_iff 1 []).mpr ⟨0, rfl, (closing_nil_iff 0).mpr rfl⟩
  have := Closing.append h hclose
  rw [Nat.zero_add] at this
  exact (closing_open_iff 0 _).mpr this

end Paren

/-! ### Level texts -/

/-- A text cut into its levels. -/
structure Nest where
  /-- The text of the innermost level. -/
  current : Text
  /-- The texts of the levels around it, the nearest first. -/
  outer : List Text
  deriving DecidableEq, Repr

namespace Nest

/-- The levels with one more character. -/
def step (n : Nest) (c : Char) : Nest :=
  if c = '(' then ⟨[], n.current :: n.outer⟩
  else if c = ')' then
    match n.outer with
    | [] => ⟨n.current ++ [')'], []⟩
    | t :: ts => ⟨t ++ '(' :: n.current ++ [')'], ts⟩
  else ⟨n.current ++ [c], n.outer⟩

/-- The levels of a text. -/
def ofText (t : Text) : Nest :=
  t.foldl step ⟨[], []⟩

/-- The texts of the levels, the outermost first. -/
def texts (n : Nest) : List Text :=
  n.outer.reverse ++ [n.current]

@[simp] theorem length_texts (n : Nest) : n.texts.length = n.outer.length + 1 := by
  simp [texts]

theorem step_open (n : Nest) : n.step '(' = ⟨[], n.current :: n.outer⟩ := by
  simp [step]

theorem step_close_nil (t : Text) : step ⟨t, []⟩ ')' = ⟨t ++ [')'], []⟩ := by
  simp [step]

theorem step_close_cons (t u : Text) (us : List Text) :
    step ⟨t, u :: us⟩ ')' = ⟨u ++ '(' :: t ++ [')'], us⟩ := by
  simp [step]

theorem step_other {c : Char} (ho : c ≠ '(') (hc : c ≠ ')') (n : Nest) :
    n.step c = ⟨n.current ++ [c], n.outer⟩ := by
  simp [step, ho, hc]

theorem ofText_append_singleton (t : Text) (c : Char) :
    ofText (t ++ [c]) = (ofText t).step c := by
  simp [ofText]

/-- The number of levels around the end of a text is its depth. -/
theorem length_outer_step (n : Nest) (c : Char) :
    (n.step c).outer.length = Paren.depthStep n.outer.length c := by
  obtain ⟨t, _ | ⟨u, us⟩⟩ := n <;> simp only [step, Paren.depthStep] <;> split_ifs <;> simp

theorem length_outer_foldl (x : Text) (n : Nest) :
    (x.foldl step n).outer.length = x.foldl Paren.depthStep n.outer.length := by
  induction x generalizing n with
  | nil => rfl
  | cons c x ih => rw [List.foldl_cons, ih, length_outer_step, List.foldl_cons]

theorem length_outer_ofText (t : Text) : (ofText t).outer.length = Paren.depth t :=
  length_outer_foldl t ⟨[], []⟩

end Nest

/-! ### Offsets of the open parentheses -/

namespace Paren

/-- Where the parentheses stand that open a level behind each of the texts, when
the first text starts at `start`. -/
def openOffsets (start : Nat) : List Text → List Nat
  | [] => []
  | t :: ts => (start + t.length) :: openOffsets (start + t.length + 1) ts

/-- The texts of the levels of a statement, the outermost first. -/
def levelTexts (t : Text) : List Text :=
  (Nest.ofText t).texts

theorem length_openOffsets (start : Nat) (ts : List Text) :
    (openOffsets start ts).length = ts.length := by
  induction ts generalizing start with
  | nil => rfl
  | cons t ts ih => simp [openOffsets, ih]

theorem openOffsets_concat (start : Nat) (ts : List Text) (t : Text) :
    openOffsets start (ts ++ [t]) =
      openOffsets start ts ++ [start + (Text.join ['('] (ts ++ [t])).length] := by
  induction ts generalizing start with
  | nil => rfl
  | cons u us ih =>
    rw [List.cons_append, openOffsets, openOffsets, ih, Text.join_cons _ _ (by simp)]
    simp
    omega

end Paren

namespace Nest

/-- The level texts, joined by the parentheses between them, are the whole text. -/
theorem join_texts_step (n : Nest) (c : Char) :
    Text.join ['('] (n.step c).texts = Text.join ['('] n.texts ++ [c] := by
  by_cases ho : c = '('
  · subst ho
    have := Text.join_concat_pair ['('] n.outer.reverse n.current []
    rw [List.append_nil, Text.join_concat_append] at this
    simpa [step_open, texts] using this
  by_cases hc : c = ')'
  · subst hc
    obtain ⟨t, _ | ⟨u, us⟩⟩ := n
    · simp [step_close_nil, texts, Text.join]
    · have h := Text.join_concat_pair ['('] us.reverse u t
      have h' := Text.join_concat_append ['('] us.reverse (u ++ ['('] ++ t) [')']
      rw [← h] at h'
      simpa [step_close_cons, texts] using h'
  · rw [step_other ho hc]
    exact Text.join_concat_append ['('] n.outer.reverse n.current [c]

theorem join_texts_foldl (x : Text) (n : Nest) :
    Text.join ['('] (x.foldl step n).texts = Text.join ['('] n.texts ++ x := by
  induction x generalizing n with
  | nil => simp
  | cons c x ih => rw [List.foldl_cons, ih, join_texts_step]; simp

theorem join_texts_ofText (t : Text) : Text.join ['('] (ofText t).texts = t :=
  join_texts_foldl t ⟨[], []⟩

end Nest

/-! ### The backward scan -/

namespace Paren

theorem depth_concat (t : Text) (c : Char) : depth (t ++ [c]) = depthStep (depth t) c := by
  simp [depth]

/-- Walking back over `t`, at its depth and having come as low as `lowest`, finds
the `lowest` outermost of the parentheses that enclose the end of `t`. -/
theorem enclosingFrom_reverse (t : Text) (lowest : Nat) (found : List Nat) (h : lowest ≤ depth t) :
    enclosingFrom (depth t) lowest found t.reverse =
      (openOffsets 0 (Nest.ofText t).outer.reverse).take lowest ++ found := by
  induction t using List.reverseRecOn generalizing lowest found with
  | nil =>
    have : lowest = 0 := by simpa [depth] using h
    subst this
    rfl
  | append_singleton t c ih =>
    have hlen := Nest.length_outer_ofText t
    have hjoin := Nest.join_texts_ofText t
    rw [depth_concat] at h ⊢
    rw [List.reverse_concat, Nest.ofText_append_singleton, enclosingFrom]
    generalize Nest.ofText t = n at ih hlen hjoin ⊢
    by_cases h0 : lowest = 0
    · simp [h0]
    rw [if_neg h0]
    by_cases hc : c = ')'
    · -- a level has ended here: the walk enters it, and comes back out before it finds anything
      subst hc
      simp only [depthStep, if_true, if_neg (show ¬ ')' = '(' by decide)] at h ⊢
      obtain ⟨cur, _ | ⟨u, us⟩⟩ := n
      · simp only [List.length_nil] at hlen
        omega
      · simp only [List.length_cons] at hlen
        rw [show depth t - 1 + 1 = depth t by omega, ih lowest found (by omega), Nest.step_close_cons]
        simp only [List.reverse_cons]
        rw [openOffsets_concat, List.take_append_of_le_length]
        rw [length_openOffsets, List.length_reverse]
        omega
    rw [if_neg hc]
    by_cases ho : c = '('
    · subst ho
      simp only [depthStep, if_true, Nat.add_sub_cancel] at h ⊢
      rw [Nest.step_open, List.reverse_cons, openOffsets_concat, Nat.zero_add]
      rw [Nest.texts] at hjoin
      rw [hjoin, List.length_reverse]
      have hl : (openOffsets 0 n.outer.reverse).length = depth t := by
        rw [length_openOffsets, List.length_reverse, hlen]
      split_ifs with hlow
      · -- the parenthesis stays open at the end of the text
        obtain rfl : lowest = depth t + 1 := by omega
        rw [ih (depth t) _ (Nat.le_refl _), List.take_of_length_le (by omega),
          List.take_of_length_le (by simp; omega)]
        simp
      · rw [ih lowest found (by omega), List.take_append_of_le_length (by omega)]
    · simp only [depthStep, if_neg ho, if_neg hc] at h ⊢
      rw [ih lowest found h, Nest.step_other ho hc]

/-- The backward scan finds the places between the level texts. -/
theorem enclosing_eq_openOffsets (t : Text) :
    enclosing t = openOffsets 0 (Nest.ofText t).outer.reverse := by
  have hlen : (openOffsets 0 (Nest.ofText t).outer.reverse).length = depth t := by
    rw [length_openOffsets, List.length_reverse, Nest.length_outer_ofText]
  rw [enclosing, enclosingFrom_reverse t _ _ (Nat.le_refl _), List.append_nil,
    List.take_of_length_le (by omega)]

theorem length_enclosing (t : Text) : (enclosing t).length = depth t := by
  rw [enclosing_eq_openOffsets, length_openOffsets, List.length_reverse, Nest.length_outer_ofText]

theorem length_levelTexts (t : Text) : (levelTexts t).length = depth t + 1 := by
  rw [levelTexts, Nest.length_texts, Nest.length_outer_ofText]

/-! ### From offsets to level texts -/

/-- Behind the parenthesis that opens a level stand its text and the deeper ones. -/
theorem drop_openOffsets (ts : List Text) (k : Nat) (before : Text) (h : k + 1 < ts.length) :
    (before ++ Text.join ['('] ts).drop ((openOffsets before.length ts.dropLast).getD k 0 + 1) =
      Text.join ['('] (ts.drop (k + 1)) := by
  induction ts generalizing k before with
  | nil => simp at h
  | cons t us ih =>
    obtain ⟨u, vs, rfl⟩ : ∃ u vs, us = u :: vs :=
      List.exists_cons_of_ne_nil (by rintro rfl; simp at h)
    rw [Text.join_cons _ _ (by simp), List.dropLast_cons_cons, openOffsets]
    have hb : before.length + t.length + 1 = (before ++ t ++ ['(']).length := by simp; omega
    have hs : before ++ (t ++ ['('] ++ Text.join ['('] (u :: vs)) =
        (before ++ t ++ ['(']) ++ Text.join ['('] (u :: vs) := by simp
    rw [hs]
    cases k with
    | zero => rw [List.getD_cons_zero, hb, List.drop_left]; rfl
    | succ k =>
      rw [List.getD_cons_succ, hb]
      exact ih k _ (by simp at h ⊢; omega)

/-- A level ends where the next deeper one opens, or at the end of the text. -/
theorem stop_openOffsets (ts : List Text) (k : Nat) (start : Nat) (h : k + 1 < ts.length) :
    (openOffsets start ts.dropLast).getD (k + 1) (start + (Text.join ['('] ts).length) =
      (openOffsets start ts.dropLast).getD k 0 + 1 + (ts.getD (k + 1) []).length := by
  induction ts generalizing k start with
  | nil => simp at h
  | cons t us ih =>
    obtain ⟨u, vs, rfl⟩ : ∃ u vs, us = u :: vs :=
      List.exists_cons_of_ne_nil (by rintro rfl; simp at h)
    rw [Text.join_cons _ _ (by simp), List.dropLast_cons_cons, openOffsets, List.getD_cons_succ,
      List.getD_cons_succ]
    cases k with
    | zero =>
      cases vs with
      | nil => simp [openOffsets, Text.join]; omega
      | cons v vs => simp [openOffsets]
    | succ k =>
      rw [List.getD_cons_succ, ← ih k (start + t.length + 1) (by simp at h ⊢; omega)]
      congr 1
      simp
      omega

end Paren

namespace Level

/-- The level at a depth of the statement up to the cursor. -/
def atDepth (s : Text) (k : Nat) : Level := ⟨s, Paren.enclosing s, k⟩

@[simp] theorem depth_atDepth (s : Text) (k : Nat) : (atDepth s k).depth = k := rfl

theorem atCursor_eq (s : Text) : atCursor s = atDepth s (Paren.depth s) := by
  rw [atCursor, atDepth, Paren.length_enclosing]

theorem start_atDepth_succ (s : Text) (k : Nat) :
    (atDepth s (k + 1)).start =
      (Paren.openOffsets 0 (Paren.levelTexts s).dropLast).getD k 0 + 1 := by
  rw [start, atDepth, Paren.enclosing_eq_openOffsets, Paren.levelTexts, Nest.texts,
    List.dropLast_concat]

/-- From its start on, the statement holds the level's text and the deeper ones. -/
theorem drop_start_atDepth (s : Text) {k : Nat} (h : k ≤ Paren.depth s) :
    s.drop (atDepth s k).start = Text.join ['('] ((Paren.levelTexts s).drop k) := by
  have hjoin : Text.join ['('] (Paren.levelTexts s) = s := Nest.join_texts_ofText s
  cases k with
  | zero => rw [List.drop_zero, hjoin]; rfl
  | succ k =>
    have := Paren.drop_openOffsets (Paren.levelTexts s) k [] (by rw [Paren.length_levelTexts]; omega)
    rw [List.nil_append, hjoin, List.length_nil] at this
    rw [start_atDepth_succ, this]

theorem stop_atDepth (s : Text) {k : Nat} (h : k ≤ Paren.depth s) :
    (atDepth s k).stop = (atDepth s k).start + ((Paren.levelTexts s).getD k []).length := by
  have hjoin : Text.join ['('] (Paren.levelTexts s) = s := Nest.join_texts_ofText s
  have hlen := Paren.length_levelTexts s
  have hopens : Paren.enclosing s = Paren.openOffsets 0 (Paren.levelTexts s).dropLast := by
    rw [Paren.enclosing_eq_openOffsets, Paren.levelTexts, Nest.texts, List.dropLast_concat]
  cases k with
  | zero =>
    rw [stop, atDepth, hopens]
    obtain ⟨t, us, hts⟩ := List.exists_cons_of_length_pos (l := Paren.levelTexts s) (by omega)
    rw [hts] at hjoin ⊢
    cases us with
    | nil => simpa [start, Paren.openOffsets, Text.join] using congrArg List.length hjoin.symm
    | cons u us => simp [start, Paren.openOffsets]
  | succ k =>
    have := Paren.stop_openOffsets (Paren.levelTexts s) k 0 (by omega)
    rw [hjoin, Nat.zero_add] at this
    rw [start_atDepth_succ, stop, atDepth, hopens, this]

/-- **Levels are level texts**: the slice between the offsets of a level is the
level text of its depth. -/
theorem text_atDepth (s : Text) {k : Nat} (h : k ≤ Paren.depth s) :
    (atDepth s k).text = (Paren.levelTexts s).getD k [] := by
  have hlen := Paren.length_levelTexts s
  have hk : k < (Paren.levelTexts s).length := by omega
  rw [text, Text.slice, stop_atDepth s h, Nat.add_sub_cancel_left]
  rw [show (atDepth s k).statement = s from rfl, drop_start_atDepth s h,
    List.getD_eq_getElem _ _ hk, List.drop_eq_getElem_cons hk]
  cases (Paren.levelTexts s).drop (k + 1) with
  | nil => simp [Text.join]
  | cons u us => rw [Text.join_cons _ _ (by simp)]; simp

/-- The text of a level past the cursor: its own, the deeper ones and what follows
up to the parenthesis that closes it. -/
theorem extended_atDepth (s c : Text) {k : Nat} (h : k ≤ Paren.depth s) :
    (atDepth s k).extended c = Paren.maskGroups
      (Text.join ['('] ((Paren.levelTexts s).drop k) ++ Paren.untilClosed (Paren.depth s - k) c) := by
  rw [extended, show (atDepth s k).statement = s from rfl, drop_start_atDepth s h]
  simp only [atDepth, Paren.length_enclosing]

end Level

/-! ### Putting texts together -/

namespace Nest

/-- A text that closes at most the levels at hand leaves those around them alone. -/
theorem foldl_step_outer (s : Text) (n : Nest) (base : List Text)
    (h : Paren.ClosesAtMost n.outer.length s) :
    s.foldl step ⟨n.current, n.outer ++ base⟩ =
      ⟨(s.foldl step n).current, (s.foldl step n).outer ++ base⟩ := by
  induction s generalizing n with
  | nil => rfl
  | cons c s ih =>
    rw [List.foldl_cons, List.foldl_cons]
    by_cases ho : c = '('
    · subst ho
      have := ih (n.step '(') (by simpa [step_open] using (Paren.closesAtMost_open_iff _ s).mp h)
      simpa [step_open] using this
    by_cases hc : c = ')'
    · subst hc
      obtain ⟨t, _ | ⟨u, us⟩⟩ := n
      · obtain ⟨j, hj, -⟩ := (Paren.closesAtMost_close_iff _ s).mp h
        simp at hj
      · obtain ⟨j, hj, hs⟩ := (Paren.closesAtMost_close_iff _ s).mp h
        obtain rfl : us.length = j := by simpa using hj
        have := ih (step ⟨t, u :: us⟩ ')') (by simpa [step_close_cons] using hs)
        simpa [step_close_cons] using this
    · have := ih (n.step c)
        (by simpa [step_other ho hc] using (Paren.closesAtMost_other_iff ho hc _ s).mp h)
      simpa [step_other ho hc] using this

end Nest

namespace Paren

theorem foldl_depthStep_closing (n : Nat) {k : Nat} {x : Text} (h : Closing k x) :
    x.foldl depthStep (n + k) = n := by
  induction h using Closing.induction with
  | nil => rfl
  | opening k x _ ih => exact ih
  | closing k x _ ih => exact ih
  | other c k x ho hc _ ih =>
    rw [List.foldl_cons, depthStep, if_neg ho, if_neg hc]
    exact ih

end Paren

namespace Nest

/-- A balanced text stays in the level where it stands. -/
theorem foldl_step_balanced {x : Text} (h : Paren.Balanced x) (n : Nest) :
    x.foldl step n = ⟨n.current ++ x, n.outer⟩ := by
  have hframe := foldl_step_outer x ⟨n.current, []⟩ n.outer h.atMost
  have hlen := length_outer_foldl x ⟨n.current, []⟩
  rw [show ([] : List Text).length = 0 + 0 from rfl, Paren.foldl_depthStep_closing 0 h,
    List.length_eq_zero_iff] at hlen
  have hjoin := join_texts_foldl x ⟨n.current, []⟩
  rw [texts, hlen] at hjoin
  rw [hlen] at hframe
  simp only [List.nil_append] at hframe
  rw [hframe]
  exact congrArg (Nest.mk · n.outer) hjoin

end Nest

namespace Paren

/-- The levels of a text that closes nothing opened before it lie inside those of
the text around it. -/
theorem levelTexts_subquery (outer inner : Text) (h : ClosesAtMost 0 inner) :
    levelTexts (outer ++ '(' :: inner) = levelTexts outer ++ levelTexts inner := by
  have hframe := Nest.foldl_step_outer inner ⟨[], []⟩
    ((Nest.ofText outer).current :: (Nest.ofText outer).outer) h
  rw [List.nil_append] at hframe
  rw [levelTexts, levelTexts, levelTexts]
  have : Nest.ofText (outer ++ '(' :: inner) =
      inner.foldl Nest.step ⟨[], (Nest.ofText outer).current :: (Nest.ofText outer).outer⟩ := by
    rw [Nest.ofText, List.foldl_append, List.foldl_cons, ← Nest.step_open]
    rfl
  rw [this, hframe, Nest.texts, Nest.texts, Nest.texts]
  simp [Nest.ofText]

end Paren

end SqlAssist
