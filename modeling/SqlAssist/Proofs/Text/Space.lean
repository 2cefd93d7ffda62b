import SqlAssist.Proofs.Text.Characters
import SqlAssist.Proofs.Text.Runs

/-!
# White space

A text is white space only (`IsBlank`), or it is a run of it (`IsGap`). White space is skipped at the
start of a text and dropped at its end, and what is blanked becomes white space. With single spaces
each run is one space; `spaceInduction` goes through a text as that is done, character by character
and run by run.
-/

namespace SqlAssist

/-! ### Runs of white space -/

/-- White space, or nothing. -/
def IsBlank (t : Text) : Prop := ∀ c ∈ t, Text.isSpace c = true

/-- A run of white space. -/
def IsGap (t : Text) : Prop := t ≠ [] ∧ IsBlank t

instance (t : Text) : Decidable (IsBlank t) :=
  decidable_of_iff (t.all Text.isSpace = true) List.all_eq_true

instance (t : Text) : Decidable (IsGap t) :=
  decidable_of_iff ((!t.isEmpty && t.all Text.isSpace) = true) (by simp [IsGap, IsBlank])

theorem IsBlank.nil : IsBlank [] := fun _ h => absurd h List.not_mem_nil

theorem IsBlank.cons {c : Char} {t : Text} (hc : Text.isSpace c = true) (h : IsBlank t) :
    IsBlank (c :: t) := List.forall_mem_cons.mpr ⟨hc, h⟩

namespace IsGap

variable {w : Text}

/-- A run starts with white space. -/
theorem exists_cons (h : IsGap w) :
    ∃ c v, w = c :: v ∧ Text.isSpace c = true ∧ IsBlank v := by
  obtain ⟨c, v, rfl⟩ := List.exists_cons_of_ne_nil h.1
  exact ⟨c, v, rfl, h.2 c List.mem_cons_self, fun d hd => h.2 d (List.mem_cons_of_mem c hd)⟩

theorem head?_isSpace (hw : IsGap w) (r : Text) : (w ++ r).head?.any Text.isSpace = true := by
  obtain ⟨c, v, rfl, hc, -⟩ := hw.exists_cons
  exact hc

theorem getLast?_any {p : Char → Bool} {g : Text} (hg : IsGap g)
    (hp : ∀ c, Text.isSpace c = true → p c = false) (u : Text) : (u ++ g).getLast?.any p = false := by
  rw [List.getLast?_append_of_ne_nil u hg.1, List.getLast?_eq_getLast_of_ne_nil hg.1]
  exact hp _ (hg.2 _ (List.getLast_mem hg.1))

theorem trimStart_append (hw : IsGap w) (r : Text) :
    Text.trimStart (w ++ r) = Text.trimStart r :=
  List.dropWhile_append_of_pos hw.2

end IsGap

namespace Text

variable {c : Char} {b s t w : Text}

theorem exists_isGap_append (h : t.head?.any isSpace = true) : ∃ g, IsGap g ∧ t = g ++ t.trimStart := by
  refine ⟨t.takeWhile isSpace, ⟨?_, fun c hc => List.mem_takeWhile_imp hc⟩,
    List.takeWhile_append_dropWhile.symm⟩
  cases t with
  | nil => cases h
  | cons c r =>
    have hc : isSpace c = true := h
    rw [List.takeWhile_cons_of_pos hc]
    exact List.cons_ne_nil _ _

theorem trimStart_cons_of_isSpace (hc : isSpace c = true) (t : Text) :
    trimStart (c :: t) = trimStart t :=
  List.dropWhile_cons_of_pos hc

/-- A text that starts with white space is a run and what follows it. -/
theorem exists_run (hc : isSpace c = true) (t : Text) :
    ∃ w, IsGap w ∧ c :: t = w ++ t.trimStart := by
  obtain ⟨w, hw, ht⟩ := exists_isGap_append (t := c :: t) (by simpa using hc)
  rw [trimStart_cons_of_isSpace hc] at ht
  exact ⟨w, hw, ht⟩

/-- What starts with white space in a text that ends in white space lies there. -/
theorem suffix_of_head?_isSpace {z : Text} (hw : ∀ c ∈ w, isSpace c = false) (hz : z <:+ w ++ b)
    (hhead : z.head?.any isSpace = true) : z <:+ b := by
  rcases List.suffix_or_suffix_of_suffix hz (List.suffix_append w b) with h | ⟨v, rfl⟩
  · exact h
  · cases v with
    | nil => exact List.suffix_rfl
    | cons c v =>
      obtain ⟨u, hu⟩ := hz
      have hmem : c ∈ w := by
        rw [← List.append_assoc] at hu
        rw [← List.append_cancel_right hu]
        simp
      rw [List.cons_append, List.head?_cons, Option.any_some, hw c hmem] at hhead
      cases hhead

theorem upper_of_isBlank {w : Text} (h : IsBlank w) : upper w = w := by
  induction w with
  | nil => rfl
  | cons c w ih =>
    obtain ⟨hc, hw⟩ := List.forall_mem_cons.mp h
    rw [upper, List.flatMap_cons, upperChar_of_isSpace hc]
    exact congrArg (c :: ·) (ih hw)

/-! ### Blanked texts -/

theorem isSpace_of_isLineBreak (h : isLineBreak c = true) : isSpace c = true := by
  rcases Bool.or_eq_true_iff.mp h with h | h <;> rw [of_decide_eq_true h] <;> decide

theorem isSpace_blankChar (c : Char) : isSpace (blankChar c) = true := by
  rw [blankChar]
  split_ifs with h
  · exact isSpace_of_isLineBreak h
  · decide

theorem isPathChar_blankChar (c : Char) : isPathChar (blankChar c) = false :=
  isPathChar_eq_false_of_isSpace (isSpace_blankChar c)

theorem blankChar_eq_feed_iff {c : Char} : blankChar c = '\n' ↔ c = '\n' := by
  rw [blankChar]
  split_ifs with h
  · exact Iff.rfl
  · refine ⟨fun hspace => absurd hspace (by decide), ?_⟩
    rintro rfl
    exact absurd rfl h

theorem blankChar_blankChar (c : Char) : blankChar (blankChar c) = blankChar c := by
  cases h : isLineBreak c with
  | false =>
    have hblank : blankChar c = ' ' := if_neg (by simp [h])
    rw [hblank]
    rfl
  | true =>
    have hbreak : blankChar c = c := if_pos h
    rw [hbreak, hbreak]

theorem blank_blank (t : Text) : blank (blank t) = blank t := by
  rw [blank, blank, List.map_map]
  exact List.map_congr_left fun c _ => blankChar_blankChar c

theorem blank_breaks (h : ∀ c ∈ t, isLineBreak c = true) : blank t = t :=
  (List.map_congr_left (g := id) fun c hc => if_pos (h c hc)).trans (List.map_id t)

theorem isBlank_blank (t : Text) : IsBlank (blank t) := by
  intro c hc
  obtain ⟨d, -, rfl⟩ := List.mem_map.mp hc
  exact isSpace_blankChar d

theorem takeWhileEnd_blank (t : Text) : takeWhileEnd isPathChar (blank t) = [] := by
  rw [takeWhileEnd_eq_nil_iff, blank, List.getLast?_map]
  cases t.getLast? with
  | none => rfl
  | some c => exact isPathChar_blankChar c

theorem dropFinalBreak_blank (t : Text) : dropFinalBreak (blank t) = blank (dropFinalBreak t) := by
  have hlast : (blank t).getLast? = some '\n' ↔ t.getLast? = some '\n' := by
    rw [blank, List.getLast?_map, Option.map_eq_some_iff]
    simp only [blankChar_eq_feed_iff, exists_eq_right]
  rw [dropFinalBreak, dropFinalBreak]
  by_cases h : t.getLast? = some '\n'
  · rw [if_pos h, if_pos (hlast.mpr h), blank, blank, List.map_dropLast]
  · rw [if_neg h, if_neg (mt hlast.mp h)]

/-! ### Trimming -/

theorem trimStart_append (s t : Text) :
    (s ++ t).trimStart = if s.trimStart = [] then t.trimStart else s.trimStart ++ t := by
  rw [trimStart, trimStart, trimStart, List.dropWhile_append]
  simp only [List.isEmpty_iff]

theorem length_trimStart_eq_iff (t : Text) :
    t.trimStart.length = t.length ↔ t.head?.any isSpace = false := by
  cases t with
  | nil => simp [trimStart]
  | cons c r =>
    rw [trimStart, List.dropWhile_cons]
    have := (List.dropWhile_suffix isSpace (l := r)).length_le
    split_ifs with hc
    · simp [hc]
      omega
    · simp [hc]

theorem trimStart_of_not_space (h : t.head?.any isSpace = false) : t.trimStart = t :=
  List.IsSuffix.eq_of_length (List.dropWhile_suffix _) ((length_trimStart_eq_iff t).mpr h)

theorem trimStart_eq_self_of_prefix (h : s <+: t.trimStart) : s.trimStart = s := by
  cases s with
  | nil => rfl
  | cons c s =>
    obtain ⟨r, hr⟩ := h
    have hc := head?_dropWhile isSpace t
    rw [← trimStart, ← hr] at hc
    exact List.dropWhile_cons_of_neg (by simpa using hc)

theorem trimEnd_cons (c : Char) (t : Text) :
    trimEnd (c :: t) = if isSpace c = true ∧ trimEnd t = [] then [] else c :: trimEnd t := by
  rw [trimEnd, trimEnd, dropWhileEnd, dropWhileEnd, List.reverse_cons, List.dropWhile_append]
  by_cases h : List.dropWhile isSpace t.reverse = []
  · by_cases hc : isSpace c = true <;> simp [h, hc]
  · simp [h]

/-- Trimming goes back to the last character that is not white space at most. -/
theorem trimEnd_append_cons (u : Text) (hc : isSpace c = false) (t : Text) :
    trimEnd (u ++ c :: t) = u ++ c :: trimEnd t := by
  induction u with
  | nil => rw [List.nil_append, List.nil_append, trimEnd_cons, if_neg (by simp [hc])]
  | cons d u ih => rw [List.cons_append, trimEnd_cons, ih, if_neg (by simp), List.cons_append]

theorem trimEnd_append (u v : Text) :
    trimEnd (u ++ v) = if trimEnd v = [] then trimEnd u else u ++ trimEnd v := by
  induction u with
  | nil => split_ifs with hv <;> simp [hv]; rfl
  | cons c u ih =>
    rw [List.cons_append, trimEnd_cons, ih, trimEnd_cons]
    split_ifs <;> simp_all

theorem trim_trim (t : Text) : t.trim.trim = t.trim := by
  have hstart : t.trim.trimStart = t.trim :=
    trimStart_eq_self_of_prefix (List.rdropWhile_prefix isSpace t.trimStart)
  rw [trim, hstart]
  exact List.rdropWhile_idempotent isSpace t.trimStart

/-- A text is trimmed away if it is blank, and only then. -/
theorem trim_ne_nil_iff : t.trim ≠ [] ↔ ∃ c ∈ t, isSpace c = false := by
  have hstart : (∀ c ∈ t.trimStart, isSpace c = true) ↔ ∀ c ∈ t, isSpace c = true := by
    constructor
    · intro h c hc
      rw [← List.takeWhile_append_dropWhile (p := isSpace) (l := t)] at hc
      rcases List.mem_append.mp hc with hc | hc
      · exact List.mem_takeWhile_imp hc
      · exact h c hc
    · intro h c hc
      exact h c ((List.dropWhile_suffix isSpace).subset hc)
  have hblank : t.trim = [] ↔ ∀ c ∈ t, isSpace c = true := List.rdropWhile_eq_nil_iff.trans hstart
  rw [ne_eq, hblank]
  simp

theorem trim_of_no_space (h : ∀ c ∈ t, isSpace c = false) : trim t = t := by
  have hstart : trimStart t = t := by
    refine trimStart_of_not_space ?_
    cases t with
    | nil => rfl
    | cons c t => exact h c List.mem_cons_self
  rw [trim, hstart]
  clear hstart
  induction t with
  | nil => rfl
  | cons c t ih =>
    obtain ⟨hc, ht⟩ := List.forall_mem_cons.mp h
    rw [trimEnd_cons, ih ht, if_neg (by simp [hc])]

/-! ### Single spaces -/

theorem collapseFrom_true (t : Text) : collapseFrom true t = collapseSpace t.trimStart := by
  induction t with
  | nil => rfl
  | cons c t ih =>
    cases hc : isSpace c with
    | true => simp only [collapseFrom, hc, if_true, ih, trimStart, List.dropWhile_cons_of_pos]
    | false => simp [collapseFrom, collapseSpace, trimStart, hc]

theorem collapseSpace_cons_of_isSpace (hc : isSpace c = true) (t : Text) :
    collapseSpace (c :: t) = ' ' :: collapseSpace t.trimStart := by
  rw [collapseSpace, collapseFrom, if_pos hc, ← collapseFrom_true]
  rfl

theorem collapseSpace_cons (hc : isSpace c = false) (t : Text) :
    collapseSpace (c :: t) = c :: collapseSpace t := by
  rw [collapseSpace, collapseFrom, if_neg (by simp [hc])]
  rfl

theorem collapseFrom_append (b : Bool) (x t : Text) :
    collapseFrom b (x ++ t) =
      collapseFrom b x ++ collapseFrom (x.foldl (fun _ c => isSpace c) b) t := by
  induction x generalizing b with
  | nil => rfl
  | cons c x ih =>
    rw [List.cons_append, collapseFrom, collapseFrom, List.foldl_cons]
    split_ifs with hc hb
    · rw [ih, hc]
    · rw [ih, hc, List.cons_append]
    · rw [ih, Bool.eq_false_iff.mpr hc, List.cons_append]

/-- What is left of white space when each run becomes one space. -/
theorem collapseFrom_blank_append (b : Bool) {w : Text} (hw : IsBlank w) (r : Text) :
    collapseFrom b (w ++ r) =
      if w = [] then collapseFrom b r
      else if b then collapseFrom true r else ' ' :: collapseFrom true r := by
  induction w generalizing b with
  | nil => rfl
  | cons c w ih =>
    obtain ⟨hc, hw⟩ := List.forall_mem_cons.mp hw
    rw [List.cons_append, collapseFrom, if_pos hc, ih true hw]
    simp

theorem collapseSpace_run (hw : IsGap w) (h : s.head?.any isSpace = false) :
    collapseSpace (w ++ s) = ' ' :: collapseSpace s := by
  obtain ⟨c, v, rfl, hc, hv⟩ := hw.exists_cons
  rw [List.cons_append, collapseSpace_cons_of_isSpace hc, trimStart, dropWhile_append_stop hv h]

/-- With single spaces the first character of a text is the same, or a space for white space. -/
theorem collapseSpace_eq_cons {d : Char} (h : t.collapseSpace = d :: s) :
    (∃ r, t = d :: r ∧ isSpace d = false ∧ collapseSpace r = s) ∨
      ∃ c r, t = c :: r ∧ isSpace c = true ∧ d = ' ' ∧ collapseSpace (trimStart r) = s := by
  cases t with
  | nil => cases h
  | cons c r =>
    cases hc : isSpace c with
    | false =>
      rw [collapseSpace_cons hc] at h
      obtain ⟨rfl, hr⟩ := List.cons.inj h
      exact Or.inl ⟨r, rfl, hc, hr⟩
    | true =>
      rw [collapseSpace_cons_of_isSpace hc] at h
      obtain ⟨hd, hr⟩ := List.cons.inj h
      exact Or.inr ⟨c, r, rfl, hc, hd.symm, hr⟩

/-- A text begins with a character that is not white space, or with white space and the rest behind
it. -/
theorem spaceInduction {motive : Text → Prop} (nil : motive [])
    (char : ∀ (c : Char) (t : Text), isSpace c = false → motive t → motive (c :: t))
    (space : ∀ (c : Char) (t : Text), isSpace c = true → motive (trimStart t) → motive (c :: t))
    (t : Text) : motive t := by
  induction hn : t.length using Nat.strong_induction_on generalizing t with
  | _ n ih =>
    cases t with
    | nil => exact nil
    | cons c t =>
      subst hn
      cases hc : isSpace c with
      | false => exact char c t hc (ih _ (Nat.lt_succ_self _) t rfl)
      | true =>
        have hle : (trimStart t).length ≤ List.length t := (List.dropWhile_suffix _).length_le
        exact space c t hc (ih _ (Nat.lt_succ_of_le hle) _ rfl)

end Text

end SqlAssist
