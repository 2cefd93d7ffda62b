import SqlAssist.Proofs.Lists
import SqlAssist.Proofs.Text.UpperCase
import SqlAssist.Proofs.Text.Words
import SqlAssist.Sql.Clause
import SqlAssist.Sql.Resolution

/-!
# Texts of a different layout

Two texts are `Alike` when they are equal but for some runs of white space and for
the contents of some groups in parentheses. What may stand for what is left open:
`gap` is what a run may be, `inner` what the contents of a group may be. The
relation is used twice. Before masking, a group may hold any balanced text; behind
it, white space only.

Everything that is read off a masked text is read off a text alike with the same
result, as long as white space stands for white space (`Relaid`): words begin in
the same places, keywords are followed by texts alike (`afterKeywords?_relaid`),
names and aliases are the same (`read?_relaid`), and so are the clause
(`classify_alike`) and the tables (`ofText_relaid`). A list of tables is read with
a bound on its length, which the length of the text gives; the lengths of two texts
alike differ, so the bound is shown not to matter on the way.
-/

namespace SqlAssist

/-! ### The relation -/

/-- The texts are equal but for some runs with the property `gap` and some groups
whose contents have the property `inner`. -/
inductive Alike (gap inner : Text → Prop) : Text → Text → Prop where
  /-- Nothing is like nothing. -/
  | nil : Alike gap inner [] []
  /-- The same character in front. -/
  | cons {s t : Text} (c : Char) : Alike gap inner s t → Alike gap inner (c :: s) (c :: t)
  /-- A run in front. -/
  | gap {s t w w' : Text} : gap w → gap w' → Alike gap inner s t → Alike gap inner (w ++ s) (w' ++ t)
  /-- A group in front. -/
  | group {s t x x' : Text} : inner x → inner x' → Alike gap inner s t →
      Alike gap inner ('(' :: (x ++ ')' :: s)) ('(' :: (x' ++ ')' :: t))

/-- The texts differ in white space only: in the length of some runs, and in what
stands between some parentheses that hold nothing else. -/
abbrev Relaid : Text → Text → Prop := Alike IsGap IsBlank

namespace Alike

variable {gap inner : Text → Prop} {s t : Text}

theorem refl (gap inner : Text → Prop) (t : Text) : Alike gap inner t t := by
  induction t with
  | nil => exact .nil
  | cons c t ih => exact .cons c ih

theorem append_left (u : Text) (h : Alike gap inner s t) : Alike gap inner (u ++ s) (u ++ t) := by
  induction u with
  | nil => exact h
  | cons c u ih => exact .cons c ih

theorem append {s' t' : Text} (h : Alike gap inner s t) (h' : Alike gap inner s' t') :
    Alike gap inner (s ++ s') (t ++ t') := by
  induction h with
  | nil => exact h'
  | cons c _ ih => exact .cons c ih
  | gap hw hw' _ ih =>
    rw [List.append_assoc, List.append_assoc]
    exact .gap hw hw' ih
  | group hx hx' _ ih =>
    simp only [List.cons_append, List.append_assoc]
    exact .group hx hx' ih

theorem symm (h : Alike gap inner s t) : Alike gap inner t s := by
  induction h with
  | nil => exact .nil
  | cons c _ ih => exact .cons c ih
  | gap hw hw' _ ih => exact .gap hw' hw ih
  | group hx hx' _ ih => exact .group hx' hx ih

end Alike

/-! ### Runs of characters -/

section Runs

variable {gap : Text → Prop} {s t : Text} {p : Char → Bool}

/-- A property of characters that neither white space nor parentheses have. -/
structure WithinWords (p : Char → Bool) : Prop where
  /-- White space does not have it. -/
  space : ∀ c, Text.isSpace c = true → p c = false
  /-- The parenthesis that opens a group does not. -/
  group : p '(' = false
  /-- The one that closes it does not. -/
  close : p ')' = false

theorem withinWords_isWordChar : WithinWords Text.isWordChar :=
  ⟨fun _ => Text.isWordChar_eq_false_of_isSpace, by decide, by decide⟩

theorem withinWords_isNameChar : WithinWords Text.isNameChar :=
  ⟨fun _ => Text.isNameChar_eq_false_of_isSpace, by decide, by decide⟩

theorem withinWords_isPathChar : WithinWords Text.isPathChar :=
  ⟨fun _ => Text.isPathChar_eq_false_of_isSpace, by decide, by decide⟩

/-- Texts alike start with the same word, and go on alike. -/
theorem Alike.takeWhile_dropWhile (hg : ∀ w, gap w → IsGap w) (hp : WithinWords p)
    (h : Alike gap IsBlank s t) :
    s.takeWhile p = t.takeWhile p ∧ Alike gap IsBlank (s.dropWhile p) (t.dropWhile p) := by
  induction h with
  | nil => exact ⟨rfl, .nil⟩
  | cons c h ih =>
    rw [List.takeWhile_cons, List.takeWhile_cons, List.dropWhile_cons, List.dropWhile_cons]
    split_ifs
    · exact ⟨by rw [ih.1], ih.2⟩
    · exact ⟨rfl, .cons c h⟩
  | gap hw hw' h _ =>
    obtain ⟨c, v, rfl, hc, hv⟩ := (hg _ hw).exists_cons
    obtain ⟨c', v', rfl, hc', hv'⟩ := (hg _ hw').exists_cons
    have hpc := hp.space c hc
    have hpc' := hp.space c' hc'
    simp only [List.cons_append, List.takeWhile_cons, List.dropWhile_cons, hpc, hpc']
    exact ⟨rfl, .gap hw hw' h⟩
  | group hx hx' h _ =>
    simp only [List.takeWhile_cons, List.dropWhile_cons, hp.group]
    exact ⟨rfl, .group hx hx' h⟩

theorem Alike.trimStart (hg : ∀ w, gap w → IsGap w) (h : Alike gap IsBlank s t) :
    Alike gap IsBlank s.trimStart t.trimStart := by
  unfold Text.trimStart
  induction h with
  | nil => exact .nil
  | cons c h ih =>
    rw [List.dropWhile_cons, List.dropWhile_cons]
    split_ifs
    · exact ih
    · exact .cons c h
  | gap hw hw' _ ih =>
    rw [List.dropWhile_append_of_pos (hg _ hw).2, List.dropWhile_append_of_pos (hg _ hw').2]
    exact ih
  | group hx hx' h _ =>
    rw [List.dropWhile_cons_of_neg (by decide), List.dropWhile_cons_of_neg (by decide)]
    exact .group hx hx' h

/-- Texts alike both start with white space or both do not. -/
theorem Alike.head?_isSpace (hg : ∀ w, gap w → IsGap w) (h : Alike gap IsBlank s t) :
    s.head?.any Text.isSpace = t.head?.any Text.isSpace := by
  cases h with
  | nil => rfl
  | cons c _ => rfl
  | gap hw hw' _ =>
    obtain ⟨c, v, rfl, hc, -⟩ := (hg _ hw).exists_cons
    obtain ⟨c', v', rfl, hc', -⟩ := (hg _ hw').exists_cons
    simp [hc, hc']
  | group _ _ _ => rfl

theorem Alike.eq_nil_iff {inner : Text → Prop} (hg : ∀ w, gap w → IsGap w)
    (h : Alike gap inner s t) : s = [] ↔ t = [] := by
  cases h with
  | nil => exact Iff.rfl
  | cons _ _ => simp
  | gap hw hw' _ => simp [(hg _ hw).1, (hg _ hw').1]
  | group _ _ _ => simp

/-- A character that is neither white space nor opens a group stands in both texts. -/
theorem Alike.exists_cons (hg : ∀ w, gap w → IsGap w) {c : Char} (hc : Text.isSpace c = false)
    (ho : c ≠ '(') (h : Alike gap IsBlank (c :: s) t) :
    ∃ u, t = c :: u ∧ Alike gap IsBlank s u := by
  generalize hs : c :: s = s' at h
  cases h with
  | nil => cases hs
  | cons d h =>
    cases hs
    exact ⟨_, rfl, h⟩
  | gap hw _ _ =>
    obtain ⟨d, v, rfl, hd, -⟩ := (hg _ hw).exists_cons
    cases hs
    rw [hc] at hd
    cases hd
  | group _ _ _ =>
    cases hs
    exact absurd rfl ho

/-- Such a character starts both texts, or neither. -/
theorem Alike.peel (hg : ∀ w, gap w → IsGap w) {c : Char} (hc : Text.isSpace c = false)
    (ho : c ≠ '(') (h : Alike gap IsBlank s t) :
    (∃ u v, s = c :: u ∧ t = c :: v ∧ Alike gap IsBlank u v) ∨
      (s.head? ≠ some c ∧ t.head? ≠ some c) := by
  by_cases hs : s.head? = some c
  · obtain ⟨u, rfl⟩ := List.head?_eq_some_iff.mp hs
    obtain ⟨v, rfl, huv⟩ := h.exists_cons hg hc ho
    exact Or.inl ⟨u, v, rfl, rfl, huv⟩
  · refine Or.inr ⟨hs, fun ht => hs ?_⟩
    obtain ⟨v, rfl⟩ := List.head?_eq_some_iff.mp ht
    obtain ⟨u, rfl, -⟩ := h.symm.exists_cons hg hc ho
    rfl

end Runs

/-! ### Words -/

namespace Text

variable {gap : Text → Prop} {s t : Text}

/-- A group of white space holds no words. -/
theorem wordStartsFrom_group {x : Text} (hx : IsBlank x) (b : Bool) (r : Text) :
    wordStartsFrom b ('(' :: (x ++ ')' :: r)) = wordStarts r := by
  have hgroup : ∀ c ∈ '(' :: (x ++ [')']), isWordChar c = false := by
    refine List.forall_mem_cons.mpr ⟨by decide, List.forall_mem_append.mpr ⟨fun c hc => ?_, ?_⟩⟩
    · exact isWordChar_eq_false_of_isSpace (hx c hc)
    · exact List.forall_mem_singleton.mpr (by decide)
  have := wordStartsFrom_no_word_append (List.cons_ne_nil _ _) hgroup b r
  rwa [List.cons_append, List.append_assoc, List.singleton_append] at this

/-- Words of texts alike start in corresponding places. -/
theorem wordStarts_alike (hg : ∀ w, gap w → IsGap w) (h : Alike gap IsBlank s t) :
    List.Forall₂ (Alike gap IsBlank) s.wordStarts t.wordStarts := by
  unfold wordStarts
  generalize false = b
  induction h generalizing b with
  | nil => exact .nil
  | cons c h ih =>
    rw [wordStartsFrom, wordStartsFrom]
    split_ifs
    · exact .cons (.cons c h) (ih true)
    · exact ih _
  | gap hw hw' _ ih =>
    rw [wordStartsFrom_gap_append (hg _ hw), wordStartsFrom_gap_append (hg _ hw')]
    exact ih false
  | group hx hx' _ ih =>
    rw [wordStartsFrom_group hx, wordStartsFrom_group hx']
    exact ih false

theorem firstWord_alike (hg : ∀ w, gap w → IsGap w) (h : Alike gap IsBlank s t) :
    s.firstWord = t.firstWord :=
  (h.takeWhile_dropWhile hg withinWords_isWordChar).1

/-- Keywords at the start of texts alike are followed by texts alike. -/
theorem afterKeywords?_relaid (ks : List Text) (h : Relaid s t) :
    Option.Rel Relaid (afterKeywords? ks s) (afterKeywords? ks t) := by
  induction ks generalizing s t with
  | nil => exact .some h
  | cons k ks ih =>
    have hd := (h.takeWhile_dropWhile (fun _ => id) withinWords_isWordChar).2
    rw [afterKeywords?, afterKeywords?, firstWord_alike (fun _ => id) h, afterWord, afterWord,
      hd.head?_isSpace fun _ => id]
    split_ifs
    · exact ih (hd.trimStart fun _ => id)
    · exact .none

theorem afterEachKeywords_relaid (ks : List Text) (h : Relaid s t) :
    List.Forall₂ Relaid (afterEachKeywords ks s) (afterEachKeywords ks t) :=
  List.rel_filterMap (fun _ _ hr => afterKeywords?_relaid ks hr)
    (wordStarts_alike (fun _ => id) h)

theorem upper_alike (hg : ∀ w, gap w → IsGap w) (h : Alike gap IsBlank s t) :
    Alike gap IsBlank s.upper t.upper := by
  induction h with
  | nil => exact .nil
  | cons c _ ih => exact ih.append_left (upperChar c)
  | gap hw hw' _ ih =>
    rw [upper_append, upper_append, upper_of_isBlank (hg _ hw).2, upper_of_isBlank (hg _ hw').2]
    exact .gap hw hw' ih
  | group hx hx' _ ih =>
    rw [upper_cons, upper_cons, upper_append, upper_append, upper_of_isBlank hx,
      upper_of_isBlank hx', upper_cons, upper_cons]
    exact .group hx hx' ih

end Text

/-! ### Clauses -/

namespace Text

variable {s t : Text}

/-- No run of white space differs, but groups may. -/
abbrev SameGaps : Text → Text → Prop := Alike (fun _ => False) IsBlank

/-- A space or nothing is left between the parentheses of a group of white space. -/
theorem exists_collapseFrom_group (b : Bool) {x : Text} (hx : IsBlank x) (r : Text) :
    ∃ y, IsBlank y ∧
      collapseFrom b ('(' :: (x ++ ')' :: r)) = '(' :: (y ++ ')' :: collapseFrom false r) := by
  have ho : collapseFrom b ('(' :: (x ++ ')' :: r)) = '(' :: collapseFrom false (x ++ ')' :: r) := rfl
  have hc : ∀ b, collapseFrom b (')' :: r) = ')' :: collapseFrom false r := fun _ => rfl
  rw [ho, collapseFrom_blank_append false hx, hc, hc]
  by_cases h : x = []
  · exact ⟨[], IsBlank.nil, by rw [if_pos h]; rfl⟩
  · exact ⟨[' '], IsBlank.nil.cons (by decide), by rw [if_neg h]; rfl⟩

theorem collapseSpace_alike (h : Relaid s t) : SameGaps s.collapseSpace t.collapseSpace := by
  unfold collapseSpace
  generalize false = b
  induction h generalizing b with
  | nil => exact .nil
  | cons c _ ih =>
    rw [collapseFrom, collapseFrom]
    split_ifs
    · exact ih true
    · exact .cons ' ' (ih true)
    · exact .cons c (ih false)
  | gap hw hw' _ ih =>
    rw [collapseFrom_blank_append b hw.2, collapseFrom_blank_append b hw'.2, if_neg hw.1,
      if_neg hw'.1]
    split_ifs
    · exact ih true
    · exact .cons ' ' (ih true)
  | @group s t x x' hx hx' _ ih =>
    obtain ⟨y, hy, e⟩ := exists_collapseFrom_group b hx s
    obtain ⟨y', hy', e'⟩ := exists_collapseFrom_group b hx' t
    rw [e, e']
    exact .group hy hy' (ih false)

theorem trimEnd_alike (h : SameGaps s t) : SameGaps s.trimEnd t.trimEnd := by
  induction h with
  | nil => exact .nil
  | @cons s t c h ih =>
    have hnil := ih.eq_nil_iff fun _ => False.elim
    simp only [trimEnd_cons, hnil]
    split_ifs
    · exact .nil
    · exact .cons c ih
  | gap hw _ _ => exact hw.elim
  | @group s t x x' hx hx' _ ih =>
    have e := trimEnd_append_cons ('(' :: x) (show isSpace ')' = false by decide) s
    have e' := trimEnd_append_cons ('(' :: x') (show isSpace ')' = false by decide) t
    rw [List.cons_append, List.cons_append] at e e'
    rw [e, e']
    exact .group hx hx' ih

end Text

namespace Level

/-- A clause keyword starts both of two texts alike or neither. -/
theorem startsClause_relaid {s t : Text} (h : Relaid s t) : startsClause s = startsClause t := by
  have hword := Text.firstWord_alike (fun _ => id) h
  have hby : ∀ ks, (Text.afterKeywords? ks s).any (fun r => Text.isKeyword "BY".toList r.firstWord) =
      (Text.afterKeywords? ks t).any (fun r => Text.isKeyword "BY".toList r.firstWord) := by
    intro ks
    have hr := Text.afterKeywords?_relaid ks h
    generalize Text.afterKeywords? ks s = o at hr ⊢
    generalize Text.afterKeywords? ks t = o' at hr ⊢
    cases hr with
    | none => rfl
    | some hr => simp [Text.firstWord_alike (fun _ => id) hr]
  simp only [startsClause, hword, hby]

theorem any_startsClause_relaid {s t : Text} (h : Relaid s t) :
    s.wordStarts.any startsClause = t.wordStarts.any startsClause := by
  have := map_eq_map_of_forall₂ (Text.wordStarts_alike (fun _ => id) h)
    fun _ _ => startsClause_relaid
  simpa [List.any_map] using congrArg (List.any · id) this

end Level

namespace Clause

variable {s t : Text}

theorem normalize_alike (h : Relaid s t) : Text.SameGaps (normalize s) (normalize t) :=
  Text.upper_alike (fun _ => False.elim)
    (Text.trimEnd_alike ((Text.collapseSpace_alike h).trimStart fun _ => False.elim))

theorem ofKeyword?_alike (h : Text.SameGaps s t) : ofKeyword? s = ofKeyword? t := by
  have hword := Text.firstWord_alike (fun _ => False.elim) h
  have hafter : Text.SameGaps s.afterWord t.afterWord :=
    (h.takeWhile_dropWhile (fun _ => False.elim) withinWords_isWordChar).2
  rw [ofKeyword?, ofKeyword?, hword]
  generalize s.afterWord = u at hafter ⊢
  generalize t.afterWord = v at hafter ⊢
  cases hafter with
  | nil => rfl
  | cons c hr =>
    by_cases hc : c = ' '
    · subst hc
      simp only [Text.firstWord_alike (fun _ => False.elim) hr]
    · simp [hc]
  | gap hw _ _ => exact hw.elim
  | group _ _ _ => rfl

/-- Texts alike are in the same clause. -/
theorem classify_alike (h : Relaid s t) : classify s = classify t := by
  have hmap := map_eq_map_of_forall₂ (Text.wordStarts_alike (fun _ => False.elim) (normalize_alike h))
    fun _ _ => ofKeyword?_alike
  have hkeys := congrArg (List.filterMap id) hmap
  rw [List.filterMap_map, List.filterMap_map] at hkeys
  rw [classify, classify, keywords, keywords]
  exact congrArg (fun ks => ((ks.foldl addTo []).getLast?).getD absent) hkeys

theorem all_isSpace_relaid (h : Relaid s t) : s.all Text.isSpace = t.all Text.isSpace := by
  induction h with
  | nil => rfl
  | cons c _ ih => rw [List.all_cons, List.all_cons, ih]
  | gap hw hw' _ ih =>
    rw [List.all_append, List.all_append, List.all_eq_true.mpr hw.2, List.all_eq_true.mpr hw'.2, ih]
  | group _ _ _ => rfl

theorem isTargetOnly_relaid (h : Relaid s t) : isTargetOnly s = isTargetOnly t := by
  obtain ⟨hword, hrest⟩ := h.takeWhile_dropWhile (fun _ => id) withinWords_isPathChar
  rw [isTargetOnly, isTargetOnly, hword, all_isSpace_relaid hrest]

/-- `INSERT INTO` and a name end both of two texts alike or neither. -/
theorem any_isTargetOnly_relaid (h : Relaid s t) :
    (Text.afterEachKeywords insertWords s).any isTargetOnly =
      (Text.afterEachKeywords insertWords t).any isTargetOnly := by
  have := map_eq_map_of_forall₂ (Text.afterEachKeywords_relaid insertWords h)
    fun _ _ => isTargetOnly_relaid
  simpa [List.any_map] using congrArg (List.any · id) this

end Clause

/-! ### Targets -/

namespace Target

variable {s t : Text}

/-- The same was read off two texts, and what follows is alike. -/
def SameRead {α : Type} (a b : α × Text) : Prop := a.1 = b.1 ∧ Relaid a.2 b.2

theorem SameRead.exists_eq {α : Type} {a b : α × Text} (h : SameRead a b) :
    ∃ x r r', a = (x, r) ∧ b = (x, r') ∧ Relaid r r' := by
  obtain ⟨x, r⟩ := a
  obtain ⟨y, r'⟩ := b
  obtain ⟨rfl, hr⟩ : x = y ∧ Relaid r r' := h
  exact ⟨x, r, r', rfl, rfl, hr⟩

theorem moreParts_of_head?_ne {t : Text} (h : t.head? ≠ some '.') (n : Nat) :
    moreParts n t = ([], t) := by
  cases n with
  | zero => rfl
  | succ n =>
    cases t with
    | nil => rfl
    | cons c r =>
      have hc : c ≠ '.' := fun e => h (by rw [e]; rfl)
      simp [moreParts, hc]

/-- Parts of a dotted name, as many as there are: the bound on their number does not matter. -/
theorem moreParts_relaid (h : Relaid s t) (n m : Nat) (hn : s.length ≤ n) (hm : t.length ≤ m) :
    SameRead (moreParts n s) (moreParts m t) := by
  induction n generalizing s t m with
  | zero =>
    obtain rfl : s = [] := List.length_eq_zero_iff.mp (by omega)
    obtain rfl := (h.eq_nil_iff fun _ => id).mp rfl
    cases m <;> exact ⟨rfl, .nil⟩
  | succ n ih =>
    rcases h.peel (fun _ => id) (show Text.isSpace '.' = false by decide) (by decide) with
      ⟨r, r', rfl, rfl, hr⟩ | ⟨hs, ht⟩
    · obtain ⟨m, rfl⟩ : ∃ k, m = k + 1 := ⟨m - 1, by simp at hm; omega⟩
      obtain ⟨hpart, hrest⟩ := hr.takeWhile_dropWhile (fun _ => id) withinWords_isNameChar
      simp only [moreParts, hpart]
      split_ifs with he
      · exact ⟨rfl, .cons '.' hr⟩
      · have hl := (List.dropWhile_suffix Text.isNameChar (l := r)).length_le
        have hl' := (List.dropWhile_suffix Text.isNameChar (l := r')).length_le
        simp only [List.length_cons] at hn hm
        obtain ⟨h1, h2⟩ := ih hrest m (by omega) (by omega)
        exact ⟨by rw [h1], h2⟩
    · rw [moreParts_of_head?_ne hs, moreParts_of_head?_ne ht]
      exact ⟨rfl, h⟩

theorem readName?_relaid (h : Relaid s t) : Option.Rel SameRead (readName? s) (readName? t) := by
  obtain ⟨hpart, hrest⟩ := h.takeWhile_dropWhile (fun _ => id) withinWords_isNameChar
  obtain ⟨hmore, hend⟩ := moreParts_relaid hrest _ _ (Nat.le_refl _) (Nat.le_refl _)
  simp only [readName?, hpart]
  split_ifs
  · exact .none
  · exact .some ⟨by rw [hmore], hend⟩

theorem readSpacedName?_relaid (h : Relaid s t) :
    Option.Rel SameRead (readSpacedName? s) (readSpacedName? t) := by
  obtain ⟨hpart, hrest⟩ :=
    (h.trimStart fun _ => id).takeWhile_dropWhile (fun _ => id) withinWords_isNameChar
  simp only [readSpacedName?, hpart, Text.length_trimStart_eq_iff, h.head?_isSpace fun _ => id]
  split_ifs
  · exact .none
  · exact .some ⟨rfl, hrest⟩

theorem readAlias?_relaid (h : Relaid s t) : Option.Rel SameRead (readAlias? s) (readAlias? t) := by
  have hs := readSpacedName?_relaid h
  rw [readAlias?, readAlias?]
  generalize readSpacedName? s = o at hs ⊢
  generalize readSpacedName? t = o' at hs ⊢
  cases hs with
  | none => exact .none
  | some hab =>
    obtain ⟨word, rest, rest', rfl, rfl, hrest⟩ := hab.exists_eq
    simp only
    split_ifs
    · have hs' := readSpacedName?_relaid hrest
      generalize readSpacedName? rest = o at hs' ⊢
      generalize readSpacedName? rest' = o' at hs' ⊢
      cases hs' with
      | none => exact .some ⟨rfl, hrest⟩
      | some hab => exact .some hab
    · exact .some ⟨rfl, hrest⟩

theorem withAlias_relaid (name : Option Text) (h : Relaid s t) :
    SameRead (withAlias name s) (withAlias name t) := by
  have ha := readAlias?_relaid h
  rw [withAlias, withAlias]
  generalize readAlias? s = o at ha ⊢
  generalize readAlias? t = o' at ha ⊢
  cases ha with
  | none => exact ⟨rfl, h⟩
  | some hab =>
    obtain ⟨word, rest, rest', rfl, rfl, hrest⟩ := hab.exists_eq
    exact ⟨rfl, hrest⟩

theorem readNamed?_relaid (h : Relaid s t) : Option.Rel SameRead (readNamed? s) (readNamed? t) := by
  have hn := readName?_relaid h
  rw [readNamed?, readNamed?]
  generalize readName? s = o at hn ⊢
  generalize readName? t = o' at hn ⊢
  cases hn with
  | none => exact .none
  | some hab =>
    obtain ⟨name, rest, rest', rfl, rfl, hrest⟩ := hab.exists_eq
    exact .some (withAlias_relaid (some name) hrest)

theorem afterGroup?_of_head?_ne {t : Text} (h : t.head? ≠ some '(') : afterGroup? t = none := by
  cases t with
  | nil => rfl
  | cons c r =>
    have hc : c ≠ '(' := fun e => h (by rw [e]; rfl)
    simp [afterGroup?, hc]

theorem afterGroup?_of_trimStart {r : Text} (h : r.trimStart.head? ≠ some ')') :
    afterGroup? ('(' :: r) = none := by
  rw [afterGroup?]
  split
  · next e => exact absurd (by rw [e]; rfl) h
  · rfl

theorem afterGroup?_group {x : Text} (hx : IsBlank x) (r : Text) :
    afterGroup? ('(' :: (x ++ ')' :: r)) = some r := by
  have hp : Text.isSpace ')' = false := by decide
  rw [afterGroup?, Text.trimStart, List.dropWhile_append_of_pos hx,
    List.dropWhile_cons_of_neg (by simp [hp])]
  rfl

theorem afterGroup?_relaid (h : Relaid s t) : Option.Rel Relaid (afterGroup? s) (afterGroup? t) := by
  cases h with
  | nil => exact .none
  | @cons s t c hr =>
    by_cases hc : c = '('
    · subst hc
      rcases (hr.trimStart fun _ => id).peel (fun _ => id) (show Text.isSpace ')' = false by decide)
        (by decide) with ⟨u, v, hu, hv, huv⟩ | ⟨hu, hv⟩
      · rw [afterGroup?, afterGroup?, hu, hv]
        exact .some huv
      · rw [afterGroup?_of_trimStart hu, afterGroup?_of_trimStart hv]
        exact .none
    · rw [afterGroup?_of_head?_ne (by simpa using hc), afterGroup?_of_head?_ne (by simpa using hc)]
      exact .none
  | gap hw hw' hr =>
    obtain ⟨c, v, rfl, hc, -⟩ := hw.exists_cons
    obtain ⟨c', v', rfl, hc', -⟩ := hw'.exists_cons
    have hne := Text.ne_of_isSpace hc (show Text.isSpace '(' = false by decide)
    have hne' := Text.ne_of_isSpace hc' (show Text.isSpace '(' = false by decide)
    rw [afterGroup?_of_head?_ne (by simpa using hne), afterGroup?_of_head?_ne (by simpa using hne')]
    exact .none
  | group hx hx' hr =>
    rw [afterGroup?_group hx, afterGroup?_group hx']
    exact .some hr

/-- Texts alike start with the same target, and go on alike. -/
theorem read?_relaid (h : Relaid s t) : Option.Rel SameRead (read? s) (read? t) := by
  have hn := readNamed?_relaid h
  have hg := afterGroup?_relaid h
  rw [read?, read?]
  generalize readNamed? s = o at hn ⊢
  generalize readNamed? t = o' at hn ⊢
  cases hn with
  | some hab => exact .some hab
  | none =>
    generalize afterGroup? s = o at hg ⊢
    generalize afterGroup? t = o' at hg ⊢
    cases hg with
    | none => exact .none
    | some hr => exact .some (withAlias_relaid none hr)

theorem afterComma?_of_head?_ne {t : Text} (h : t.trimStart.head? ≠ some ',') :
    afterComma? t = none := by
  rw [afterComma?]
  split
  · next e => exact absurd (by rw [e]; rfl) h
  · rfl

theorem afterComma?_relaid (h : Relaid s t) : Option.Rel Relaid (afterComma? s) (afterComma? t) := by
  rcases (h.trimStart fun _ => id).peel (fun _ => id) (show Text.isSpace ',' = false by decide)
    (by decide) with ⟨u, v, hu, hv, huv⟩ | ⟨hu, hv⟩
  · rw [afterComma?, afterComma?, hu, hv]
    exact .some (huv.trimStart fun _ => id)
  · rw [afterComma?_of_head?_ne hu, afterComma?_of_head?_ne hv]
    exact .none

/-! ### Lists of targets -/

theorem length_moreParts_le (n : Nat) (t : Text) : (moreParts n t).2.length ≤ t.length := by
  fun_induction moreParts n t with
  | case1 => exact Nat.le_refl _
  | case2 n r part hp more rest e ih =>
    have := (List.dropWhile_suffix Text.isNameChar (l := r)).length_le
    rw [e] at ih
    simp only [List.length_cons] at ih ⊢
    omega
  | case3 => exact Nat.le_refl _

theorem length_readName?_le {t name rest : Text} (h : readName? t = some (name, rest)) :
    rest.length ≤ t.length := by
  rw [readName?] at h
  split_ifs at h
  obtain ⟨-, rfl⟩ : _ ∧ (moreParts _ _).2 = rest := by simpa using h
  exact Nat.le_trans (length_moreParts_le _ _) (List.dropWhile_suffix Text.isNameChar).length_le

theorem length_readSpacedName?_le {t word rest : Text} (h : readSpacedName? t = some (word, rest)) :
    rest.length ≤ t.length := by
  rw [readSpacedName?] at h
  split_ifs at h
  obtain ⟨-, rfl⟩ : _ ∧ t.trimStart.dropWhile Text.isNameChar = rest := by simpa using h
  exact ((List.dropWhile_suffix _).trans (List.dropWhile_suffix _)).length_le

theorem length_readAlias?_le {t word rest : Text} (h : readAlias? t = some (word, rest)) :
    rest.length ≤ t.length := by
  rw [readAlias?] at h
  split at h
  · cases h
  · next w r e =>
    have hr := length_readSpacedName?_le e
    split_ifs at h
    · rcases Option.or_eq_some_iff.mp h with h | ⟨-, h⟩
      · exact Nat.le_trans (length_readSpacedName?_le h) hr
      · cases h
        exact hr
    · cases h
      exact hr

theorem length_withAlias_le (name : Option Text) (t : Text) :
    (withAlias name t).2.length ≤ t.length := by
  rw [withAlias]
  split
  · next e => exact length_readAlias?_le e
  · exact Nat.le_refl _

theorem length_afterGroup?_le {t rest : Text} (h : afterGroup? t = some rest) :
    rest.length ≤ t.length := by
  cases t with
  | nil => cases h
  | cons c r =>
    by_cases hc : c = '('
    · subst hc
      have hr := (List.dropWhile_suffix Text.isSpace (l := r)).length_le
      by_cases hp : (Text.trimStart r).head? = some ')'
      · obtain ⟨u, hu⟩ := List.head?_eq_some_iff.mp hp
        rw [afterGroup?, hu] at h
        cases h
        rw [Text.trimStart] at hu
        rw [hu] at hr
        simp only [List.length_cons] at hr ⊢
        omega
      · rw [afterGroup?_of_trimStart hp] at h
        cases h
    · rw [afterGroup?_of_head?_ne (by simpa using hc)] at h
      cases h

/-- What follows a target is no longer than the text that starts with it. -/
theorem length_read?_le {t rest : Text} {target : Target} (h : read? t = some (target, rest)) :
    rest.length ≤ t.length := by
  rw [read?] at h
  split at h
  · next r e =>
    obtain ⟨⟨name, u⟩, hn, rfl⟩ := Option.map_eq_some_iff.mp e
    have := length_withAlias_le (some name) u
    rw [Option.some.injEq] at h
    simp only [h] at this
    exact Nat.le_trans this (length_readName?_le hn)
  · obtain ⟨u, hg, e⟩ := Option.map_eq_some_iff.mp h
    have := length_withAlias_le none u
    rw [e] at this
    exact Nat.le_trans this (length_afterGroup?_le hg)

/-- Each comma makes the list shorter. -/
theorem length_afterComma?_lt {t rest : Text} (h : afterComma? t = some rest) :
    rest.length < t.length := by
  have ht := (List.dropWhile_suffix Text.isSpace (l := t)).length_le
  by_cases hc : t.trimStart.head? = some ','
  · obtain ⟨u, hu⟩ := List.head?_eq_some_iff.mp hc
    have hu' := (List.dropWhile_suffix Text.isSpace (l := u)).length_le
    rw [afterComma?, hu] at h
    cases h
    rw [Text.trimStart] at hu
    rw [hu] at ht
    rw [Text.trimStart]
    simp only [List.length_cons] at ht
    omega
  · rw [afterComma?_of_head?_ne hc] at h
    cases h

/-- Texts alike start with the same list of targets: the bound on its length does not matter. -/
theorem readList_relaid (h : Relaid s t) (n m : Nat) (hn : s.length < n) (hm : t.length < m) :
    readList n s = readList m t := by
  induction n generalizing s t m with
  | zero => omega
  | succ n ih =>
    obtain ⟨m, rfl⟩ : ∃ k, m = k + 1 := ⟨m - 1, by omega⟩
    have hread := read?_relaid h
    rw [readList, readList]
    generalize hs : read? s = o at hread ⊢
    generalize ht : read? t = o' at hread ⊢
    cases hread with
    | none => rfl
    | some hab =>
      obtain ⟨target, rest, rest', rfl, rfl, hrest⟩ := hab.exists_eq
      have hls := length_read?_le hs
      have hlt := length_read?_le ht
      have hcomma := afterComma?_relaid hrest
      simp only
      generalize hcs : afterComma? rest = o at hcomma ⊢
      generalize hct : afterComma? rest' = o' at hcomma ⊢
      split_ifs
      · rfl
      · cases hcomma with
        | none => rfl
        | some hr =>
          have hlcs := length_afterComma?_lt hcs
          have hlct := length_afterComma?_lt hct
          simp only [ih hr m (by omega) (by omega)]

end Target

/-! ### Tables -/

namespace Resolution

variable {s t : Text}

theorem targetsAt_relaid (h : Relaid s t) : targetsAt s = targetsAt t := by
  have hfrom := Text.afterKeywords?_relaid ["FROM".toList] h
  have hjoin := Text.afterKeywords?_relaid ["JOIN".toList] h
  rw [targetsAt, targetsAt]
  generalize Text.afterKeywords? ["FROM".toList] s = o at hfrom ⊢
  generalize Text.afterKeywords? ["FROM".toList] t = o' at hfrom ⊢
  generalize Text.afterKeywords? ["JOIN".toList] s = p at hjoin ⊢
  generalize Text.afterKeywords? ["JOIN".toList] t = p' at hjoin ⊢
  cases hfrom with
  | some hr => exact Target.readList_relaid hr _ _ (Nat.lt_succ_self _) (Nat.lt_succ_self _)
  | none =>
    cases hjoin with
    | none => rfl
    | @some r r' hr =>
      have hread := Target.read?_relaid hr
      simp only
      generalize Target.read? r = o at hread ⊢
      generalize Target.read? r' = o' at hread ⊢
      cases hread with
      | none => rfl
      | some hab => simp [hab.1]

theorem targets_relaid (h : Relaid s t) : targets s = targets t := by
  have := map_eq_map_of_forall₂ (Text.wordStarts_alike (fun _ => id) h) fun _ _ => targetsAt_relaid
  rw [targets, targets, List.flatMap_def, List.flatMap_def, this]

theorem map_fst_of_rel {α : Type} {o o' : Option (α × Text)} (h : Option.Rel Target.SameRead o o') :
    o.map (·.1) = o'.map (·.1) := by
  cases h with
  | none => rfl
  | some hab => exact congrArg some hab.1

theorem findSome?_map_fst {α : Type} {f : Text → Option (α × Text)} {l l' : List Text}
    (h : List.Forall₂ Relaid l l')
    (hf : ∀ a b, Relaid a b → Option.Rel Target.SameRead (f a) (f b)) :
    l.findSome? (fun r => (f r).map (·.1)) = l'.findSome? (fun r => (f r).map (·.1)) := by
  induction h with
  | nil => rfl
  | cons hr _ ih => rw [List.findSome?_cons, List.findSome?_cons, map_fst_of_rel (hf _ _ hr), ih]

theorem updated?_relaid (h : Relaid s t) : updated? s = updated? t :=
  findSome?_map_fst (Text.afterEachKeywords_relaid _ h) fun _ _ => Target.readNamed?_relaid

theorem firstName?_relaid (ks : List Text) (h : Relaid s t) : firstName? ks s = firstName? ks t :=
  findSome?_map_fst (Text.afterEachKeywords_relaid ks h) fun _ _ => Target.readName?_relaid

/-- Texts that differ in white space only refer to the same tables. -/
theorem ofText_relaid (h : Relaid s t) : ofText s = ofText t := by
  rw [ofText, ofText, targets_relaid h, updated?_relaid h, firstName?_relaid _ h,
    firstName?_relaid _ h]

end Resolution

end SqlAssist
