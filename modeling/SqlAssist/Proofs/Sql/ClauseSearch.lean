import SqlAssist.Proofs.Sql.KeywordRuns
import SqlAssist.Proofs.Sql.Layout
import SqlAssist.Proofs.Sql.Subquery
import SqlAssist.Proofs.Text.WordCapitals

/-!
# The search for a clause and its classification

Two rules look for clause keywords. The search stops at the nearest level that holds one, read off
the level's text whatever its case. The classification goes through the keywords of that text in
capitals with single spaces, and drops an `ON` without a `JOIN` and a `SET` without an `UPDATE`.

Word by word the two read the same keywords, but for `ON`, which the search does not look for
(`startsClause_iff`). So the search stops exactly at a level with a keyword other than `ON`
(`hasClause_iff`). The classification finds nothing there if all the keywords are a `SET` that
introduces nothing, and then the cursor is in no clause although a level further out has one
(`search_stops_without_clause`). **`detect_eq_absent_iff`** says that this is the only way.

The rules read words, in capitals or not. The few characters whose capitals make other words of a
text are left out (`Legible`).
-/

namespace SqlAssist

namespace Text

variable {t : Text}

/-! ### Single spaces -/

/-- The text with single spaces and none at its end. -/
def tidy (t : Text) : Text :=
  trimEnd t.collapseSpace

theorem tidy_cons {c : Char} (hc : isSpace c = false) (t : Text) : tidy (c :: t) = c :: tidy t := by
  rw [tidy, collapseSpace_cons hc, trimEnd_cons, if_neg (by simp [hc])]
  rfl

theorem tidy_cons_of_isSpace {c : Char} (hc : isSpace c = true) (t : Text) :
    tidy (c :: t) = if tidy t.trimStart = [] then [] else ' ' :: tidy t.trimStart := by
  have hspace : isSpace ' ' = true := by decide
  rw [tidy, collapseSpace_cons_of_isSpace hc, trimEnd_cons]
  simp only [hspace, true_and]
  rfl

theorem mem_of_mem_tidy {c : Char} (h : c ∈ tidy t) : c ∈ t ∨ c = ' ' := by
  induction t using spaceInduction with
  | nil => exact absurd h List.not_mem_nil
  | char d t hd ih =>
    rw [tidy_cons hd] at h
    rcases List.mem_cons.mp h with rfl | h
    · exact Or.inl List.mem_cons_self
    · exact (ih h).imp_left (List.mem_cons_of_mem d)
  | space d t hd ih =>
    rw [tidy_cons_of_isSpace hd] at h
    split_ifs at h
    · exact absurd h List.not_mem_nil
    · rcases List.mem_cons.mp h with h | h
      · exact Or.inr h
      · exact (ih h).imp_left fun hmem =>
          List.mem_cons_of_mem d ((List.dropWhile_suffix _).subset hmem)

theorem Steady.tidy (h : Steady t) : Steady (tidy t) := by
  intro c hc
  rcases mem_of_mem_tidy hc with hc | rfl
  · exact h c hc
  · exact fun d hd => List.mem_singleton.mp hd ▸ rfl

theorem wordStartsFrom_tidy (b : Bool) (t : Text) :
    wordStartsFrom b (tidy t) = (wordStartsFrom b t).map tidy := by
  induction t using spaceInduction generalizing b with
  | nil => rfl
  | char c t hc ih =>
    rw [tidy_cons hc, wordStartsFrom, wordStartsFrom]
    split_ifs
    · rw [List.map_cons, ih, tidy_cons hc]
    · exact ih _
  | space c t hc ih =>
    have hleft : wordStartsFrom b (tidy (c :: t)) = wordStartsFrom false (tidy (trimStart t)) := by
      rw [tidy_cons_of_isSpace hc]
      split_ifs with hnil
      · rw [hnil]
        rfl
      · rfl
    have hright : wordStartsFrom b (c :: t) = wordStartsFrom false (trimStart t) := by
      rw [wordStartsFrom, isWordChar_eq_false_of_isSpace hc]
      exact (wordStarts_trimStart t).symm
    rw [hleft, hright, ih]

theorem firstWord_tidy (t : Text) : (tidy t).firstWord = t.firstWord := by
  induction t using spaceInduction with
  | nil => rfl
  | char c t hc ih =>
    rw [tidy_cons hc, firstWord, firstWord, List.takeWhile_cons, List.takeWhile_cons]
    split_ifs
    · exact congrArg (c :: ·) ih
    · rfl
  | space c t hc _ =>
    rw [tidy_cons_of_isSpace hc, firstWord, firstWord,
      List.takeWhile_cons_of_neg (by simp [isWordChar_eq_false_of_isSpace hc])]
    split_ifs <;> rfl

theorem afterWord_tidy (t : Text) : (tidy t).afterWord = tidy t.afterWord := by
  induction t using spaceInduction with
  | nil => rfl
  | char c t hc ih =>
    rw [tidy_cons hc, afterWord, afterWord, List.dropWhile_cons, List.dropWhile_cons]
    split_ifs
    · exact ih
    · exact (tidy_cons hc t).symm
  | space c t hc _ =>
    have hright : afterWord (c :: t) = c :: t :=
      List.dropWhile_cons_of_neg (by simp [isWordChar_eq_false_of_isSpace hc])
    rw [hright, tidy_cons_of_isSpace hc, afterWord]
    split_ifs <;> rfl

end Text

/-! ### The keywords of a text -/

namespace Clause

open Text

variable {t u w k x : Text} {c : Clause}

theorem normalize_eq (t : Text) : normalize t = upper (tidy t.trimStart) := by
  have hcollapse : t.collapseSpace.trimStart = t.trimStart.collapseSpace := by
    induction t using spaceInduction with
    | nil => rfl
    | char c t hc _ => simp [trimStart, collapseSpace, collapseFrom, hc]
    | space c t hc ih =>
      have hspace : isSpace ' ' = true := by decide
      have htwice : trimStart (trimStart t) = trimStart t := List.dropWhile_idempotent isSpace t
      rw [htwice] at ih
      rw [collapseSpace_cons_of_isSpace hc, trimStart_cons_of_isSpace hspace,
        trimStart_cons_of_isSpace hc]
      exact ih
  rw [normalize, trim, hcollapse]
  rfl

/-- The search and the classification read the same words as keywords: each word stays one word in
capitals, and none is a keyword only because its `İ` counts as an `I`. -/
structure Legible (t : Text) : Prop where
  /-- The words of the capitals are those of the text. -/
  steady : Steady t
  /-- No keyword is spelled with a dotted `İ`. -/
  dotless : ∀ w ∈ words t, 'İ' ∈ w → ∀ k ∈ keywordWords, isKeyword k w = false

instance (t : Text) : Decidable (Legible t) :=
  decidable_of_iff (Steady t ∧ ∀ w ∈ words t, 'İ' ∈ w → ∀ k ∈ keywordWords, isKeyword k w = false)
    ⟨fun h => ⟨h.1, h.2⟩, fun h => ⟨h.1, h.2⟩⟩

theorem isPlainKeyword_of_mem : ∀ k ∈ keywordWords, IsPlainKeyword k := by decide

/-- A word is a keyword for the search if it is one for the classification. -/
theorem Legible.isKeyword_iff (h : Legible t) (hw : w ∈ words t) (hk : k ∈ keywordWords) :
    isKeyword k w = true ↔ w.upper = k := by
  by_cases hdotted : 'İ' ∈ w
  · rw [h.dotless w hw hdotted k hk]
    refine iff_of_false Bool.false_ne_true ?_
    rintro rfl
    have hmem : 'İ' ∈ w.upper :=
      List.mem_flatMap.mpr ⟨'İ', hdotted, by decide⟩
    exact absurd ((isPlainKeyword_of_mem _ hk).letters _ hmem).1 (by decide)
  · exact isKeyword_iff_upper_eq (isPlainKeyword_of_mem k hk) hdotted

/-! #### One keyword -/

/-- A text starts with the keyword of a clause if its first word is the name of the clause, with a
`BY` behind some names. -/
theorem ofKeyword?_eq_some_iff : ofKeyword? t = some c ↔
    (c ∈ ofWords ∧ c.name.toList = t.firstWord) ∨
      (c ∈ ofByWords ∧ c.name.toList = t.firstWord ∧ startsBy t.afterWord = true) := by
  have hfind : ∀ l ∈ [ofWords, ofByWords], ∀ (w : Text) (c : Clause),
      l.find? (·.name.toList == w) = some c ↔ c ∈ l ∧ c.name.toList = w := by
    have hinj : ∀ l ∈ [ofWords, ofByWords], ∀ a ∈ l, l.find? (·.name.toList == a.name.toList) = some a := by
      decide
    intro l hl w c
    constructor
    · intro h
      have hname := List.find?_some h
      exact ⟨List.mem_of_find?_eq_some h, beq_iff_eq.mp hname⟩
    · rintro ⟨hc, rfl⟩
      exact hinj l hl c hc
  have hapart : ∀ a ∈ ofByWords, ∀ b ∈ ofWords, b.name.toList ≠ a.name.toList := by decide
  rw [ofKeyword?_eq, Option.or_eq_some_iff, hfind ofWords (by simp)]
  refine or_congr Iff.rfl ?_
  constructor
  · rintro ⟨-, h⟩
    split_ifs at h with hby
    obtain ⟨hc, hname⟩ := (hfind ofByWords (by simp) _ _).mp h
    exact ⟨hc, hname, hby⟩
  · rintro ⟨hc, hname, hby⟩
    refine ⟨List.find?_eq_none.mpr fun b hb e => ?_, ?_⟩
    · exact hapart c hc b hb ((beq_iff_eq.mp e).trans hname.symm)
    · rw [if_pos hby]
      exact (hfind ofByWords (by simp) _ _).mpr ⟨hc, hname⟩

/-- A `BY` follows a space in the tidy capitals if it follows white space in the text. -/
theorem startsBy_upper_tidy (h : Steady t) : startsBy (upper (tidy t)) =
    (t.head?.any isSpace && decide (upper (trimStart t).firstWord = "BY".toList)) := by
  cases t with
  | nil => rfl
  | cons c t =>
    cases hc : isSpace c with
    | true =>
      have hsteady : Steady (trimStart t) :=
        h.suffix ((List.dropWhile_suffix _).trans (List.suffix_cons c t))
      have hword : firstWord (upper (tidy (trimStart t))) = upper (firstWord (trimStart t)) := by
        rw [hsteady.tidy.firstWord_upper, firstWord_tidy]
      have hhead : (c :: t).head?.any isSpace = true := hc
      rw [trimStart_cons_of_isSpace hc, hhead, Bool.true_and, ← hword, tidy_cons_of_isSpace hc]
      split_ifs with hnil
      · rw [hnil]
        decide
      · rfl
    | false =>
      obtain ⟨d, ds, hd⟩ := List.exists_cons_of_ne_nil (upperChar_ne_nil c)
      have hspace : isSpace d = false :=
        (isSpace_of_mem_upperChar (hd ▸ List.mem_cons_self)).trans hc
      have hne : d ≠ ' ' := by
        rintro rfl
        exact absurd hspace (by decide)
      have hhead : (c :: t).head?.any isSpace = false := hc
      rw [hhead, Bool.false_and, tidy_cons hc, upper_cons, hd, List.cons_append]
      simp [startsBy, hne]

/-- The keywords that the search knows, in the terms of the classification. -/
theorem startsClause_eq_true_iff (x : Text) : Level.startsClause x = true ↔
    (∃ c ∈ ofWords, c ≠ on ∧ isKeyword c.name.toList x.firstWord = true) ∨
      ∃ c ∈ ofByWords, isKeyword c.name.toList x.firstWord = true ∧
        x.afterWord.head?.any isSpace = true ∧
          isKeyword "BY".toList (firstWord (trimStart x.afterWord)) = true := by
  have hin : ∀ k ∈ Level.clauseWords, ∃ c ∈ ofWords, c ≠ on ∧ c.name.toList = k := by decide
  have hout : ∀ c ∈ ofWords, c ≠ on → c.name.toList ∈ Level.clauseWords := by decide
  have hbys : [["GROUP".toList], ["ORDER".toList]] = ofByWords.map fun c => [c.name.toList] := by decide
  rw [Level.startsClause, Bool.or_eq_true, List.any_eq_true, hbys, List.any_map, List.any_eq_true]
  refine or_congr ?_ ?_
  · constructor
    · rintro ⟨k, hk, hword⟩
      obtain ⟨c, hc, hne, rfl⟩ := hin k hk
      exact ⟨c, hc, hne, hword⟩
    · rintro ⟨c, hc, hne, hword⟩
      exact ⟨_, hout c hc hne, hword⟩
  · refine exists_congr fun c => and_congr_right fun _ => ?_
    simp only [Function.comp_apply, afterKeywords?]
    split_ifs with hif
    · rw [Bool.and_eq_true] at hif
      simp [hif.1, hif.2]
    · rw [Bool.and_eq_true] at hif
      simp only [Option.any_none, Bool.false_eq_true, false_iff]
      exact fun h => hif ⟨h.1, h.2.1⟩

/-- **One keyword**: a word of a legible text starts a keyword for the search exactly if it starts
one other than `ON` for the classification. -/
theorem startsClause_iff (h : Legible t) (hx : x ∈ t.wordStarts) :
    Level.startsClause x = true ↔ ∃ c, ofKeyword? (upper (tidy x)) = some c ∧ c ≠ on := by
  obtain ⟨⟨v, rfl⟩, -⟩ := suffix_of_mem_wordStarts hx
  have hsteady : Steady x := h.steady.suffix (List.suffix_append v x)
  have hword : firstWord (upper (tidy x)) = upper x.firstWord := by
    rw [hsteady.tidy.firstWord_upper, firstWord_tidy]
  have hafter : afterWord (upper (tidy x)) = upper (tidy x.afterWord) := by
    rw [hsteady.tidy.afterWord_upper, afterWord_tidy]
  have hkey : ∀ k ∈ keywordWords, (isKeyword k x.firstWord = true ↔ x.firstWord.upper = k) :=
    fun k hk => h.isKeyword_iff (List.mem_map_of_mem hx) hk
  have hby : x.afterWord.head?.any isSpace = true →
      (isKeyword "BY".toList (firstWord (trimStart x.afterWord)) = true ↔
        upper (firstWord (trimStart x.afterWord)) = "BY".toList) := by
    intro hspace
    by_cases hne : firstWord (trimStart x.afterWord) = []
    · rw [hne]
      decide
    · exact h.isKeyword_iff (firstWord_mem_words hspace hne v) (by decide)
  have hstartsBy : startsBy (upper (tidy x.afterWord)) = true ↔
      x.afterWord.head?.any isSpace = true ∧
        isKeyword "BY".toList (firstWord (trimStart x.afterWord)) = true := by
    have hrest : Steady x.afterWord := hsteady.suffix (List.dropWhile_suffix _)
    rw [startsBy_upper_tidy hrest, Bool.and_eq_true, decide_eq_true_eq]
    exact and_congr_right fun hspace => (hby hspace).symm
  have hone : ∀ c ∈ ofWords, c.name.toList ∈ keywordWords := by decide
  have htwo : ∀ c ∈ ofByWords, c.name.toList ∈ keywordWords ∧ c ≠ on := by decide
  rw [startsClause_eq_true_iff]
  simp only [ofKeyword?_eq_some_iff, hword, hafter, hstartsBy]
  constructor
  · rintro (⟨c, hc, hne, hw⟩ | ⟨c, hc, hw, hrest⟩)
    · exact ⟨c, Or.inl ⟨hc, ((hkey _ (hone c hc)).mp hw).symm⟩, hne⟩
    · exact ⟨c, Or.inr ⟨hc, ((hkey _ (htwo c hc).1).mp hw).symm, hrest⟩, (htwo c hc).2⟩
  · rintro ⟨c, ⟨hc, hw⟩ | ⟨hc, hw, hrest⟩, hne⟩
    · exact Or.inl ⟨c, hc, hne, (hkey _ (hone c hc)).mpr hw.symm⟩
    · exact Or.inr ⟨c, hc, (hkey _ (htwo c hc).1).mpr hw.symm, hrest⟩

/-! ### The keywords of a level -/

/-- The keywords of the normalized text are those of the words of the text. -/
theorem occurrences_normalize (h : Steady t) :
    occurrences (normalize t) = t.wordStarts.filterMap fun x => ofKeyword? (upper (tidy x)) := by
  have hsteady : Steady t.trimStart := h.suffix (List.dropWhile_suffix _)
  rw [normalize_eq, occurrences, hsteady.tidy.wordStarts_upper, List.filterMap_map, wordStarts,
    wordStartsFrom_tidy, List.filterMap_map]
  exact congrArg (List.filterMap _) (wordStarts_trimStart t)

/-- The search stops at a level that holds a keyword other than `ON`. -/
theorem hasClause_iff {l : Level} (h : Legible l.masked) :
    l.hasClause = true ↔ ∃ c ∈ occurrences (normalize l.masked), c ≠ on := by
  rw [Level.hasClause, List.any_eq_true, occurrences_normalize h.steady]
  constructor
  · rintro ⟨x, hx, hstarts⟩
    obtain ⟨c, hc, hne⟩ := (startsClause_iff h hx).mp hstarts
    exact ⟨c, List.mem_filterMap.mpr ⟨x, hx, hc⟩, hne⟩
  · rintro ⟨c, hc, hne⟩
    obtain ⟨x, hx, hc⟩ := List.mem_filterMap.mp hc
    exact ⟨x, hx, (startsClause_iff h hx).mpr ⟨c, hc, hne⟩⟩

theorem hasClause_eq_false_iff {l : Level} (h : Legible l.masked) :
    l.hasClause = false ↔ ∀ c ∈ occurrences (normalize l.masked), c = on := by
  rw [Bool.eq_false_iff, ne_eq, hasClause_iff h]
  push Not
  rfl

theorem foldl_addTo_ne_nil {seen : List Clause} (h : seen ≠ []) (l : List Clause) :
    l.foldl addTo seen ≠ [] := by
  induction l generalizing seen with
  | nil => exact h
  | cons c l ih =>
    refine ih ?_
    rw [addTo]
    split_ifs
    · exact h
    · simp

/-- The classification finds no clause in a text whose keywords are all `ON` and `SET`. -/
theorem keywords_eq_nil_iff (t : Text) :
    keywords t = [] ↔ ∀ c ∈ occurrences t, c = on ∨ c = set := by
  rw [keywords_eq]
  generalize occurrences t = l
  induction l with
  | nil => simp
  | cons c l ih =>
    rw [List.foldl_cons, List.forall_mem_cons]
    by_cases hc : c = on ∨ c = set
    · have hadd : addTo [] c = [] := by rcases hc with rfl | rfl <;> rfl
      rw [hadd]
      exact ih.trans ⟨fun h => ⟨hc, h⟩, fun h => h.2⟩
    · have hadd : addTo [] c = [c] := by
        rw [not_or] at hc
        simp [addTo, hc.1, hc.2]
      rw [hadd]
      exact iff_of_false (foldl_addTo_ne_nil (List.cons_ne_nil c []) l) fun h => hc h.1

/-- A keyword that introduces a clause is the name of one. -/
theorem mem_of_mem_keywords (h : c ∈ keywords t) : c ∈ ofWords ++ ofByWords := by
  have hfold : ∀ (l seen : List Clause), ∀ c ∈ l.foldl addTo seen, c ∈ seen ∨ c ∈ l := by
    intro l
    induction l with
    | nil => exact fun seen c h => Or.inl h
    | cons d l ih =>
      intro seen c h
      rcases ih _ c h with h | h
      · rw [addTo] at h
        split_ifs at h
        · exact Or.inl h
        · rcases List.mem_append.mp h with h | h
          · exact Or.inl h
          · exact Or.inr (List.mem_singleton.mp h ▸ List.mem_cons_self)
      · exact Or.inr (List.mem_cons_of_mem d h)
  have hocc := (hfold _ _ c h).resolve_left List.not_mem_nil
  obtain ⟨x, -, hx⟩ := List.mem_filterMap.mp hocc
  rcases ofKeyword?_eq_some_iff.mp hx with h | h
  · exact List.mem_append_left _ h.1
  · exact List.mem_append_right _ h.1

/-- The clause of a text is the name of one, or no keyword introduces one. -/
theorem classify_eq (t : Text) : (classify t = absent ∧ keywords (normalize t) = []) ∨
    classify t ∈ ofWords ++ ofByWords := by
  rw [classify]
  cases hlast : (keywords (normalize t)).getLast? with
  | none => exact Or.inl ⟨rfl, List.getLast?_eq_none_iff.mp hlast⟩
  | some c => exact Or.inr (mem_of_mem_keywords (List.mem_of_getLast? hlast))

theorem classify_eq_absent_iff (t : Text) : classify t = absent ↔ keywords (normalize t) = [] := by
  constructor
  · intro h
    refine ((classify_eq t).resolve_right fun hmem => ?_).2
    rw [h] at hmem
    exact absurd hmem (by decide)
  · intro h
    rw [classify, h]
    rfl

end Clause

/-! ### The levels of a statement -/

namespace Level

/-- The search ends at the first level with a clause, or at the outermost one. -/
theorem effective_spec (s : Text) (d : Nat) :
    ∃ k ≤ d, (atDepth s d).effective = atDepth s k ∧
      (∀ j, k < j → j ≤ d → (atDepth s j).hasClause = false) ∧
        ((atDepth s k).hasClause = true ∨ k = 0) := by
  rw [effective_atDepth]
  induction d with
  | zero => exact ⟨0, Nat.le_refl 0, rfl, fun j hj hj' => absurd hj' (Nat.not_le.mpr hj), Or.inr rfl⟩
  | succ d ih =>
    rw [effectiveFrom_atDepth_succ]
    split_ifs with h
    · exact ⟨d + 1, Nat.le_refl _, rfl, fun j hj hj' => absurd hj' (Nat.not_le.mpr hj), Or.inl h⟩
    · obtain ⟨k, hk, e, hnone, hclause⟩ := ih
      refine ⟨k, Nat.le_succ_of_le hk, e, fun j hj hj' => ?_, hclause⟩
      rcases Nat.of_le_succ hj' with hj' | rfl
      · exact hnone j hj hj'
      · exact Bool.eq_false_iff.mpr h

end Level

namespace Clause

open Level

/-- The text holds a `SET`, and all its keywords introduce nothing. -/
def HasBareSet (t : Text) : Prop :=
  set ∈ occurrences (normalize t) ∧ keywords (normalize t) = []

/-- **The search and the classification agree but for a bare `SET`**: in a statement whose levels are
legible, the cursor is in no clause exactly if it is not in a column list and either no level at or
around it has a keyword that introduces a clause, or the search stops at a level with a `SET` that
introduces nothing, as no level inside it holds a keyword other than `ON`. -/
theorem detect_eq_absent_iff {s : Text}
    (h : ∀ k ≤ Paren.depth s, Legible (atDepth s k).masked) :
    (detect (atCursor s)).1 = absent ↔ isColumnList (atCursor s) = false ∧
      ((∀ k ≤ Paren.depth s, keywords (normalize (atDepth s k).masked) = []) ∨
        ∃ k ≤ Paren.depth s, HasBareSet (atDepth s k).masked ∧
          ∀ j, k < j → j ≤ Paren.depth s →
            ∀ c ∈ occurrences (normalize (atDepth s j).masked), c = on) := by
  rw [atCursor_eq]
  cases hcol : isColumnList (atDepth s (Paren.depth s)) with
  | true => simp [detect, hcol]
  | false =>
    obtain ⟨k, hk, heffective, hnone, hclause⟩ := effective_spec s (Paren.depth s)
    have hwithout := fun j hj => hasClause_eq_false_iff (h j hj)
    rw [detect_of_not_columnList hcol, heffective, classify_eq_absent_iff]
    simp only [true_and]
    constructor
    · intro hempty
      by_cases hk' : (atDepth s k).hasClause = true
      · obtain ⟨c, hc, hne⟩ := (hasClause_iff (h k hk)).mp hk'
        obtain rfl := ((keywords_eq_nil_iff _).mp hempty c hc).resolve_left hne
        exact Or.inr ⟨k, hk, ⟨hc, hempty⟩, fun j hj hj' => (hwithout j hj').mp (hnone j hj hj')⟩
      · obtain rfl := hclause.resolve_left hk'
        refine Or.inl fun j hj => (keywords_eq_nil_iff _).mpr fun c hc => Or.inl ?_
        refine (hwithout j hj).mp ?_ c hc
        rcases Nat.eq_zero_or_pos j with rfl | hpos
        · exact Bool.eq_false_iff.mpr hk'
        · exact hnone j hpos hj
    · rintro (hall | ⟨k', hk', hbare, hinner⟩)
      · exact hall k hk
      · have hstop : (atDepth s k').hasClause = true :=
          (hasClause_iff (h k' hk')).mpr ⟨set, hbare.1, by decide⟩
        rcases Nat.lt_trichotomy k k' with hlt | rfl | hlt
        · rw [hnone k' hlt hk'] at hstop
          cases hstop
        · exact hbare.2
        · have hskip := (hwithout k hk).mpr (hinner k hlt hk)
          rcases hclause with hclause | rfl
          · rw [hskip] at hclause
            cases hclause
          · exact absurd hlt (Nat.not_lt_zero k')

/-- A call in a condition whose argument list starts with a `SET`. -/
theorem detect_eq_absent_in_call :
    (∀ k ≤ Paren.depth "SELECT a FROM t WHERE f(SET ".toList,
      Legible (atDepth "SELECT a FROM t WHERE f(SET ".toList k).masked) ∧
      (detect (atCursor "SELECT a FROM t WHERE f(SET ".toList)).1 = absent := by
  have hlegible : ∀ k ≤ Paren.depth "SELECT a FROM t WHERE f(SET ".toList,
      Legible (atDepth "SELECT a FROM t WHERE f(SET ".toList k).masked := by decide +kernel
  refine ⟨hlegible, (detect_eq_absent_iff hlegible).mpr ⟨by decide +kernel, Or.inr ⟨1, ?_⟩⟩⟩
  refine ⟨by decide, ⟨by decide +kernel, by decide⟩, fun j hj hj' => ?_⟩
  have hdepth : Paren.depth "SELECT a FROM t WHERE f(SET ".toList = 1 := by decide
  omega

/-- There the level around the call has clauses. A word that is a keyword only because its dotted `İ`
counts as an `I` hides them as well, and so does a combining iota, which is no part of a word but
becomes a letter. -/
theorem search_stops_without_clause :
    (detect (atCursor "SELECT a FROM t WHERE f(SET ".toList)).1 = absent ∧
      keywords (normalize (atDepth "SELECT a FROM t WHERE f(SET ".toList 0).masked) =
        [select, fromTables, whereCondition] ∧
      (detect (atCursor "SELECT (İNTO ".toList)).1 = absent ∧
      keywords (normalize (atDepth "SELECT (İNTO ".toList 0).masked) = [select] ∧
      (detect (atCursor "SELECT (\u0345INTO ".toList)).1 = absent ∧
      keywords (normalize (atDepth "SELECT (\u0345INTO ".toList 0).masked) = [select] := by
  decide +kernel

end Clause

end SqlAssist
