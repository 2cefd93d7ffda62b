import SqlAssist.Proofs.Text.Space

/-!
# Words of joined texts

Scans go from word to word, so what a scan of a text finds is settled by the words of
the text and by what stands behind each of them. Two texts that are joined keep their
words, unless a word of the first goes on in the second: `wordStarts_append` says so
of the places where words start and `words_append` of the words. A text is split where
a word ends, and the pieces are looked at one by one.

Behind a word the next ones are those of the rest (`wordStarts_of_firstWord`). White space
is passed over, and keywords in a row are looked for at each place where a word starts.
-/

namespace SqlAssist.Text

/-! ### Joined texts -/

/-- No word of the first text goes on in the second. -/
def Apart (u r : Text) : Prop :=
  u.getLast?.any isWordChar = false ∨ r.head?.any isWordChar = false

/-- One word: some word characters and nothing else. -/
def IsWord (w : Text) : Prop := w ≠ [] ∧ ∀ c ∈ w, isWordChar c = true

instance (w : Text) : Decidable (IsWord w) :=
  decidable_of_iff ((!w.isEmpty && w.all isWordChar) = true) (by simp [IsWord])

/-- The words of a text, from left to right. -/
def words (t : Text) : List Text :=
  t.wordStarts.map firstWord

theorem wordStartsFrom_of_head {r : Text} (h : r.head?.any isWordChar = false) (b : Bool) :
    wordStartsFrom b r = wordStarts r := by
  cases r with
  | nil => rfl
  | cons c r =>
    have hc : isWordChar c = false := h
    simp [wordStarts, wordStartsFrom, hc]

theorem wordStartsFrom_append (b : Bool) (u r : Text) :
    wordStartsFrom b (u ++ r) = (wordStartsFrom b u).map (· ++ r) ++
      wordStartsFrom (u.foldl (fun _ c => isWordChar c) b) r := by
  induction u generalizing b with
  | nil => rfl
  | cons c u ih =>
    rw [List.cons_append, wordStartsFrom, wordStartsFrom, List.foldl_cons]
    by_cases h : (isWordChar c && !b) = true
    · have hc : isWordChar c = true := (Bool.and_eq_true_iff.mp h).1
      rw [if_pos h, if_pos h, ih, hc]
      rfl
    · rw [if_neg h, if_neg h, ih]

/-- Words start in the same places when the texts are read one after the other. -/
theorem wordStarts_append {u r : Text} (h : Apart u r) :
    (u ++ r).wordStarts = u.wordStarts.map (· ++ r) ++ r.wordStarts := by
  rw [wordStarts, wordStartsFrom_append]
  refine congrArg (u.wordStarts.map (· ++ r) ++ ·) ?_
  rcases h with h | h
  · induction u using List.reverseRecOn with
    | nil => rfl
    | append_singleton u c _ =>
      have hc : isWordChar c = false := by simpa using h
      rw [List.foldl_append, List.foldl_cons, List.foldl_nil, hc]
      rfl
  · exact wordStartsFrom_of_head h _

/-- From the start of a word on stands an end of the text. -/
theorem suffix_of_mem_wordStarts {u x : Text} (hx : x ∈ u.wordStarts) : x <:+ u ∧ x ≠ [] := by
  unfold wordStarts at hx
  generalize false = b at hx
  induction u generalizing b with
  | nil => exact absurd hx List.not_mem_nil
  | cons c u ih =>
    rw [wordStartsFrom] at hx
    split_ifs at hx
    · rcases List.mem_cons.mp hx with rfl | hx
      · exact ⟨List.suffix_refl _, List.cons_ne_nil _ _⟩
      · exact ⟨(ih _ hx).1.trans (List.suffix_cons _ _), (ih _ hx).2⟩
    · exact ⟨(ih _ hx).1.trans (List.suffix_cons _ _), (ih _ hx).2⟩

/-- The first word of a text is not changed by what follows apart. -/
theorem firstWord_append_of_apart {u r : Text} (hne : u ≠ []) (h : Apart u r) :
    firstWord (u ++ r) = firstWord u := by
  rcases h with h | h
  · exact takeWhile_append_of_getLast? hne h r
  · have hr : r.takeWhile isWordChar = [] := takeWhile_append_stop (w := []) nofun h
    rw [firstWord, firstWord, List.takeWhile_append, hr, List.append_nil]
    split_ifs with hall
    · exact ((List.takeWhile_prefix isWordChar).eq_of_length hall).symm
    · rfl

theorem Apart.suffix {u r x : Text} (h : Apart u r) (hx : x <:+ u) (hne : x ≠ []) : Apart x r := by
  obtain ⟨v, rfl⟩ := hx
  rwa [Apart, List.getLast?_append_of_ne_nil v hne] at h

theorem firstWord_append {u r x : Text} (h : Apart u r) (hx : x ∈ u.wordStarts) :
    firstWord (x ++ r) = firstWord x :=
  have ⟨hsuffix, hne⟩ := suffix_of_mem_wordStarts hx
  firstWord_append_of_apart hne (h.suffix hsuffix hne)

/-- Joined texts have the words of the one and then those of the other. -/
theorem words_append {u r : Text} (h : Apart u r) : words (u ++ r) = words u ++ words r := by
  rw [words, wordStarts_append h, List.map_append, List.map_map]
  exact congrArg (· ++ words r) (List.map_congr_left fun x hx => firstWord_append h hx)

theorem IsWord.isNameChar {w : Text} (h : IsWord w) : ∀ c ∈ w, isNameChar c = true := by
  intro c hc
  rw [Text.isNameChar, h.2 c hc, Bool.true_or]

theorem wordStarts_of_no_word {t : Text} (h : ∀ c ∈ t, isWordChar c = false) : wordStarts t = [] := by
  unfold wordStarts
  generalize false = b
  induction t generalizing b with
  | nil => rfl
  | cons c t ih =>
    obtain ⟨hc, ht⟩ := List.forall_mem_cons.mp h
    simp only [wordStartsFrom, hc, Bool.false_and]
    exact ih ht false

theorem apart_of_no_word_left {u r : Text} (h : ∀ c ∈ u, isWordChar c = false) : Apart u r := by
  refine Or.inl ?_
  cases hl : u.getLast? with
  | none => rfl
  | some c => exact h c (List.mem_of_getLast? hl)

/-- What holds no word ends a word that stands before it. -/
theorem wordStartsFrom_no_word_append {u : Text} (hne : u ≠ []) (h : ∀ c ∈ u, isWordChar c = false)
    (b : Bool) (r : Text) : wordStartsFrom b (u ++ r) = wordStarts r := by
  obtain ⟨c, v, rfl⟩ := List.exists_cons_of_ne_nil hne
  have hhead : (c :: v ++ r).head?.any isWordChar = false := h c List.mem_cons_self
  rw [wordStartsFrom_of_head hhead, wordStarts_append (apart_of_no_word_left h),
    wordStarts_of_no_word h]
  rfl

theorem words_of_no_word {t : Text} (h : ∀ c ∈ t, isWordChar c = false) : words t = [] := by
  rw [words, wordStarts_of_no_word h, List.map_nil]

theorem wordStarts_of_word {w : Text} (h : IsWord w) : wordStarts w = [w] := by
  obtain ⟨c, v, rfl⟩ := List.exists_cons_of_ne_nil h.1
  obtain ⟨hc, hv⟩ := List.forall_mem_cons.mp h.2
  have hrest : wordStartsFrom true v = [] := by
    clear h
    induction v with
    | nil => rfl
    | cons d v ih =>
      obtain ⟨hd, hv⟩ := List.forall_mem_cons.mp hv
      simp only [wordStartsFrom, hd, Bool.not_true, Bool.and_false]
      exact ih hv
  simp [wordStarts, wordStartsFrom, hc, hrest]

theorem words_of_word {w : Text} (h : IsWord w) : words w = [w] := by
  rw [words, wordStarts_of_word h, List.map_singleton, firstWord, List.takeWhile_eq_self_iff.mpr h.2]

/-! ### Places of words -/

section Places

variable {b : Bool} {t u r w x : Text}

theorem firstWord_append_afterWord (t : Text) : t.firstWord ++ t.afterWord = t :=
  List.takeWhile_append_dropWhile

theorem afterWord_append (h : Apart u r) (hx : x ∈ u.wordStarts) :
    afterWord (x ++ r) = afterWord x ++ r := by
  have hword := firstWord_append_afterWord (x ++ r)
  rw [firstWord_append h hx] at hword
  refine List.append_cancel_left (hword.trans ?_)
  rw [← List.append_assoc, firstWord_append_afterWord]

theorem wordStartsFrom_word_append (hw : ∀ c ∈ w, isWordChar c = true) (r : Text) :
    wordStartsFrom true (w ++ r) = wordStartsFrom true r := by
  induction w with
  | nil => rfl
  | cons c w ih =>
    obtain ⟨hc, hw⟩ := List.forall_mem_cons.mp hw
    rw [List.cons_append, wordStartsFrom, hc, if_neg (by simp), ih hw]

/-- Behind the start of a word, words start behind its end. -/
theorem wordStartsFrom_true (t : Text) : wordStartsFrom true t = t.afterWord.wordStarts := by
  have hsplit := firstWord_append_afterWord t
  have hword : ∀ c ∈ t.firstWord, isWordChar c = true := fun c hc => List.mem_takeWhile_imp hc
  calc wordStartsFrom true t = wordStartsFrom true (t.firstWord ++ t.afterWord) := by rw [hsplit]
    _ = wordStartsFrom true t.afterWord := wordStartsFrom_word_append hword _
    _ = t.afterWord.wordStarts := wordStartsFrom_of_head (head?_dropWhile _ _) true

theorem wordStarts_of_firstWord (h : t.firstWord ≠ []) :
    t.wordStarts = t :: t.afterWord.wordStarts := by
  cases t with
  | nil => exact absurd rfl h
  | cons c r =>
    by_cases hc : isWordChar c = true
    · have hafter : afterWord (c :: r) = afterWord r := List.dropWhile_cons_of_pos hc
      rw [wordStarts, wordStartsFrom, hc, if_pos (by simp), wordStartsFrom_true, hafter]
    · simp [firstWord, hc] at h

/-- A text that starts with a word is the first place where a word starts. -/
theorem mem_wordStarts_of_firstWord (h : t.firstWord ≠ []) : t ∈ t.wordStarts := by
  rw [wordStarts_of_firstWord h]
  exact List.mem_cons_self

theorem exists_wordStartsFrom_eq {b : Bool} (h : x ∈ wordStartsFrom b t) :
    ∃ l, wordStartsFrom b t = l ++ x :: x.afterWord.wordStarts := by
  induction t generalizing b with
  | nil => exact absurd h List.not_mem_nil
  | cons c t ih =>
    rw [wordStartsFrom] at h ⊢
    split_ifs at h ⊢ with hc
    · rcases List.mem_cons.mp h with rfl | h
      · have hword : isWordChar c = true := (Bool.and_eq_true_iff.mp hc).1
        have hafter : afterWord (c :: t) = afterWord t := List.dropWhile_cons_of_pos hword
        exact ⟨[], by rw [wordStartsFrom_true, hafter]; rfl⟩
      · obtain ⟨l, hl⟩ := ih h
        exact ⟨(c :: t) :: l, congrArg ((c :: t) :: ·) hl⟩
    · exact ih h

/-- From the start of a word on the text starts with a word character, and there is none before. -/
theorem exists_of_mem_wordStartsFrom (h : x ∈ wordStartsFrom b t) :
    ∃ u, t = u ++ x ∧ (u = [] → b = false) ∧ u.getLast?.any isWordChar = false ∧
      x.head?.any isWordChar = true := by
  induction t generalizing b with
  | nil => exact absurd h List.not_mem_nil
  | cons c t ih =>
    have hnext : ∀ b', x ∈ wordStartsFrom b' t → (b' = false → isWordChar c = false) →
        ∃ u, c :: t = u ++ x ∧ (u = [] → b = false) ∧ u.getLast?.any isWordChar = false ∧
          x.head?.any isWordChar = true := by
      intro b' hx hc
      obtain ⟨u, rfl, hu, hlast, hhead⟩ := ih hx
      refine ⟨c :: u, rfl, fun e => absurd e (List.cons_ne_nil c u), ?_, hhead⟩
      cases u with
      | nil => exact hc (hu rfl)
      | cons d u => exact hlast
    rw [wordStartsFrom] at h
    split_ifs at h with hstart
    · obtain ⟨hc, hb⟩ := Bool.and_eq_true_iff.mp hstart
      rcases List.mem_cons.mp h with rfl | h
      · exact ⟨[], rfl, fun _ => by simpa using hb, rfl, hc⟩
      · exact hnext true h fun e => absurd e (by decide)
    · exact hnext _ h id

theorem pairwise_wordStarts (t : Text) : t.wordStarts.Pairwise fun x y => y.length < x.length := by
  unfold wordStarts
  generalize false = b
  induction t generalizing b with
  | nil => exact .nil
  | cons c t ih =>
    rw [wordStartsFrom]
    split_ifs
    · refine List.pairwise_cons.mpr ⟨fun x hx => ?_, ih true⟩
      obtain ⟨u, rfl, -⟩ := exists_of_mem_wordStartsFrom hx
      rw [List.length_cons, List.length_append]
      omega
    · exact ih _

end Places

/-! ### White space between words -/

/-- White space holds no words. -/
theorem wordStartsFrom_gap_append {w : Text} (hw : IsGap w) (b : Bool) (r : Text) :
    wordStartsFrom b (w ++ r) = wordStarts r :=
  wordStartsFrom_no_word_append hw.1 (fun c hc => isWordChar_eq_false_of_isSpace (hw.2 c hc)) b r

theorem apart_blank_left {w r : Text} (h : IsBlank w) : Apart w r :=
  apart_of_no_word_left fun c hc => isWordChar_eq_false_of_isSpace (h c hc)

theorem wordStarts_trimStart (t : Text) : t.trimStart.wordStarts = t.wordStarts := by
  induction t with
  | nil => rfl
  | cons c t ih =>
    cases hc : isSpace c with
    | false => rw [trimStart, List.dropWhile_cons_of_neg (by simp [hc])]
    | true =>
      have hword := isWordChar_eq_false_of_isSpace hc
      rw [trimStart, List.dropWhile_cons_of_pos hc, wordStarts.eq_def (c :: t), wordStartsFrom, hword]
      exact ih

/-- The first word behind a word and white space is a word. -/
theorem firstWord_mem_words (hspace : x.afterWord.head?.any isSpace = true)
    (hne : firstWord (trimStart x.afterWord) ≠ []) (v : Text) :
    firstWord (trimStart x.afterWord) ∈ words (v ++ x) := by
  obtain ⟨g, hg, hafter⟩ := exists_isGap_append hspace
  have hsplit : v ++ x = (v ++ x.firstWord ++ g) ++ trimStart x.afterWord := by
    rw [List.append_assoc, ← hafter, List.append_assoc, firstWord_append_afterWord]
  have hapart : Apart (v ++ x.firstWord ++ g) (trimStart x.afterWord) :=
    Or.inl (IsGap.getLast?_any hg (fun _ => isWordChar_eq_false_of_isSpace) _)
  rw [hsplit, words_append hapart]
  exact List.mem_append_right _ (List.mem_map_of_mem (mem_wordStarts_of_firstWord hne))

/-! ### Keywords -/

section Keywords

variable {α : Type} {ks : List Text} {a r t : Text}

/-- Without a word no keyword is found. -/
theorem afterKeywords?_of_no_word {k : Text} (hk : k ≠ []) (h : a.head?.any isWordChar = false) :
    afterKeywords? (k :: ks) a = none := by
  have hword : a.firstWord = [] := takeWhile_append_stop (w := []) nofun h
  have hkey : isKeyword k [] = false := by
    rw [isKeyword, List.map_nil, beq_eq_false_iff_ne]
    exact hk.symm
  rw [afterKeywords?, hword, hkey, if_neg (by simp)]

/-- What follows keywords is looked for only behind a word that is the first of them. -/
theorem afterEachKeywords_eq_nil {t k : Text} (h : ∀ w ∈ words t, isKeyword k w = false)
    (ks : List Text) : afterEachKeywords (k :: ks) t = [] := by
  refine List.filterMap_eq_nil_iff.mpr fun x hx => ?_
  have := h _ (List.mem_map_of_mem hx)
  simp [afterKeywords?, this]

theorem any_afterEachKeywords (ks : List Text) (t : Text) (p : Text → Bool) :
    (afterEachKeywords ks t).any p =
      (t.wordStarts.map fun y => (afterKeywords? ks y).any p).any id := by
  rw [afterEachKeywords, List.any_filterMap, List.any_map]
  refine congrArg t.wordStarts.any (funext fun y => ?_)
  cases h : afterKeywords? ks y <;> simp [h]

theorem findSome?_afterEachKeywords (ks : List Text) (t : Text) (f : Text → Option α) :
    (afterEachKeywords ks t).findSome? f =
      (t.wordStarts.map fun y => (afterKeywords? ks y).bind f).findSome? id := by
  rw [afterEachKeywords]
  induction t.wordStarts with
  | nil => rfl
  | cons y ys ih =>
    rw [List.map_cons, List.findSome?_cons, ← ih]
    cases h : afterKeywords? ks y with
    | none => simp [h]
    | some z => simp [h, List.findSome?_cons]

theorem suffix_of_afterKeywords? (h : afterKeywords? ks t = some r) : r <:+ t := by
  induction ks generalizing t with
  | nil => exact (Option.some.inj h) ▸ List.suffix_rfl
  | cons k ks ih =>
    rw [afterKeywords?] at h
    split_ifs at h
    exact ((ih h).trans (List.dropWhile_suffix _)).trans (List.dropWhile_suffix _)

theorem suffix_of_mem_afterEachKeywords (h : r ∈ afterEachKeywords ks t) : r <:+ t := by
  obtain ⟨x, hx, hr⟩ := List.mem_filterMap.mp h
  exact (suffix_of_afterKeywords? hr).trans (suffix_of_mem_wordStarts hx).1

end Keywords

end SqlAssist.Text
