import SqlAssist.Proofs.Text.Characters
import SqlAssist.Proofs.Text.UpperCase
import SqlAssist.Proofs.Text.Words
import Mathlib.Data.List.Infix

/-!
# Words in capitals

Some rules read the words of a text and some those of its upper case. A text has the same words in
capitals if each of its characters becomes word characters exactly if it is one (`Steady`). Few
characters do not: `ǰ` becomes a `J` and a combining mark, which is none. White space stays what it
is in any case, and no other character becomes white space, a dot or a `$` (`eq_of_mem_upperChar`).

A word is compared with a keyword letter by letter, ignoring case, or in upper case. For a keyword
without ligatures these are the same (`isKeyword_iff_upper_eq`), but for the dotted `İ`, which counts
as an `I` and is its own capital.
-/

namespace SqlAssist.Text

variable {c d : Char} {p : Char → Bool} {s t w k : Text}

/-! ### Characters -/

theorem upperChar_ne_nil (c : Char) : upperChar c ≠ [] := by
  have hexpansions : ∀ e ∈ upperExpansions, e.2 ≠ [] := by decide
  rw [upperChar]
  split_ifs
  · exact List.cons_ne_nil _ _
  · exact List.cons_ne_nil _ _
  · split
    · next ns hlookup =>
      obtain ⟨l, k, hl, -⟩ := List.lookup_eq_some_iff.mp hlookup
      exact fun h => hexpansions (c.toNat, ns) (by rw [hl]; simp) (List.map_eq_nil_iff.mp h)
    · exact List.cons_ne_nil _ _

/-- The codes of white space, of the dot and of `$`. -/
def markCodes : List Nat :=
  spaceRanges.codes ++ ['.'.toNat, '$'.toNat]

theorem bits_markCodes : bits markCodes &&& bits upperImages = 0 := by decide +kernel

/-- No character becomes white space, a dot or a `$`. -/
theorem eq_of_mem_upperChar (hd : d ∈ upperChar c) (hmark : d.toNat ∈ markCodes) : d = c := by
  rcases upperChar_eq_or c with hself | himages
  · rw [hself] at hd
    exact List.mem_singleton.mp hd
  · exact absurd (himages d hd) (not_mem_of_bits bits_markCodes hmark)

theorem isSpace_of_mem_upperChar (hd : d ∈ upperChar c) : isSpace d = isSpace c := by
  cases hc : isSpace c with
  | true =>
    rw [upperChar_of_isSpace hc] at hd
    rw [List.mem_singleton.mp hd, hc]
  | false =>
    refine Bool.eq_false_iff.mpr fun hspace => ?_
    have hmark : d.toNat ∈ markCodes := List.mem_append_left _ (Ranges.mem_codes_of_covers hspace)
    rw [eq_of_mem_upperChar hd hmark, hc] at hspace
    cases hspace

theorem isEmpty_upper (t : Text) : t.upper.isEmpty = t.isEmpty := by
  cases t with
  | nil => rfl
  | cons c t => simp [upper_cons, upperChar_ne_nil]

/-- A dot is the capital of nothing but itself. -/
theorem dot_not_mem_upper (h : ∀ c ∈ t, isNameChar c = true) : '.' ∉ t.upper := by
  intro hdot
  obtain ⟨c, hc, hdot⟩ := List.mem_flatMap.mp hdot
  have hself := h c hc
  rw [← eq_of_mem_upperChar hdot (by decide)] at hself
  exact absurd hself (by decide)

/-! ### Runs -/

theorem takeWhile_upper (h : ∀ c ∈ t, ∀ d ∈ upperChar c, p d = p c) :
    t.upper.takeWhile p = upper (t.takeWhile p) := by
  induction t with
  | nil => rfl
  | cons c t ih =>
    obtain ⟨hc, ht⟩ := List.forall_mem_cons.mp h
    have hupper : upper (c :: t) = upperChar c ++ upper t := rfl
    cases hpc : p c with
    | true =>
      rw [hupper, List.takeWhile_append_of_pos fun d hd => (hc d hd).trans hpc, ih ht,
        List.takeWhile_cons_of_pos hpc]
      rfl
    | false =>
      obtain ⟨d, ds, hd⟩ := List.exists_cons_of_ne_nil (upperChar_ne_nil c)
      have hpd : p d = false := (hc d (hd ▸ List.mem_cons_self)).trans hpc
      rw [hupper, hd, List.cons_append, List.takeWhile_cons_of_neg (by simp [hpd]),
        List.takeWhile_cons_of_neg (by simp [hpc])]
      rfl

theorem dropWhile_upper (h : ∀ c ∈ t, ∀ d ∈ upperChar c, p d = p c) :
    t.upper.dropWhile p = upper (t.dropWhile p) := by
  apply List.append_cancel_left
  show t.upper.takeWhile p ++ t.upper.dropWhile p = t.upper.takeWhile p ++ upper (t.dropWhile p)
  rw [List.takeWhile_append_dropWhile, takeWhile_upper h, upper, upper, upper, ← List.flatMap_append,
    List.takeWhile_append_dropWhile]

theorem head?_upper (h : ∀ c ∈ t, ∀ d ∈ upperChar c, p d = p c) :
    t.upper.head?.any p = t.head?.any p := by
  cases t with
  | nil => rfl
  | cons c t =>
    obtain ⟨d, ds, hd⟩ := List.exists_cons_of_ne_nil (upperChar_ne_nil c)
    have hupper : upper (c :: t) = d :: (ds ++ upper t) := by rw [upper, List.flatMap_cons, hd]; rfl
    rw [hupper]
    exact h c List.mem_cons_self d (hd ▸ List.mem_cons_self)

theorem trimStart_upper (t : Text) : t.upper.trimStart = upper t.trimStart :=
  dropWhile_upper fun _ _ _ => isSpace_of_mem_upperChar

theorem head?_isSpace_upper (t : Text) : t.upper.head?.any isSpace = t.head?.any isSpace :=
  head?_upper fun _ _ _ => isSpace_of_mem_upperChar

/-! ### Words -/

/-- Each character becomes word characters exactly if it is one. -/
def Steady (t : Text) : Prop := ∀ c ∈ t, ∀ d ∈ upperChar c, isWordChar d = isWordChar c

instance (t : Text) : Decidable (Steady t) :=
  inferInstanceAs (Decidable (∀ c ∈ t, ∀ d ∈ upperChar c, isWordChar d = isWordChar c))

theorem Steady.mono (h : Steady t) (hs : ∀ c ∈ s, c ∈ t) : Steady s :=
  fun c hc => h c (hs c hc)

theorem Steady.suffix (h : Steady t) (hs : s <:+ t) : Steady s :=
  h.mono fun _ hc => hs.subset hc

theorem Steady.isNameChar (h : Steady t) : ∀ c ∈ t, ∀ d ∈ upperChar c, isNameChar d = isNameChar c := by
  intro c hc d hd
  have hdollar : d = '$' ↔ c = '$' := by
    constructor
    · rintro rfl
      exact (eq_of_mem_upperChar hd (by decide)).symm
    · rintro rfl
      exact List.mem_singleton.mp hd
  rw [Text.isNameChar, Text.isNameChar, h c hc d hd, decide_eq_decide.mpr hdollar]

theorem Steady.firstWord_upper (h : Steady t) : t.upper.firstWord = upper t.firstWord :=
  takeWhile_upper h

theorem Steady.afterWord_upper (h : Steady t) : t.upper.afterWord = upper t.afterWord :=
  dropWhile_upper h

/-- Words start in the capitals where they start in the text. -/
theorem Steady.wordStarts_upper (h : Steady t) : t.upper.wordStarts = t.wordStarts.map upper := by
  unfold wordStarts
  generalize false = b
  induction t generalizing b with
  | nil => rfl
  | cons c t ih =>
    obtain ⟨hc, ht⟩ := List.forall_mem_cons.mp h
    have hupper : upper (c :: t) = upperChar c ++ upper t := rfl
    cases hword : isWordChar c with
    | true =>
      have hall : ∀ d ∈ upperChar c, isWordChar d = true := fun d hd => (hc d hd).trans hword
      cases b with
      | true =>
        rw [hupper, wordStartsFrom_word_append hall, ih ht, wordStartsFrom, hword, if_neg (by simp)]
      | false =>
        obtain ⟨d, ds, hd⟩ := List.exists_cons_of_ne_nil (upperChar_ne_nil c)
        rw [hd, List.forall_mem_cons] at hall
        rw [wordStartsFrom, hword, if_pos (by simp), List.map_cons, hupper, hd, List.cons_append,
          wordStartsFrom, hall.1, if_pos (by simp), wordStartsFrom_word_append hall.2, ih ht]
    | false =>
      have hall : ∀ d ∈ upperChar c, isWordChar d = false := fun d hd => (hc d hd).trans hword
      rw [hupper, wordStartsFrom_no_word_append (upperChar_ne_nil c) hall, wordStarts, ih ht,
        wordStartsFrom, hword, if_neg (by simp)]

/-! ### Keywords -/

/-- The codes of the characters that count as a letter of ASCII. -/
def letterCodes : List Nat :=
  List.range' 65 26 ++ List.range' 97 26 ++ ['ſ'.toNat, '\u212a'.toNat, 'ı'.toNat, 'İ'.toNat]

/-- The capitals of ASCII. -/
def isCapital (c : Char) : Bool :=
  65 ≤ c.toNat && c.toNat ≤ 90

theorem mem_letterCodes_of_isCapital (h : isCapital c = true) : c.toNat ∈ letterCodes := by
  simp only [isCapital, Bool.and_eq_true, decide_eq_true_eq] at h
  exact List.mem_append_left _ (List.mem_append_left _ (List.mem_range'_1.mpr (by omega)))

theorem letterKey_of_not_mem (h : c.toNat ∉ letterCodes) : letterKey c = c := by
  have hne : ∀ d : Char, d.toNat ∈ letterCodes → c ≠ d := fun d hd e => h (e ▸ hd)
  have hlower : c.isLower = false := Bool.eq_false_iff.mpr fun hlower => by
    have hcode := codes_of_isLower hlower
    exact h (List.mem_append_left _ (List.mem_append_right _ (List.mem_range'_1.mpr (by omega))))
  simp [letterKey, hlower, hne 'ſ' (by decide), hne '\u212a' (by decide), hne 'ı' (by decide),
    hne 'İ' (by decide)]

/-- What ligatures become that stand for several letters of ASCII. -/
def ligatures : List Text :=
  ["SS", "FF", "FI", "FL", "FFI", "FFL", "ST"].map String.toList

/-- A letter of ASCII, or what counts as one, is in upper case what it counts as. The Kelvin sign
and the dotted `İ` are left as they are. -/
theorem upperChar_of_mem_letterCodes (h : c.toNat ∈ letterCodes) :
    upperChar c = [letterKey c] ∨ c = '\u212a' ∨ c = 'İ' := by
  have hall : ∀ n ∈ letterCodes, upperChar (Char.ofNat n) = [letterKey (Char.ofNat n)] ∨
      Char.ofNat n = '\u212a' ∨ Char.ofNat n = 'İ' := by decide +kernel
  have := hall _ h
  rwa [Char.ofNat_toNat] at this

theorem toNat_ofNat_not_mem {m : Nat} (h : m ∉ letterCodes) :
    (Char.ofNat m).toNat ∉ letterCodes := by
  by_cases hm : m.isValidChar
  · rw [Char.ofNat, dif_pos hm]
    exact h
  · rw [Char.ofNat, dif_neg hm]
    decide

/-- Any other character has an upper case with another character, or it is a ligature. -/
theorem upperChar_of_not_mem_letterCodes (h : c.toNat ∉ letterCodes) :
    upperChar c ∈ ligatures ∨ ∃ d ∈ upperChar c, d.toNat ∉ letterCodes := by
  have hexpansions : ∀ e ∈ upperExpansions,
      e.2.map Char.ofNat ∈ ligatures ∨ ∃ n ∈ e.2, n ∉ letterCodes := by decide
  have hruns : ∀ r ∈ upperRuns, (∀ n ∈ r.codes, n ∈ letterCodes) ∨
      bits r.images &&& bits letterCodes = 0 := by decide +kernel
  rw [upperChar]
  split_ifs with hascii hlower
  · have hcode := codes_of_isLower hlower
    exact absurd (List.mem_append_left _ (List.mem_append_right _ (List.mem_range'_1.mpr (by omega)))) h
  · exact Or.inr ⟨c, List.mem_singleton_self c, h⟩
  · cases hlookup : upperExpansions.lookup c.toNat with
    | some ns =>
      obtain ⟨l, k, hl, -⟩ := List.lookup_eq_some_iff.mp hlookup
      have hmem : (c.toNat, ns) ∈ upperExpansions := hl ▸ List.mem_append_right _ List.mem_cons_self
      refine (hexpansions _ hmem).imp_right ?_
      rintro ⟨n, hn, hnot⟩
      exact ⟨Char.ofNat n, List.mem_map_of_mem hn, toNat_ofNat_not_mem hnot⟩
    | none =>
      cases hmap : CaseRun.map? upperRuns c.toNat with
      | none => exact Or.inr ⟨c, List.mem_singleton_self c, h⟩
      | some m =>
        obtain ⟨r, hr, hcode, himage⟩ := CaseRun.exists_of_map? hmap
        have hnot := not_mem_of_bits ((hruns r hr).resolve_left fun hall => h (hall _ hcode)) himage
        exact Or.inr ⟨Char.ofNat m, List.mem_singleton_self _, toNat_ofNat_not_mem hnot⟩

/-- The keyword is written in capitals, without a `K` (the Kelvin sign counts as one and is its own
upper case) and without what a ligature becomes. -/
structure IsPlainKeyword (k : Text) : Prop where
  /-- All letters are capitals other than `K`. -/
  letters : ∀ c ∈ k, isCapital c = true ∧ c ≠ 'K'
  /-- No ligature becomes a part of it. -/
  ligatures : ∀ e ∈ ligatures, ¬ e <:+: k

instance (k : Text) : Decidable (IsPlainKeyword k) :=
  decidable_of_iff ((∀ c ∈ k, isCapital c = true ∧ c ≠ 'K') ∧ ∀ e ∈ ligatures, ¬ e <:+: k)
    ⟨fun h => ⟨h.1, h.2⟩, fun h => ⟨h.1, h.2⟩⟩

theorem IsPlainKeyword.not_mem (hk : IsPlainKeyword k) (hc : c.toNat ∉ letterCodes) : c ∉ k :=
  fun h => hc (mem_letterCodes_of_isCapital (hk.letters c h).1)

/-- Two ways to spell the letters of a word agree on a keyword if each letter has the same spelling
in both or none in the keyword. -/
theorem flatMap_eq_iff_map_eq {f : Char → Text} {g : Char → Char}
    (h : ∀ c ∈ w, f c = [g c] ∨ g c ∉ k ∧ ¬ f c <:+: k) : w.flatMap f = k ↔ w.map g = k := by
  by_cases hall : ∀ c ∈ w, f c = [g c]
  · rw [List.flatMap_congr hall, List.map_eq_flatMap]
  · push Not at hall
    obtain ⟨c, hc, hne⟩ := hall
    obtain ⟨hg, hf⟩ := (h c hc).resolve_left hne
    refine iff_of_false (fun e => hf ?_) (fun e => hg (e ▸ List.mem_map_of_mem hc))
    rw [← e]
    exact List.infix_flatMap_of_mem hc f

/-- A word without a dotted `İ` is a keyword, ignoring case, if its upper case is. -/
theorem isKeyword_iff_upper_eq (hk : IsPlainKeyword k) (hw : 'İ' ∉ w) :
    isKeyword k w = true ↔ w.upper = k := by
  rw [isKeyword, beq_iff_eq, upper]
  refine (flatMap_eq_iff_map_eq fun c hc => ?_).symm
  by_cases hcode : c.toNat ∈ letterCodes
  · rcases upperChar_of_mem_letterCodes hcode with h | rfl | rfl
    · exact Or.inl h
    · refine Or.inr ⟨fun hmem => (hk.letters _ hmem).2 (by decide), fun hwithin => ?_⟩
      have hself : '\u212a' ∈ upperChar '\u212a' := by decide
      have := (hk.letters _ (hwithin.subset hself)).1
      exact absurd this (by decide)
    · exact absurd hc hw
  · rw [letterKey_of_not_mem hcode]
    refine Or.inr ⟨hk.not_mem hcode, fun hwithin => ?_⟩
    rcases upperChar_of_not_mem_letterCodes hcode with hligature | ⟨d, hd, hnot⟩
    · exact hk.ligatures _ hligature hwithin
    · exact hk.not_mem hnot (hwithin.subset hd)

/-- Upper case makes no word a keyword, ignoring case, that is not one before. -/
theorem isKeyword_upper (hk : IsPlainKeyword k) (w : Text) : isKeyword k w.upper = isKeyword k w := by
  have hletters : ∀ n ∈ letterCodes,
      (upperChar (Char.ofNat n)).map letterKey = [letterKey (Char.ofNat n)] := by decide +kernel
  have hligatures : ∀ e ∈ ligatures, e.map letterKey = e := by decide
  have hiff : w.upper.map letterKey = k ↔ w.map letterKey = k := by
    rw [upper, List.map_flatMap]
    refine flatMap_eq_iff_map_eq fun c _ => ?_
    by_cases hcode : c.toNat ∈ letterCodes
    · have := hletters _ hcode
      rw [Char.ofNat_toNat] at this
      exact Or.inl this
    · rw [letterKey_of_not_mem hcode]
      refine Or.inr ⟨hk.not_mem hcode, fun hwithin => ?_⟩
      rcases upperChar_of_not_mem_letterCodes hcode with hligature | ⟨d, hd, hnot⟩
      · rw [hligatures _ hligature] at hwithin
        exact hk.ligatures _ hligature hwithin
      · have hmem := List.mem_map_of_mem (f := letterKey) hd
        rw [letterKey_of_not_mem hnot] at hmem
        exact hk.not_mem hnot (hwithin.subset hmem)
  rw [isKeyword, isKeyword, Bool.eq_iff_iff, beq_iff_eq, beq_iff_eq, hiff]

section Search

variable {ks : List Text}

/-- The keywords stand in the capitals where they stand in the text. -/
theorem Steady.afterKeywords?_upper (h : Steady w) (hks : ∀ k ∈ ks, IsPlainKeyword k) :
    afterKeywords? ks w.upper = (afterKeywords? ks w).map upper := by
  induction ks generalizing w with
  | nil => rfl
  | cons k ks ih =>
    obtain ⟨hk, hks⟩ := List.forall_mem_cons.mp hks
    have hrest : Steady (trimStart w.afterWord) :=
      h.suffix ((List.dropWhile_suffix _).trans (List.dropWhile_suffix _))
    rw [afterKeywords?, afterKeywords?, h.firstWord_upper, isKeyword_upper hk, h.afterWord_upper,
      head?_isSpace_upper, trimStart_upper, ih hrest hks]
    split_ifs <;> rfl

theorem Steady.afterEachKeywords_upper (h : Steady t) (hks : ∀ k ∈ ks, IsPlainKeyword k) :
    afterEachKeywords ks t.upper = (afterEachKeywords ks t).map upper := by
  rw [afterEachKeywords, h.wordStarts_upper, List.filterMap_map, afterEachKeywords, List.map_filterMap]
  refine List.filterMap_congr fun x hx => ?_
  exact (h.suffix (suffix_of_mem_wordStarts hx).1).afterKeywords?_upper hks

end Search

end SqlAssist.Text
