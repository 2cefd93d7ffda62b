import SqlAssist.Proofs.Lists
import SqlAssist.Proofs.Text.Words
import SqlAssist.Sql.Clause

/-!
# Keywords inside of names

A name with dots and dollar signs is one run of path characters, but keywords are looked for word by
word, and a dot ends a word: the name `T.VALUES` counts as a `VALUES`
(`keywords_not_atomic`). This module says when a run of path characters can be replaced by the name
`X` without a change: exactly if none of its words introduces a clause where it stands, and none is
the `BY` of a `GROUP` or `ORDER` before it (`occurrences_replace_iff`). In particular all runs
without a word of a keyword are **atomic** (`keywords_replace`).
-/

namespace SqlAssist

/-! ### Keywords and what follows them -/

namespace Clause

open Text

variable {t x r before run after : Text}

/-- The keywords of a text, also those that introduce nothing. -/
def occurrences (t : Text) : List Clause :=
  t.wordStarts.filterMap ofKeyword?

theorem keywords_eq (t : Text) : keywords t = (occurrences t).foldl addTo [] := rfl

/-- The text goes on with a space and `BY`. -/
def startsBy : Text → Bool
  | ' ' :: r => Text.firstWord r = "BY".toList
  | _ => false

/-- A keyword is one word, or one word that goes on with a `BY`. -/
theorem ofKeyword?_eq (t : Text) :
    ofKeyword? t = (ofWords.find? (·.name.toList == t.firstWord)).or
      (if startsBy t.afterWord then ofByWords.find? (·.name.toList == t.firstWord) else none) := by
  rw [ofKeyword?]
  cases hfind : ofWords.find? (·.name.toList == t.firstWord) with
  | some c => rfl
  | none =>
    cases hafter : t.afterWord with
    | nil => rfl
    | cons c r =>
      by_cases hc : c = ' '
      · subst hc
        simp [startsBy]
      · simp [startsBy, hc]

/-- The words of the clause keywords. -/
def keywordWords : List Text :=
  (ofWords ++ ofByWords).map (·.name.toList) ++ ["BY".toList]

theorem ofKeyword?_eq_none (h : t.firstWord ∉ keywordWords) : ofKeyword? t = none := by
  simp only [keywordWords, List.map_append, List.mem_append, List.mem_map, not_or, not_exists,
    not_and] at h
  have hwords : ofWords.find? (·.name.toList == t.firstWord) = none :=
    List.find?_eq_none.mpr fun c hc e => h.1.1 c hc (beq_iff_eq.mp e)
  have hby : ofByWords.find? (·.name.toList == t.firstWord) = none :=
    List.find?_eq_none.mpr fun c hc e => h.1.2 c hc (beq_iff_eq.mp e)
  rw [ofKeyword?_eq, hwords, hby, ite_self]
  rfl

/-- The text ends in a `GROUP` or `ORDER` and a space. -/
def awaitsBy (t : Text) : Bool :=
  t.wordStarts.any fun x => (ofByWords.map (·.name.toList)).contains x.firstWord && x.afterWord == [' ']

theorem awaitsBy_iff : awaitsBy t = true ↔
    ∃ x ∈ t.wordStarts, x.firstWord ∈ ofByWords.map (·.name.toList) ∧ x.afterWord = [' '] := by
  simp only [awaitsBy, List.any_eq_true, Bool.and_eq_true, List.contains_iff_mem, beq_iff_eq]

/-! ### Runs -/

/-- The text is split around a maximal run of path characters. -/
structure IsRun (before run after : Text) : Prop where
  /-- The run is not empty. -/
  ne_nil : run ≠ []
  /-- The run consists of path characters. -/
  path : ∀ c ∈ run, isPathChar c = true
  /-- It starts where it does. -/
  before : before.getLast?.any isPathChar = false
  /-- It ends where it does. -/
  after : after.head?.any isPathChar = false

/-- No word of the run takes part in a keyword. -/
structure Inert (before run after : Text) : Prop where
  /-- None introduces a clause. -/
  introduces : ∀ x ∈ run.wordStarts, ofKeyword? (x ++ after) = none
  /-- None is the `BY` of a `GROUP` or `ORDER` before it. -/
  completes : awaitsBy before = true → run.firstWord ≠ "BY".toList

namespace IsRun

theorem before_apart (h : IsRun before run after) (r : Text) : Apart before r :=
  Or.inl (any_isWordChar_eq_false h.before)

theorem after_apart (h : IsRun before run after) (u : Text) : Apart u after :=
  Or.inr (any_isWordChar_eq_false h.after)

/-- The keywords stand before the run, in the run and behind it. -/
theorem occurrences_eq (h : IsRun before run after) :
    occurrences (before ++ run ++ after) =
      before.wordStarts.filterMap (fun x => ofKeyword? (x ++ (run ++ after))) ++
        run.wordStarts.filterMap (fun x => ofKeyword? (x ++ after)) ++ occurrences after := by
  rw [occurrences, List.append_assoc, wordStarts_append (h.before_apart _),
    wordStarts_append (h.after_apart _), List.filterMap_append, List.filterMap_append,
    List.filterMap_map, List.filterMap_map, List.append_assoc]
  rfl

/-- What stands behind a word of the text before the run goes on into it only if that is one
space. -/
theorem startsBy_append (h : IsRun before run after) (hx : x ∈ before.wordStarts) (r : Text) :
    startsBy (afterWord x ++ r) =
      if afterWord x = [' '] then decide (firstWord r = "BY".toList) else startsBy (afterWord x) := by
  obtain ⟨hsuffix, hne⟩ := suffix_of_mem_wordStarts hx
  have hapart {y : Text} (hy : y <:+ x) (hne : y ≠ []) : Apart y r :=
    (h.before_apart r).suffix (hy.trans hsuffix) hne
  cases hafter : afterWord x with
  | nil =>
    -- Then the word would go up to the run.
    have hall : ∀ c ∈ x, isWordChar c = true := by
      simpa [afterWord, List.dropWhile_eq_nil_iff] using hafter
    obtain ⟨v, hv⟩ := hsuffix
    have hlast := any_isWordChar_eq_false h.before
    rw [← hv, List.getLast?_append_of_ne_nil v hne, List.getLast?_eq_getLast_of_ne_nil hne] at hlast
    exact absurd (hall _ (List.getLast_mem hne)) (Bool.eq_false_iff.mp hlast)
  | cons c y =>
    by_cases hc : c = ' '
    · subst hc
      by_cases hy : y = []
      · subst hy
        rfl
      · have hyx : y <:+ x := (List.suffix_cons ' ' y).trans (hafter ▸ List.dropWhile_suffix _)
        have hne' : ¬ ' ' :: y = [' '] := fun e => hy (List.cons.inj e).2
        rw [if_neg hne', List.cons_append, startsBy, startsBy,
          firstWord_append_of_apart hy (hapart hyx hy)]
    · have hne' : ¬ c :: y = [' '] := fun e => hc (List.cons.inj e).1
      rw [if_neg hne', List.cons_append]
      simp [startsBy, hc]

/-- A keyword before the run is one whatever follows, but for a `GROUP` or `ORDER` and a space. -/
theorem ofKeyword?_append (h : IsRun before run after) (hx : x ∈ before.wordStarts) {r : Text}
    (hr : r.firstWord = "BY".toList → x.afterWord = [' '] →
      x.firstWord ∉ ofByWords.map (·.name.toList)) :
    ofKeyword? (x ++ r) = ofKeyword? x := by
  rw [ofKeyword?_eq, ofKeyword?_eq, firstWord_append (h.before_apart r) hx,
    afterWord_append (h.before_apart r) hx, h.startsBy_append hx]
  by_cases hafter : x.afterWord = [' ']
  · have hnot : startsBy [' '] = false := rfl
    rw [if_pos hafter, hafter, hnot]
    by_cases hby : r.firstWord = "BY".toList
    · have hnone : ofByWords.find? (·.name.toList == x.firstWord) = none :=
        List.find?_eq_none.mpr fun c hc e =>
          hr hby hafter (List.mem_map.mpr ⟨c, hc, beq_iff_eq.mp e⟩)
      rw [hnone, ite_self, ite_self]
    · rw [decide_eq_false hby]
  · rw [if_neg hafter]

/-- A `GROUP` or `ORDER` and a space are a keyword if `BY` follows, and none without it. -/
theorem ofKeyword?_of_by (h : IsRun before run after) (hx : x ∈ before.wordStarts) {r : Text}
    (hword : x.firstWord ∈ ofByWords.map (·.name.toList)) (hafter : x.afterWord = [' '])
    (hr : r.firstWord = "BY".toList) : ofKeyword? (x ++ r) ≠ none ∧ ofKeyword? x = none := by
  obtain ⟨c, hc, hc'⟩ := List.mem_map.mp hword
  have hnone : ∀ c ∈ ofByWords, ofWords.find? (·.name.toList == c.name.toList) = none := by decide
  have hsome : ∀ c ∈ ofByWords, ofByWords.find? (·.name.toList == c.name.toList) ≠ none := by decide
  rw [ofKeyword?_eq, ofKeyword?_eq, firstWord_append (h.before_apart r) hx,
    afterWord_append (h.before_apart r) hx, h.startsBy_append hx, if_pos hafter, hafter, ← hc',
    hnone c hc, decide_eq_true hr]
  exact ⟨hsome c hc, rfl⟩

/-- An inert run adds no keyword. -/
theorem occurrences_eq_of_inert (h : IsRun before run after) (hinert : Inert before run after) :
    occurrences (before ++ run ++ after) = occurrences before ++ occurrences after := by
  have hrun : run.wordStarts.filterMap (fun x => ofKeyword? (x ++ after)) = [] :=
    List.filterMap_eq_nil_iff.mpr hinert.introduces
  have hfirst : (run ++ after).firstWord = run.firstWord :=
    firstWord_append_of_apart h.ne_nil (h.after_apart run)
  rw [h.occurrences_eq, hrun, List.append_nil]
  refine congrArg (· ++ occurrences after) (List.filterMap_congr fun x hx => ?_)
  refine h.ofKeyword?_append hx fun hby hafter hword => ?_
  rw [hfirst] at hby
  exact hinert.completes (awaitsBy_iff.mpr ⟨x, hx, hword, hafter⟩) hby

end IsRun

/-! ### Replacing a run -/

/-- The name that stands for any other one. -/
def placeholder : Text := "X".toList

theorem IsRun.placeholder (h : IsRun before run after) : IsRun before placeholder after :=
  { h with ne_nil := by decide, path := by decide }

theorem inert_of_words (h : IsRun before run after) (hwords : ∀ w ∈ words run, w ∉ keywordWords) :
    Inert before run after where
  introduces x hx := by
    refine ofKeyword?_eq_none ?_
    rw [firstWord_append (h.after_apart run) hx]
    exact hwords _ (List.mem_map_of_mem hx)
  completes _ hby := by
    have hstart := mem_wordStarts_of_firstWord (t := run) (by rw [hby]; decide)
    refine hwords _ (List.mem_map_of_mem hstart) ?_
    rw [hby]
    decide

theorem inert_placeholder (h : IsRun before run after) : Inert before placeholder after :=
  inert_of_words h.placeholder (by decide)

/-- Replacing a run by `X` keeps all keywords exactly if the run is inert. -/
theorem occurrences_replace_iff (h : IsRun before run after) :
    occurrences (before ++ run ++ after) = occurrences (before ++ placeholder ++ after) ↔
      Inert before run after := by
  rw [h.placeholder.occurrences_eq_of_inert (inert_placeholder h)]
  refine ⟨fun heq => ?_, h.occurrences_eq_of_inert⟩
  have hmore : ∀ x ∈ before.wordStarts,
      ofKeyword? x = none ∨ ofKeyword? x = ofKeyword? (x ++ (run ++ after)) := by
    intro x hx
    by_cases hby : (run ++ after).firstWord = "BY".toList ∧ x.afterWord = [' '] ∧
        x.firstWord ∈ ofByWords.map (·.name.toList)
    · exact Or.inl (h.ofKeyword?_of_by hx hby.2.2 hby.2.1 hby.1).2
    · exact Or.inr (h.ofKeyword?_append hx fun h₁ h₂ h₃ => hby ⟨h₁, h₂, h₃⟩).symm
  -- The run can only add keywords, so there are as many as without it if it adds none.
  rw [h.occurrences_eq] at heq
  have hbefore := List.append_cancel_right heq
  have hsublist := filterMap_sublist_filterMap hmore
  have hlength := congrArg List.length hbefore
  rw [List.length_append] at hlength
  have hrun : run.wordStarts.filterMap (fun x => ofKeyword? (x ++ after)) = [] :=
    List.eq_nil_of_length_eq_zero (by
      have := hsublist.length_le
      simp only [occurrences] at hlength
      omega)
  rw [hrun, List.append_nil] at hbefore
  have hsame := eq_of_filterMap_eq hmore hbefore.symm
  refine ⟨List.filterMap_eq_nil_iff.mp hrun, fun hawaits hby => ?_⟩
  obtain ⟨x, hx, hword, hafter⟩ := awaitsBy_iff.mp hawaits
  rw [← firstWord_append_of_apart h.ne_nil (h.after_apart run)] at hby
  obtain ⟨hsome, hnone⟩ := h.ofKeyword?_of_by hx hword hafter hby
  exact hsome ((hsame x hx).symm.trans hnone)

/-- **Names are atomic, unless a word of one takes part in a keyword**: replacing a maximal run of path
characters by `X` keeps all keywords exactly if the run is inert. Every run without a word of a
keyword is; then the keywords that introduce a clause are the same, and so is the clause. -/
theorem keywords_replace (h : IsRun before run after) :
    (occurrences (before ++ run ++ after) = occurrences (before ++ placeholder ++ after) ↔
      Inert before run after) ∧
    ((∀ w ∈ words run, w ∉ keywordWords) → Inert before run after) ∧
    (Inert before run after →
      keywords (before ++ run ++ after) = keywords (before ++ placeholder ++ after) ∧
      ∀ s t, normalize s = before ++ run ++ after → normalize t = before ++ placeholder ++ after →
        classify s = classify t) := by
  refine ⟨occurrences_replace_iff h, inert_of_words h, fun hinert => ?_⟩
  have hkeywords : keywords (before ++ run ++ after) = keywords (before ++ placeholder ++ after) := by
    rw [keywords_eq, keywords_eq, (occurrences_replace_iff h).mpr hinert]
  refine ⟨hkeywords, fun s t hs ht => ?_⟩
  rw [classify, classify, hs, ht, hkeywords]

/-- A column whose name starts like a keyword. -/
theorem keywords_replace_in_select :
    IsRun "SELECT ".toList "V$FROM_DATE.X".toList ", Y".toList ∧
      (∀ w ∈ words "V$FROM_DATE.X".toList, w ∉ keywordWords) ∧
      keywords "SELECT V$FROM_DATE.X, Y".toList = keywords "SELECT X, Y".toList ∧
      normalize "select  v$from_date.x, y ".toList = "SELECT V$FROM_DATE.X, Y".toList ∧
      normalize "select x, y".toList = "SELECT X, Y".toList ∧
      classify "select  v$from_date.x, y ".toList = classify "select x, y".toList := by
  have hrun : IsRun "SELECT ".toList "V$FROM_DATE.X".toList ", Y".toList :=
    ⟨by decide, by decide, by decide, by decide⟩
  have hwords : ∀ w ∈ words "V$FROM_DATE.X".toList, w ∉ keywordWords := by decide
  have hs : normalize "select  v$from_date.x, y ".toList = "SELECT V$FROM_DATE.X, Y".toList := by
    decide
  have ht : normalize "select x, y".toList = "SELECT X, Y".toList := by decide
  obtain ⟨hkeywords, hclassify⟩ :=
    (keywords_replace hrun).2.2 ((keywords_replace hrun).2.1 hwords)
  exact ⟨hrun, hwords, hkeywords, hs, ht, hclassify _ _ hs ht⟩

/-- A qualified column whose name is a keyword counts as the keyword. -/
theorem keywords_not_atomic :
    IsRun "SELECT ".toList "T.VALUES".toList [] ∧ "T.VALUES".toList ∉ keywordWords ∧
      keywords "SELECT T.VALUES".toList = [select, values] ∧
      keywords "SELECT X".toList = [select] ∧
      classify "SELECT T.VALUES ".toList = values ∧ classify "SELECT X ".toList = select :=
  ⟨⟨by decide, by decide, by decide, by decide⟩, by decide, by decide, by decide,
    by decide, by decide⟩

end Clause

end SqlAssist
