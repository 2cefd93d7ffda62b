import SqlAssist.Proofs.Sql.ClauseSearch
import SqlAssist.Proofs.Sql.TargetNames

/-!
# Names behind `INSERT INTO`

The names of the tables that a text inserts into (`insertedNames`) are read behind each
`INSERT INTO`, from left to right. A parenthesis ends what is read of a text, so the names in front
of one do not depend on what is behind it (`insertedNames_append_open`), and the names in capitals are
those of the capitals (`insertedNames_upper`).

A column list opens right behind an `INSERT INTO` and a run of path characters. That `INSERT INTO` is
the last one of its level, and the last name is read of the run (`exists_insertedNames_eq`).
-/

namespace SqlAssist

/-! ### Names behind `INSERT INTO` -/

namespace Text

variable {c : Char}

/-- A character that is neither white space nor part of a path. -/
structure IsStop (c : Char) : Prop where
  /-- It is not white space. -/
  space : isSpace c = false
  /-- It is not part of a path. -/
  path : isPathChar c = false

theorem IsStop.word (h : IsStop c) : isWordChar c = false := isWordChar_of_isPathChar_eq_false h.path

/-- Keywords are looked for up to a character that is neither white space nor part of a word. -/
theorem afterKeywords?_append_cons (h : IsStop c) (ks : List Text) (w u : Text) :
    afterKeywords? ks (w ++ c :: u) = (afterKeywords? ks w).map (· ++ c :: u) := by
  induction ks generalizing w with
  | nil => rfl
  | cons k ks ih =>
    have hword : firstWord (w ++ c :: u) = firstWord w := takeWhile_append_cons h.word w u
    have hafter : afterWord (w ++ c :: u) = afterWord w ++ c :: u := dropWhile_append_cons h.word w u
    have hhead : (afterWord w ++ c :: u).head?.any isSpace = (afterWord w).head?.any isSpace := by
      cases afterWord w with
      | nil => exact h.space
      | cons d v => rfl
    rw [afterKeywords?, afterKeywords?, hword, hafter, hhead, trimStart,
      dropWhile_append_cons h.space, ih]
    split_ifs <;> rfl

theorem afterEachKeywords_append_cons (h : IsStop c) (ks : List Text) (t u : Text) :
    afterEachKeywords ks (t ++ c :: u) =
      (afterEachKeywords ks t).map (· ++ c :: u) ++ afterEachKeywords ks (c :: u) := by
  have hapart : Apart t (c :: u) := Or.inr h.word
  rw [afterEachKeywords, wordStarts_append hapart, List.filterMap_append, List.filterMap_map,
    afterEachKeywords, List.map_filterMap]
  exact congrArg (· ++ _) (List.filterMap_congr fun w _ => afterKeywords?_append_cons h ks w u)

end Text

namespace Target

open Text

variable {c : Char} {t u w : Text}

/-- The parts that go on a dotted name at the start of the text. -/
def moreNames (t : Text) : Text :=
  (moreParts t.length t).1

/-- The dotted name at the start of the text. -/
def name? (t : Text) : Option Text :=
  (readName? t).map (·.1)

theorem name?_eq (t : Text) : name? t =
    if (t.takeWhile isNameChar).isEmpty then none
    else some (t.takeWhile isNameChar ++ moreNames (t.dropWhile isNameChar)) := by
  rw [name?, readName?]
  split_ifs <;> rfl

theorem moreNames_dot (t : Text) : moreNames ('.' :: t) =
    if (t.takeWhile isNameChar).isEmpty then []
    else '.' :: t.takeWhile isNameChar ++ moreNames (t.dropWhile isNameChar) := by
  have hle : (t.dropWhile isNameChar).length ≤ t.length := (List.dropWhile_suffix _).length_le
  have hfuel := (moreParts_relaid (.refl _ _ _) _ _ hle (Nat.le_refl _)).1
  rw [moreNames, moreNames, List.length_cons, moreParts, ← hfuel]
  split_ifs <;> rfl

theorem moreNames_of_head?_ne (h : t.head? ≠ some '.') : moreNames t = [] := by
  rw [moreNames, moreParts_of_head?_ne h]

/-- A text starts with a dot and a part behind it, or with no dot. -/
theorem partInduction {motive : Text → Prop}
    (stop : ∀ t : Text, t.head? ≠ some '.' → motive t)
    (dot : ∀ t : Text, motive (t.dropWhile isNameChar) → motive ('.' :: t)) (t : Text) : motive t := by
  induction hn : t.length using Nat.strong_induction_on generalizing t with
  | _ n ih =>
    by_cases h : t.head? = some '.'
    · obtain ⟨r, rfl⟩ := List.head?_eq_some_iff.mp h
      subst hn
      have hle : (r.dropWhile isNameChar).length ≤ r.length := (List.dropWhile_suffix _).length_le
      exact dot r (ih _ (Nat.lt_succ_of_le hle) _ rfl)
    · exact stop t h

/-- Parts are read up to a character that is not part of a path. -/
theorem moreNames_append_cons (hc : isPathChar c = false) (t u : Text) :
    moreNames (t ++ c :: u) = moreNames t := by
  obtain ⟨hname, hdot⟩ := isNameChar_of_isPathChar_eq_false hc
  induction t using partInduction with
  | stop t h =>
    rw [moreNames_of_head?_ne h, moreNames_of_head?_ne]
    cases t with
    | nil => simpa using hdot
    | cons d t => exact h
  | dot t ih =>
    rw [List.cons_append, moreNames_dot, moreNames_dot, takeWhile_append_cons hname,
      dropWhile_append_cons hname, ih]

theorem name?_append_cons (hc : isPathChar c = false) (t u : Text) : name? (t ++ c :: u) = name? t := by
  obtain ⟨hname, -⟩ := isNameChar_of_isPathChar_eq_false hc
  rw [name?_eq, name?_eq, takeWhile_append_cons hname, dropWhile_append_cons hname,
    moreNames_append_cons hc]

theorem moreNames_upper (h : Steady t) : moreNames t.upper = upper (moreNames t) := by
  induction t using partInduction with
  | stop t hstop =>
    rw [moreNames_of_head?_ne hstop, moreNames_of_head?_ne]
    · rfl
    · cases t with
      | nil => simp [upper]
      | cons c t =>
        obtain ⟨d, ds, hd⟩ := List.exists_cons_of_ne_nil (upperChar_ne_nil c)
        rw [upper_cons, hd]
        simp only [List.cons_append, List.head?_cons, ne_eq, Option.some.injEq]
        rintro rfl
        have hself := eq_of_mem_upperChar (hd ▸ List.mem_cons_self) (by decide)
        exact hstop (by rw [← hself]; rfl)
  | dot t ih =>
    have ht : Steady t := h.suffix (List.suffix_cons _ t)
    have hdot : upper ('.' :: t) = '.' :: upper t := rfl
    rw [hdot, moreNames_dot, moreNames_dot, takeWhile_upper ht.isNameChar,
      dropWhile_upper ht.isNameChar, ih (ht.suffix (List.dropWhile_suffix _)), isEmpty_upper]
    split_ifs
    · rfl
    · rw [upper_append]
      rfl

/-- The name in the capitals is the name in capitals. -/
theorem name?_upper (h : Steady t) : name? t.upper = (name? t).map upper := by
  rw [name?_eq, name?_eq, takeWhile_upper h.isNameChar, dropWhile_upper h.isNameChar, isEmpty_upper,
    moreNames_upper (h.suffix (List.dropWhile_suffix _))]
  split_ifs
  · rfl
  · rw [Option.map_some, upper_append]

end Target

namespace Clause

open Text

variable {t u : Text}

/-- The names behind each `INSERT INTO` of the text, from left to right. -/
def insertedNames (t : Text) : List Text :=
  (afterEachKeywords insertWords t).filterMap Target.name?

theorem firstName?_insertWords (t : Text) :
    Resolution.firstName? insertWords t = (insertedNames t).head? := by
  rw [insertedNames, List.head?_filterMap]
  rfl

theorem isPlainKeyword_insertWords : ∀ k ∈ insertWords, IsPlainKeyword k := by decide

theorem isStop_open : IsStop '(' := ⟨by decide, by decide⟩

theorem insertedNames_append_open (t u : Text) :
    insertedNames (t ++ '(' :: u) = insertedNames t ++ insertedNames ('(' :: u) := by
  rw [insertedNames, afterEachKeywords_append_cons isStop_open, List.filterMap_append,
    List.filterMap_map]
  exact congrArg (· ++ _) (List.filterMap_congr fun r _ => Target.name?_append_cons isStop_open.path r u)

theorem insertedNames_upper (h : Steady t) : insertedNames t.upper = (insertedNames t).map upper := by
  rw [insertedNames, h.afterEachKeywords_upper isPlainKeyword_insertWords, List.filterMap_map, insertedNames,
    List.map_filterMap]
  exact List.filterMap_congr fun r hr =>
    Target.name?_upper (h.suffix (suffix_of_mem_afterEachKeywords hr))

end Clause

/-! ### The name before the parenthesis -/

namespace Text

variable {t u r w x y : Text}

/-- The run of path characters at the end of the text, up to white space. -/
def targetRun (t : Text) : Text :=
  takeWhileEnd isPathChar t.trimEnd

theorem targetRun_append {b : Text} (hu : u.getLast?.any isPathChar = false) (hw : w ≠ [])
    (hpath : ∀ c ∈ w, isPathChar c = true) (hb : ∀ c ∈ b, isSpace c = true) :
    targetRun (u ++ w ++ b) = w := by
  have htrim : trimEnd (u ++ w ++ b) = u ++ w := by
    obtain ⟨v, c, rfl⟩ := List.eq_nil_or_concat w |>.resolve_left hw
    have hspace : isSpace c = false := isSpace_eq_false_of_isPathChar (hpath c (by simp))
    have hblank : trimEnd b = [] := by
      rw [trimEnd, dropWhileEnd, List.dropWhile_eq_nil_iff.mpr]
      · rfl
      · exact fun c hc => hb c (List.mem_reverse.mp hc)
    have hassoc : u ++ (v ++ [c]) ++ b = (u ++ v) ++ c :: b := by simp
    rw [List.concat_eq_append, hassoc, trimEnd_append_cons _ hspace, hblank]
    simp
  rw [targetRun, htrim, takeWhileEnd_append_stop hpath hu]

end Text

namespace Clause

open Text

variable {t r x : Text}

/-- What follows `INSERT INTO` follows an `INTO` and white space. -/
theorem afterKeywords?_insertWords (h : afterKeywords? insertWords x = some r) :
    ∃ y, y = trimStart x.afterWord ∧ isKeyword "INTO".toList y.firstWord = true ∧
      y.afterWord.head?.any isSpace = true ∧ r = trimStart y.afterWord := by
  rw [insertWords, afterKeywords?] at h
  split_ifs at h
  rw [afterKeywords?] at h
  split_ifs at h with hinto
  rw [Bool.and_eq_true] at hinto
  exact ⟨_, rfl, hinto.1, hinto.2, (Option.some.inj h).symm⟩

/-- In a name and white space behind it stands no `INSERT INTO`. -/
theorem afterKeywords?_of_suffix {w b : Text} (hw : ∀ c ∈ w, isPathChar c = true)
    (hb : ∀ c ∈ b, isSpace c = true) (hx : x <:+ w ++ b) : afterKeywords? insertWords x = none := by
  have hspace : ∀ c ∈ w, isSpace c = false := fun c hc => isSpace_eq_false_of_isPathChar (hw c hc)
  rw [insertWords, afterKeywords?]
  split_ifs with hinsert
  · rw [Bool.and_eq_true] at hinsert
    have hafter := suffix_of_head?_isSpace hspace ((List.dropWhile_suffix _).trans hx) hinsert.2
    have hnil : trimStart (afterWord x) = [] :=
      List.dropWhile_eq_nil_iff.mpr fun c hc => hb c (hafter.subset hc)
    rw [hnil]
    rfl
  · rfl

theorem isTargetOnly_iff : isTargetOnly r = true ↔
    r.takeWhile isPathChar ≠ [] ∧ ∀ c ∈ r.dropWhile isPathChar, isSpace c = true := by
  simp [isTargetOnly]

/-- Behind an `INSERT INTO` with a target up to the end of the text stands no other one. -/
theorem insertWords_not_later (hxr : afterKeywords? insertWords x = some r)
    (htarget : isTargetOnly r = true) :
    x.afterWord.wordStarts.filterMap (afterKeywords? insertWords) = [] := by
  obtain ⟨y, hy, hinto, -, hry⟩ := afterKeywords?_insertWords hxr
  have hyne : y.firstWord ≠ [] := by
    intro e
    rw [e] at hinto
    exact absurd hinto (by decide)
  -- There start `INTO` and the words of the target.
  rw [← wordStarts_trimStart, ← hy, wordStarts_of_firstWord hyne, ← wordStarts_trimStart, ← hry,
    List.filterMap_eq_nil_iff]
  refine List.forall_mem_cons.mpr ⟨?_, fun z hz => ?_⟩
  · have hkey : isKeyword "INSERT".toList y.firstWord = false := by
      rw [isKeyword, beq_iff_eq] at hinto
      rw [isKeyword, hinto]
      decide
    rw [insertWords, afterKeywords?, hkey, Bool.false_and, if_neg Bool.false_ne_true]
  · have hsplit : r.takeWhile isPathChar ++ r.dropWhile isPathChar = r :=
      List.takeWhile_append_dropWhile
    have hzr := (suffix_of_mem_wordStarts hz).1
    rw [← hsplit] at hzr
    exact afterKeywords?_of_suffix (fun c hc => List.mem_takeWhile_imp hc)
      (isTargetOnly_iff.mp htarget).2 hzr

/-- A target in front of a parenthesis is the last one of its level. -/
theorem exists_afterEachKeywords_eq (hr : r ∈ afterEachKeywords insertWords t)
    (htarget : isTargetOnly r = true) :
    ∃ l, afterEachKeywords insertWords t = l ++ [r] := by
  obtain ⟨x, hx, hxr⟩ := List.mem_filterMap.mp hr
  obtain ⟨l, hl⟩ := exists_wordStartsFrom_eq hx
  refine ⟨l.filterMap (afterKeywords? insertWords), ?_⟩
  rw [afterEachKeywords, wordStarts, hl, List.filterMap_append, List.filterMap_cons, hxr,
    insertWords_not_later hxr htarget]

/-- A target in front of a parenthesis is the run there. -/
theorem targetRun_eq (hr : r ∈ afterEachKeywords insertWords t) (htarget : isTargetOnly r = true) :
    targetRun t = r.takeWhile isPathChar := by
  obtain ⟨hne, hblank⟩ := isTargetOnly_iff.mp htarget
  obtain ⟨x, hx, hxr⟩ := List.mem_filterMap.mp hr
  obtain ⟨y, hy, -, hspace, hry⟩ := afterKeywords?_insertWords hxr
  obtain ⟨g, hg, hgr⟩ := exists_isGap_append hspace
  have hyx : y <:+ x := hy ▸ (List.dropWhile_suffix _).trans (List.dropWhile_suffix _)
  obtain ⟨u, hu⟩ : y.afterWord <:+ t :=
    (List.dropWhile_suffix _).trans (hyx.trans (suffix_of_mem_wordStarts hx).1)
  have ht : t = u ++ g ++ r.takeWhile isPathChar ++ r.dropWhile isPathChar := by
    rw [List.append_assoc, List.takeWhile_append_dropWhile, hry, List.append_assoc, ← hgr, hu]
  rw [ht]
  exact targetRun_append (IsGap.getLast?_any hg (fun _ => isPathChar_eq_false_of_isSpace) u) hne
    (fun c hc => List.mem_takeWhile_imp hc) hblank

/-- The name of a target in front of a parenthesis is read of the run there. -/
theorem name?_takeWhile (htarget : isTargetOnly r = true) :
    Target.name? (r.takeWhile isPathChar) = Target.name? r := by
  have hblank := (isTargetOnly_iff.mp htarget).2
  have hsplit : r.takeWhile isPathChar ++ r.dropWhile isPathChar = r :=
    List.takeWhile_append_dropWhile
  conv_rhs => rw [← hsplit]
  cases hb : r.dropWhile isPathChar with
  | nil => rw [List.append_nil]
  | cons c b =>
    have hc : isSpace c = true := hblank c (hb ▸ List.mem_cons_self)
    rw [Target.name?_append_cons (isPathChar_eq_false_of_isSpace hc)]

/-- The run before the parenthesis of a column list is what the last `INSERT INTO` of the level is
followed by. -/
theorem exists_insertedNames_eq (h : (afterEachKeywords insertWords t).any isTargetOnly = true) :
    ∃ earlier, insertedNames t = earlier ++ (Target.name? (targetRun t)).toList := by
  obtain ⟨r, hr, htarget⟩ := List.any_eq_true.mp h
  obtain ⟨l, hl⟩ := exists_afterEachKeywords_eq hr htarget
  have hlast : [r].filterMap Target.name? = (Target.name? r).toList := by
    rw [List.filterMap_cons]
    cases Target.name? r <;> rfl
  refine ⟨l.filterMap Target.name?, ?_⟩
  rw [insertedNames, hl, List.filterMap_append, hlast, targetRun_eq hr htarget,
    name?_takeWhile htarget]

end Clause

end SqlAssist
