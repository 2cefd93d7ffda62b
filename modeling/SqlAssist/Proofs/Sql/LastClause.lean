import SqlAssist.Proofs.Sql.ClauseSearch

/-!
# The last keyword of a text

The clause of a text is the one that the last of its admitted keywords introduces. A list of clauses
that is searched for the one whose keyword is the last gives the same in any order, since no other
clause passes the test (`firstOf_eq_classify`).

What is typed behind white space leaves the keywords of the text in front alone: a word of the text
ends there, and so does each keyword, but for a `GROUP` or `ORDER` that waits for its `BY`
(`occurrences_append`). So the keywords of the whole text are those in front and those typed, admitted
one after the other (`keywords_append`). **`classify_last_keyword`** draws the conclusions: text
without a keyword stays in the clause, and a typed keyword opens its own, where an `ON` needs a `JOIN`
in front and a `SET` an `UPDATE`.
-/

namespace SqlAssist

namespace Text

variable {w : Text}

theorem tidy_trimStart_eq_nil_iff (t : Text) : tidy t.trimStart = [] ↔ t.trimStart = [] := by
  have hhead : t.trimStart.head?.any isSpace = false := head?_dropWhile isSpace t
  cases h : t.trimStart with
  | nil => exact iff_of_true rfl rfl
  | cons c r =>
    rw [h] at hhead
    rw [tidy_cons hhead]
    exact iff_of_false (List.cons_ne_nil _ _) (List.cons_ne_nil _ _)

theorem tidy_of_head?_isSpace (hw : w.head?.any isSpace = true) :
    tidy w = if w.trimStart = [] then [] else ' ' :: tidy w.trimStart := by
  obtain ⟨c, r, rfl⟩ := List.exists_cons_of_ne_nil (l := w) (by rintro rfl; cases hw)
  simp only [tidy_cons_of_isSpace hw, trimStart_cons_of_isSpace hw, tidy_trimStart_eq_nil_iff]

/-- A text is made tidy in two pieces, if the second one starts with white space. -/
theorem tidy_append (hw : w.head?.any isSpace = true) (t : Text) :
    tidy (t ++ w) = tidy t ++ tidy w := by
  induction t using spaceInduction with
  | nil => rfl
  | char c t hc ih => rw [List.cons_append, tidy_cons hc, tidy_cons hc, ih, List.cons_append]
  | space c t hc ih =>
    have hspace : ∀ r, (c :: r).head?.any isSpace = true := fun _ => hc
    rw [List.cons_append, tidy_of_head?_isSpace (hspace _), tidy_of_head?_isSpace (hspace t),
      trimStart_cons_of_isSpace hc, trimStart_cons_of_isSpace hc, trimStart_append]
    by_cases ht : t.trimStart = []
    · -- The white space goes on in the second piece.
      simp only [ht, if_true]
      exact (tidy_of_head?_isSpace hw).symm
    · simp [ht, ih]

end Text

namespace Clause

open Text

variable {t u w : Text} {c : Clause} {cs : List Clause}

/-! ### The order of the clauses -/

/-- The clauses in the order in which they are tried. -/
def cascade : List Clause :=
  [set, whereCondition, having, order, group, on, join, fromTables, update, delete, insert, into,
    values, select]

/-- The first clause of a list whose keyword is the last of those seen. -/
def firstOf (cs seen : List Clause) : Clause :=
  (cs.find? fun c => seen.getLast? = some c).getD absent

theorem classify_eq_of_getLast? (h : (keywords (normalize t)).getLast? = some c) : classify t = c := by
  rw [classify, h]
  rfl

theorem firstOf_eq_classify (hcs : cs.Perm cascade) (t : Text) :
    firstOf cs (keywords (normalize t)) = classify t := by
  have hall : ∀ c ∈ ofWords ++ ofByWords, c ∈ cascade := by decide
  rw [firstOf]
  cases hfind : cs.find? fun c => (keywords (normalize t)).getLast? = some c with
  | some c =>
    have hlast := List.find?_some (p := fun c => (keywords (normalize t)).getLast? = some c) hfind
    exact (classify_eq_of_getLast? (of_decide_eq_true hlast)).symm
  | none =>
    refine ((classify_eq_absent_iff t).mpr ?_).symm
    refine List.getLast?_eq_none_iff.mp (Option.eq_none_iff_forall_not_mem.mpr fun c hc => ?_)
    have hmem : c ∈ cs := hcs.mem_iff.mpr (hall c (mem_of_mem_keywords (List.mem_of_getLast? hc)))
    exact List.find?_eq_none.mp hfind c hmem (decide_eq_true hc)

/-! ### Typing behind white space -/

theorem normalize_of_trimStart_eq_nil (h : t.trimStart = []) : normalize t = [] := by
  rw [normalize_eq, h]
  rfl

/-- What is typed behind white space is normalized by itself, and one space is left in between. -/
theorem normalize_append (hw : w.head?.any isSpace = true) (t : Text) :
    normalize (t ++ w) =
      if t.trimStart = [] then normalize w
      else if w.trimStart = [] then normalize t
      else normalize t ++ ' ' :: normalize w := by
  rw [normalize_eq (t ++ w), trimStart_append]
  split_ifs with ht hnil
  · exact (normalize_eq w).symm
  · rw [tidy_append hw, tidy_of_head?_isSpace hw, if_pos hnil, List.append_nil, normalize_eq]
  · rw [tidy_append hw, tidy_of_head?_isSpace hw, if_neg hnil, upper_append, normalize_eq t,
      normalize_eq w]
    rfl

theorem startsBy_append_space (hu : u.firstWord ≠ "BY".toList) (x : Text) :
    startsBy (x ++ ' ' :: u) = startsBy x := by
  cases x with
  | nil => exact decide_eq_false hu
  | cons c x =>
    by_cases hc : c = ' '
    · subst hc
      have hword : firstWord (x ++ ' ' :: u) = firstWord x :=
        takeWhile_append_cons (by decide) x u
      rw [List.cons_append, startsBy, startsBy, hword]
    · simp [startsBy, hc]

/-- The keywords in front of a space and behind it are those of the whole, unless a `BY` follows. -/
theorem occurrences_append_space (hu : u.firstWord ≠ "BY".toList) (t : Text) :
    occurrences (t ++ ' ' :: u) = occurrences t ++ occurrences u := by
  have hspace : isWordChar ' ' = false := by decide
  have hapart : Apart t (' ' :: u) := Or.inr hspace
  have hrest : wordStarts (' ' :: u) = wordStarts u :=
    wordStartsFrom_no_word_append (List.cons_ne_nil ' ' []) (by simpa using hspace) false u
  rw [occurrences, wordStarts_append hapart, hrest, List.filterMap_append, List.filterMap_map]
  refine congrArg (· ++ occurrences u) (List.filterMap_congr fun x hx => ?_)
  rw [Function.comp_apply, ofKeyword?_eq, ofKeyword?_eq, firstWord_append hapart hx,
    afterWord_append hapart hx, startsBy_append_space hu]

/-- A text keeps its keywords when more is typed behind white space, unless that starts with `BY`. -/
theorem occurrences_append (hw : w.head?.any isSpace = true)
    (hby : (normalize w).firstWord ≠ "BY".toList) (t : Text) :
    occurrences (normalize (t ++ w)) = occurrences (normalize t) ++ occurrences (normalize w) := by
  rw [normalize_append hw]
  split_ifs with ht hnil
  · rw [normalize_of_trimStart_eq_nil ht]
    rfl
  · rw [normalize_of_trimStart_eq_nil hnil]
    exact (List.append_nil _).symm
  · exact occurrences_append_space hby _

/-- The typed keywords are admitted behind those of the text in front. -/
theorem keywords_append (hw : w.head?.any isSpace = true)
    (hby : (normalize w).firstWord ≠ "BY".toList) (t : Text) :
    keywords (normalize (t ++ w)) =
      (occurrences (normalize w)).foldl addTo (keywords (normalize t)) := by
  rw [keywords_eq, keywords_eq, occurrences_append hw hby, List.foldl_append]

/-- The keyword of a clause, typed between spaces. -/
def typed (c : Clause) : Text :=
  ' ' :: c.name.toList ++ (if c ∈ ofByWords then " BY ".toList else [' '])

theorem keywords_append_typed (hc : c ∈ cascade) (t : Text) :
    keywords (normalize (t ++ typed c)) = addTo (keywords (normalize t)) c := by
  have htyped : ∀ c ∈ cascade, (typed c).head?.any isSpace = true ∧
      (normalize (typed c)).firstWord ≠ "BY".toList ∧ occurrences (normalize (typed c)) = [c] := by
    decide +kernel
  obtain ⟨hspace, hby, hocc⟩ := htyped c hc
  rw [keywords_append hspace hby, hocc]
  rfl

/-- A typed keyword introduces its clause where it is admitted. -/
theorem classify_append_typed (hc : c ∈ cascade) (t : Text) :
    classify (t ++ typed c) =
      if (c = on ∧ join ∉ keywords (normalize t)) ∨ (c = set ∧ update ∉ keywords (normalize t)) then
        classify t
      else c := by
  rw [classify, keywords_append_typed hc, addTo]
  split_ifs
  · rfl
  · rw [List.getLast?_concat]
    rfl

/-- **The last admitted keyword tells the clause**, and it stays the last one while no keyword is
typed. -/
theorem classify_last_keyword (t : Text) :
    ((∀ c, (keywords (normalize t)).getLast? = some c → classify t = c) ∧
      (classify t = absent ↔ keywords (normalize t) = []) ∧
      ∀ cs : List Clause, cs.Perm cascade → firstOf cs (keywords (normalize t)) = classify t) ∧
    (∀ w : Text, w.head?.any isSpace = true → occurrences (normalize w) = [] →
      (normalize w).firstWord ≠ "BY".toList → classify (t ++ w) = classify t) ∧
    (∀ c ∈ cascade, c ≠ on → c ≠ set → classify (t ++ typed c) = c) ∧
    classify (t ++ typed on) = (if join ∈ keywords (normalize t) then on else classify t) ∧
    classify (t ++ typed set) = (if update ∈ keywords (normalize t) then set else classify t) := by
  refine ⟨⟨fun c hc => classify_eq_of_getLast? hc, classify_eq_absent_iff t,
    fun cs hcs => firstOf_eq_classify hcs t⟩, fun w hw hnone hby => ?_,
    fun c hc hon hset => ?_, ?_, ?_⟩
  · rw [classify, keywords_append hw hby, hnone]
    rfl
  · rw [classify_append_typed hc, if_neg (by simp [hon, hset])]
  · rw [classify_append_typed (by decide)]
    simp
  · rw [classify_append_typed (by decide)]
    simp

/-- A name that only starts like the `BY` that a `GROUP` waits for, then a keyword. -/
theorem classify_last_keyword_behind_group :
    (keywords (normalize "select a from t group".toList)).getLast? = some fromTables ∧
      classify "select a from t group".toList = fromTables ∧
      cascade.reverse.Perm cascade ∧
      firstOf cascade.reverse (keywords (normalize "select a from t group".toList)) = fromTables ∧
      "\nby_hour".toList.head?.any isSpace = true ∧
      occurrences (normalize "\nby_hour".toList) = [] ∧
      (normalize "\nby_hour".toList).firstWord ≠ "BY".toList ∧
      classify ("select a from t group".toList ++ "\nby_hour".toList) = fromTables ∧
      classify ("select a from t group".toList ++ typed having) = having := by
  have hlast : (keywords (normalize "select a from t group".toList)).getLast? = some fromTables := by
    decide
  have hspace : "\nby_hour".toList.head?.any isSpace = true := by decide
  have hnone : occurrences (normalize "\nby_hour".toList) = [] := by decide
  have hby : (normalize "\nby_hour".toList).firstWord ≠ "BY".toList := by decide
  obtain ⟨⟨hclause, -, horder⟩, hstays, hopens, -⟩ :=
    classify_last_keyword "select a from t group".toList
  have hfrom := hclause _ hlast
  refine ⟨hlast, hfrom, cascade.reverse_perm, ?_, hspace, hnone, hby, ?_, ?_⟩
  · rw [horder _ cascade.reverse_perm, hfrom]
  · rw [hstays _ hspace hnone hby, hfrom]
  · exact hopens having (by decide) (by decide) (by decide)

/-- The `BY` itself makes a keyword of the `GROUP`. -/
example : classify ("select a from t group".toList ++ "\nby hour".toList) = group := by
  decide

end Clause

end SqlAssist
