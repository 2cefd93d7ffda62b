import SqlAssist.Proofs.Sql.SparedLiteral
import SqlAssist.Proofs.Sql.TextEnd

/-!
# A line feed at the end

A line feed at the end of a text is the end of its last line and hides nothing: the comments before
it are those of the text without it (`Comment.mask_append_feed`).

With the line feed each lexeme is of the same kind and reaches as far inside the text
(`Lexicon.lexeme_feed`). The rules for code cannot end with a line feed, the one for line breaks
apart. A line comment takes the line feed, but nothing else is there to be taken
(`Lexicon.offset_of_restOfLine`). A carriage return at the end would be joined with the line feed,
so the text must have none.
-/

namespace SqlAssist

namespace Lexicon

open Pattern

variable {s e : Spot} {t p : Text} {before : Option Char}

/-! ### Line comments -/

theorem ends_lineEnd_of_ne {offset : Nat} {c : Char} {r : Text} (hfeed : c ≠ '\n')
    (hreturn : c ≠ '\r') : lineEnd.ends ⟨offset, before, c :: r⟩ = [] := by
  refine List.eq_nil_iff_forall_not_mem.mpr fun e he => ?_
  rcases mem_ends_any_cons.mp he with he | he
  · exact hreturn (List.cons.inj (rest_of_mem_ends_all_char he)).1
  rcases mem_ends_any_cons.mp he with he | he
  · obtain ⟨_, hs, -⟩ := mem_ends_char.mp he
    exact hreturn (List.cons.inj hs).1
  rcases mem_ends_any_cons.mp he with he | he
  · obtain ⟨_, hs, -⟩ := mem_ends_char.mp he
    exact hfeed (List.cons.inj hs).1
  · rw [any, ends, endsBefore] at he
    simp [hfeed] at he

/-- The line ends here, or it goes on with a character. -/
theorem ends_restOfLine_cons (offset : Nat) (before : Option Char) (c : Char) (r : Text) :
    restOfLine.ends ⟨offset, before, c :: r⟩ = lineEnd.ends ⟨offset, before, c :: r⟩ ++
      (inLine.ends ⟨offset, before, c :: r⟩).flatMap restOfLine.ends := by
  have hrounds : (reluctant inLine).ends ⟨offset, before, c :: r⟩ =
      ⟨offset, before, c :: r⟩ ::
        (inLine.ends ⟨offset, before, c :: r⟩).flatMap (reluctant inLine).ends := by
    refine (repeatReluctant_cons _ c r _).trans ?_
    refine congrArg (_ :: ·) (List.flatMap_congr fun m hm => ?_)
    obtain ⟨d, r', hs, -, rfl⟩ := mem_ends_one.mp hm
    rw [← (List.cons.inj hs).2]
    rfl
  rw [restOfLine, ends_seq, hrounds, List.flatMap_cons, List.flatMap_assoc]
  exact congrArg (_ ++ ·) (List.flatMap_congr fun m _ => (ends_seq _ _ m).symm)

/-- The rest of a line ends behind the next line feed, or where the text does. -/
theorem offset_of_restOfLine (h : '\r' ∉ s.rest) :
    (restOfLine.ends s).head?.map (·.offset) =
      some (s.offset + min (Text.firstOffset '\n' s.rest + 1) s.rest.length) := by
  obtain ⟨offset, before, rest⟩ := s
  induction rest generalizing offset before with
  | nil => rfl
  | cons c r ih =>
    obtain ⟨hc, hr⟩ := not_or.mp (List.mem_cons.not.mp h)
    rw [ends_restOfLine_cons]
    by_cases hfeed : c = '\n'
    · subst hfeed
      have hhead : (lineEnd.ends ⟨offset, before, '\n' :: r⟩).head? =
        some ⟨offset + 1, some '\n', r⟩ := rfl
      rw [List.head?_append, hhead]
      simp [Text.firstOffset]
    · have hnext : inLine.ends ⟨offset, before, c :: r⟩ = [⟨offset + 1, some c, r⟩] := by
        simp [inLine, ends, endsBefore, hfeed]
      rw [ends_lineEnd_of_ne hfeed (Ne.symm hc), hnext, List.nil_append, List.flatMap_singleton,
        ih _ _ hr]
      simp [Text.firstOffset, hfeed]
      omega

theorem length?_restOfLine (h : '\r' ∉ s.rest) :
    restOfLine.length? s = some (min (Text.firstOffset '\n' s.rest + 1) s.rest.length) := by
  have hoffset := congrArg (Option.map (· - s.offset)) (offset_of_restOfLine h)
  rw [Option.map_map, Option.map_some, Nat.add_sub_cancel_left] at hoffset
  exact hoffset

theorem isSteadyAt_restOfLine (h : '\r' ∉ s.rest) : restOfLine.IsSteadyAt s := by
  have hfeed : '\r' ∉ s.feed.rest := by simpa [Spot.feed] using h
  have hoffset : Text.firstOffset '\n' s.feed.rest = Text.firstOffset '\n' s.rest :=
    Text.firstOffset_append_cons
  rw [IsSteadyAt, length?_restOfLine h, length?_restOfLine hfeed, hoffset, Option.map_some]
  simp only [Spot.feed, List.length_append, List.length_singleton]
  congr 1
  omega

theorem not_mem_of_mem_ends {a : Pattern} {c : Char} (h : c ∉ s.rest) (he : e ∈ a.ends s) :
    c ∉ e.rest := by
  obtain ⟨x, hx, -⟩ := exists_moves he
  rw [hx.rest, List.mem_append, not_or] at h
  exact h.2

theorem isSteadyAt_lineCommentRules (h : '\r' ∉ s.rest) :
    ∀ a ∈ lineCommentRules, a.IsSteadyAt s := by
  have hopener : lineCommentOpener.ignoresFeed = true ∧ lineCommentOpener.canEnd '\n' = false := by
    decide
  have hplus : (some1 (char '+')).ignoresFeed = true ∧ (some1 (char '+')).canEnd '\n' = false := by
    decide
  intro a ha
  rcases List.mem_pair.mp ha with rfl | rfl
  · refine isSteadyAt_seq hopener.1 hopener.2 fun m hm => ?_
    refine isSteadyAt_seq hplus.1 hplus.2 fun m' hm' => ?_
    exact isSteadyAt_restOfLine (not_mem_of_mem_ends (not_mem_of_mem_ends h hm) hm')
  · refine isSteadyAt_seq hopener.1 hopener.2 fun m hm => ?_
    exact isSteadyAt_restOfLine (not_mem_of_mem_ends h hm)

/-! ### Rules for code -/

/-- Without carriage returns a line break is a line feed. -/
theorem length?_lineBreak (h : '\r' ∉ s.rest) :
    (any [exactly "\r\n", char '\r', char '\n']).length? s = (char '\n').length? s := by
  obtain ⟨offset, before, rest⟩ := s
  cases rest with
  | nil => rfl
  | cons c r =>
    have hreturn : c ≠ '\r' := fun e => h (e ▸ List.mem_cons_self)
    by_cases hfeed : c = '\n'
    · subst hfeed
      rfl
    · have hstart : (any [exactly "\r\n", char '\r', char '\n']).canStart c = false := by
        simp [any, exactly, all, char, canStart, hreturn, hfeed]
      have hchar : (char '\n').canStart c = false := by simp [char, canStart, hfeed]
      rw [length?_eq_none rfl rfl hstart, length?_eq_none rfl rfl hchar]

theorem isSteadyAt_codeRules (hs : s.rest ≠ []) (h : '\r' ∉ s.rest) :
    ∀ a ∈ codeRules, a.IsSteadyAt s := by
  have hrules : ((codeRules.drop 2).all fun a => a.ignoresFeed && !a.canEnd '\n') = true := by
    decide +kernel
  have hsplit : codeRules =
    any [exactly "\r\n", char '\r', char '\n'] :: space :: codeRules.drop 2 := rfl
  intro a ha
  rw [hsplit, List.mem_cons, List.mem_cons] at ha
  rcases ha with rfl | rfl | ha
  · have hfeed : '\r' ∉ s.feed.rest := by simpa [Spot.feed] using h
    rw [IsSteadyAt, length?_lineBreak h, length?_lineBreak hfeed]
    exact isSteadyAt_one _ hs
  · exact isSteadyAt_one _ hs
  · have hrule := List.all_eq_true.mp hrules a ha
    rw [Bool.and_eq_true, Bool.not_eq_true'] at hrule
    exact isSteadyAt_of_ignoresFeed hrule.1 hrule.2 s

theorem firstLength?_feed {ps : List Pattern} (h : ∀ a ∈ ps, a.IsSteadyAt s) :
    (firstLength? ps s.feed).map (min · s.rest.length) = firstLength? ps s := by
  rw [firstLength?, firstLength?, List.map_findSome?]
  exact findSome?_congr h

/-! ### Delimiters

Block comments and dollar-quoted bodies are found by delimiters that hold no line feed. -/

theorem isPrefixOf_feed (hp : '\n' ∉ p) (t : Text) :
    p.isPrefixOf (t ++ ['\n']) = p.isPrefixOf t := by
  rw [Bool.eq_iff_iff, List.isPrefixOf_iff_prefix, List.isPrefixOf_iff_prefix]
  exact Text.prefix_append_cons_iff hp

theorem lengthThrough?_feed (hp : p ≠ []) (hfeed : '\n' ∉ p) (t : Text) :
    lengthThrough? p (t ++ ['\n']) = lengthThrough? p t := by
  induction t with
  | nil =>
    obtain ⟨c, p, rfl⟩ := List.exists_cons_of_ne_nil hp
    have hc : c ≠ '\n' := fun e => hfeed (e ▸ List.mem_cons_self)
    simp [lengthThrough?, List.isPrefixOf, hc]
  | cons c t ih =>
    rw [List.cons_append, lengthThrough?, lengthThrough?, ← List.cons_append,
      isPrefixOf_feed hfeed, ih]

theorem blockCommentLength?_feed (t : Text) :
    blockCommentLength? (t ++ ['\n']) = blockCommentLength? t := by
  have hbody {q : Text} (hq : q.isPrefixOf t = true) :
      lengthThrough? "*/".toList ((t ++ ['\n']).drop q.length) =
        lengthThrough? "*/".toList (t.drop q.length) := by
    have hle := (List.isPrefixOf_iff_prefix.mp hq).length_le
    rw [List.drop_append_of_le_length hle, lengthThrough?_feed (by decide) (by decide)]
  rw [blockCommentLength?, blockCommentLength?, isPrefixOf_feed (by decide),
    isPrefixOf_feed (by decide)]
  split_ifs with hhint hopens
  · exact congrArg _ (hbody hhint)
  · exact congrArg _ (hbody hopens)
  · rfl

/-- A tag stands at the start of the text, and a line feed is no part of it. -/
theorem prefix_of_dollarTag? {tag : Text} (h : dollarTag? t = some tag) :
    tag <+: t ∧ tag ≠ [] ∧ '\n' ∉ tag := by
  obtain ⟨name, w, hname, rfl⟩ := exists_of_dollarTag? h
  obtain rfl : '$' :: name ++ ['$'] = tag := Option.some.inj ((dollarTag?_tag hname w).symm.trans h)
  refine ⟨⟨w, by simp⟩, List.cons_ne_nil _ _, ?_⟩
  have hfeed : '\n' ∉ name := by
    rcases hname with rfl | ⟨-, hword⟩
    · exact List.not_mem_nil
    · exact fun hmem => absurd (hword '\n' hmem) (by decide)
  simpa using hfeed

theorem dollarTag?_feed (t : Text) : dollarTag? (t ++ ['\n']) = dollarTag? t := by
  cases h : dollarTag? t with
  | some tag =>
    obtain ⟨name, w, hname, rfl⟩ := exists_of_dollarTag? h
    rw [← h, dollarTag?_tag hname]
    simpa using dollarTag?_tag hname (w ++ ['\n'])
  | none =>
    refine Option.eq_none_iff_forall_ne_some.mpr fun tag htag => ?_
    obtain ⟨name, w, hname, ht⟩ := exists_of_dollarTag? htag
    -- The tag ends with a dollar sign, so the line feed stands behind it.
    obtain ⟨v, rfl⟩ : ∃ v, w = v ++ ['\n'] := by
      have htext : t ++ ['\n'] = '$' :: name ++ ['$'] ++ w := ht.trans (by simp)
      rcases List.eq_nil_or_concat w with rfl | ⟨v, c, rfl⟩
      · have hlast := congrArg List.getLast? htext
        rw [List.append_nil, List.getLast?_concat, List.getLast?_concat] at hlast
        exact absurd hlast (by decide)
      · have hlast := congrArg List.getLast? htext
        rw [List.concat_eq_append, ← List.append_assoc, List.getLast?_concat, List.getLast?_concat]
          at hlast
        exact ⟨v, by rw [Option.some.inj hlast, List.concat_eq_append]⟩
    obtain rfl : t = '$' :: (name ++ '$' :: v) := List.append_cancel_right (ht.trans (by simp))
    rw [dollarTag?_tag hname] at h
    cases h

theorem dollarQuoteLength?_feed (s : Spot) : dollarQuoteLength? s.feed = dollarQuoteLength? s := by
  have hbefore : s.feed.before = s.before := rfl
  have htag : dollarTag? s.feed.rest = dollarTag? s.rest := dollarTag?_feed s.rest
  rw [dollarQuoteLength?, dollarQuoteLength?, hbefore, htag]
  split_ifs
  · rfl
  · cases h : dollarTag? s.rest with
    | none => rfl
    | some tag =>
      obtain ⟨hstarts, hne, hfeed⟩ := prefix_of_dollarTag? h
      have hdrop : s.feed.rest.drop tag.length = s.rest.drop tag.length ++ ['\n'] :=
        List.drop_append_of_le_length hstarts.length_le
      simp only [hdrop, lengthThrough?_feed hne hfeed]

/-! ### Lexemes -/

/-- With a line feed behind the text a lexeme is of the same kind and reaches as far inside it. -/
theorem lexeme_feed (hs : s.rest ≠ []) (h : '\r' ∉ s.rest) :
    (lexeme s.feed).1 = (lexeme s).1 ∧
      min (lexeme s.feed).2 s.rest.length = min (lexeme s).2 s.rest.length := by
  have hblock : blockCommentLength? s.feed.rest = blockCommentLength? s.rest :=
    blockCommentLength?_feed s.rest
  have hline := firstLength?_feed (isSteadyAt_lineCommentRules h)
  have hcode := firstLength?_feed (isSteadyAt_codeRules hs h)
  rw [lexeme, lexeme, hblock, dollarQuoteLength?_feed, ← hline, ← hcode]
  cases blockCommentLength? s.rest with
  | some n => exact ⟨rfl, rfl⟩
  | none =>
    cases dollarQuoteLength? s with
    | some n => exact ⟨rfl, rfl⟩
    | none =>
      cases firstLength? lineCommentRules s.feed with
      | some n => exact ⟨rfl, by simp⟩
      | none =>
        cases firstLength? codeRules s.feed with
        | some n => exact ⟨rfl, by simp⟩
        | none => exact ⟨rfl, rfl⟩

/-- The characters of the text keep their kinds, if as much is left of the current lexeme inside the
text. -/
theorem kindsFrom_feed (h : '\r' ∉ t) (left' left : Nat)
    (hleft : min left' t.length = min left t.length) (kind : Kind) (before : Option Char) :
    ∃ k, kindsFrom kind left' before (t ++ ['\n']) = kindsFrom kind left before t ++ [k] := by
  induction t generalizing left' left kind before with
  | nil =>
    cases left' with
    | zero => exact ⟨_, rfl⟩
    | succ left' => exact ⟨kind, rfl⟩
  | cons c t ih =>
    have ht : '\r' ∉ t := fun hmem => h (List.mem_cons_of_mem c hmem)
    rw [List.length_cons] at hleft
    cases left' with
    | zero =>
      obtain rfl : left = 0 := by omega
      obtain ⟨hkind, hlength⟩ :=
        lexeme_feed (s := { before, rest := c :: t }) (List.cons_ne_nil c t) h
      have hfeed : Spot.feed { before, rest := c :: t } =
        { before, rest := c :: (t ++ ['\n']) } := rfl
      rw [hfeed] at hkind hlength
      simp only [List.cons_append, kindsFrom, hkind, List.length_cons] at hlength ⊢
      generalize (lexeme { before, rest := c :: (t ++ ['\n']) }).2 = n' at hlength ⊢
      generalize lexeme { before, rest := c :: t } = l at hlength ⊢
      obtain ⟨k, hk⟩ := ih ht (n' - 1) (l.2 - 1) (by omega) l.1 (some c)
      exact ⟨k, congrArg (l.1 :: ·) hk⟩
    | succ left' =>
      obtain ⟨left, rfl⟩ := Nat.exists_eq_add_one_of_ne_zero (n := left) (by omega)
      obtain ⟨k, hk⟩ := ih ht left' left (by omega) kind (some c)
      exact ⟨k, congrArg (kind :: ·) hk⟩

end Lexicon

namespace Comment

open Lexicon

/-- A line feed behind a text hides nothing of it. -/
theorem mask_append_feed {t : Text} (h : '\r' ∉ t) : mask (t ++ ['\n']) = mask t ++ ['\n'] := by
  obtain ⟨k, hk⟩ := kindsFrom_feed h 0 0 rfl .code none
  have hfeed : maskChar k '\n' = '\n' := by
    rw [maskChar]
    split_ifs <;> rfl
  rw [mask_eq_maskFrom, mask_eq_maskFrom, maskFrom, hk, List.zipWith_append (length_kindsFrom ..),
    List.zipWith_cons_cons, List.zipWith_nil_left, hfeed, maskFrom]

end Comment

end SqlAssist
