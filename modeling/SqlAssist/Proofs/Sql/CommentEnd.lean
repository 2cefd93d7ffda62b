import SqlAssist.Proofs.Sql.Lexeme
import SqlAssist.Proofs.Text.Space

/-!
# Where comments end

A block comment ends with its closer and a line comment with the end of its line, unless
the text ends first (`IsLexeme.exists_getLast?`). So no comment goes over into a path that
is written behind it: the path at the end of a text is seen in the masked text, too
(`lastPath_mask`). Only a line comment that is the last lexeme can hold the path itself, as
a line feed at the very end is looked past; in the masked text no path is left then
(`lastPath_mask_of_lineComment`).
-/

namespace SqlAssist

namespace Pattern

variable {a b : Pattern} {s e : Spot}

/-- The best match of two patterns in a row is a best match of the second one. -/
theorem exists_head?_ends_of_seq (h : ((seq a b).ends s).head? = some e) :
    ∃ m ∈ a.ends s, (b.ends m).head? = some e := by
  rw [ends_seq, List.head?_flatMap] at h
  exact List.exists_of_findSome?_eq_some h

end Pattern

namespace Lexicon

variable {before : Option Char} {kind : Kind} {p t x r : Text} {s e : Spot}

/-! ### Block comments -/

theorem exists_take_of_lengthThrough? {n : Nat} (h : lengthThrough? p t = some n) :
    ∃ w, t.take n = w ++ p := by
  induction t generalizing n with
  | nil => cases h
  | cons c t ih =>
    rw [lengthThrough?] at h
    split_ifs at h with hp
    · obtain rfl := Option.some.inj h
      obtain ⟨u, hu⟩ := List.isPrefixOf_iff_prefix.mp hp
      exact ⟨[], by rw [← hu, List.take_left]; rfl⟩
    · obtain ⟨k, hk, rfl⟩ := Option.map_eq_some_iff.mp h
      obtain ⟨w, hw⟩ := ih hk
      exact ⟨c :: w, by rw [List.take_succ_cons, hw]; rfl⟩

/-- A block comment reaches over its closer. -/
theorem exists_take_of_blockCommentLength? {n : Nat} (h : blockCommentLength? t = some n) :
    ∃ w, t.take n = w ++ ['*', '/'] := by
  have hbody {k m : Nat} (hm : lengthThrough? "*/".toList (t.drop k) = some m) :
      ∃ w, t.take (m + k) = w ++ ['*', '/'] := by
    obtain ⟨w, hw⟩ := exists_take_of_lengthThrough? hm
    exact ⟨t.take k ++ w, by rw [Nat.add_comm, List.take_add, hw, List.append_assoc]; rfl⟩
  rw [blockCommentLength?] at h
  split_ifs at h
  · obtain ⟨m, hm, rfl⟩ := Option.map_eq_some_iff.mp h
    exact hbody hm
  · obtain ⟨m, hm, rfl⟩ := Option.map_eq_some_iff.mp h
    exact hbody hm

theorem IsLexeme.getLast?_of_blockComment (h : IsLexeme before .blockComment x r) :
    x.getLast? = some '/' := by
  rcases h.cases with ⟨-, n, hn⟩ | ⟨hk, -⟩ | ⟨hk, -⟩ | ⟨hk, -⟩
  · obtain ⟨w, hw⟩ := exists_take_of_blockCommentLength? hn
    have htake := h.take_eq
    simp only [lexeme, hn] at htake
    have hpos : max 1 n = n := by
      have := congrArg List.length hw
      simp at this
      omega
    rw [← htake, hpos, hw]
    simp
  · cases hk
  · cases hk
  · cases hk

/-! ### Line comments -/

theorem OpensLine.two_le_length (h : OpensLine t) : 2 ≤ t.length :=
  h.elim (·.length_le) (·.length_le)

/-- The end of a line is a line break, or the text ends. -/
theorem rest_of_head?_ends_lineEnd (h : (lineEnd.ends s).head? = some e) :
    e.rest = [] ∨ ∃ y b, s.rest = y ++ b :: e.rest ∧ Text.isLineBreak b = true := by
  rcases Pattern.mem_ends_any_cons.mp (List.mem_of_mem_head? h) with he | he
  · exact Or.inr ⟨['\r'], '\n', Pattern.rest_of_mem_ends_all_char he, rfl⟩
  rcases Pattern.mem_ends_any_cons.mp he with he | he
  · obtain ⟨r, hs, rfl⟩ := Pattern.mem_ends_char.mp he
    exact Or.inr ⟨[], '\r', hs, rfl⟩
  rcases Pattern.mem_ends_any_cons.mp he with he | he
  · obtain ⟨r, hs, rfl⟩ := Pattern.mem_ends_char.mp he
    exact Or.inr ⟨[], '\n', hs, rfl⟩
  -- The end of the text counts only if no line feed is left: that one comes first.
  · rw [Pattern.any, Pattern.ends, Pattern.endsBefore] at he
    split_ifs at he with hend
    · obtain rfl := List.mem_singleton.mp he
      rcases hend with hrest | hrest
      · exact Or.inl hrest
      · obtain ⟨offset, b, rest⟩ := e
        obtain rfl : rest = ['\n'] := hrest
        have hfeed : (lineEnd.ends ⟨offset, b, ['\n']⟩).head? = some ⟨offset + 1, some '\n', []⟩ := rfl
        cases hfeed.symm.trans h
    · exact absurd he List.not_mem_nil

/-- A line comment is followed by nothing or ends with a line break. -/
theorem IsLexeme.getLast?_of_lineComment (h : IsLexeme before .lineComment x r) :
    r = [] ∨ ∃ b, x.getLast? = some b ∧ Text.isLineBreak b = true := by
  rcases h.cases with ⟨hk, -⟩ | ⟨hk, -⟩ | ⟨-, n, hn, htake⟩ | ⟨hk, -⟩
  · cases hk
  · cases hk
  · obtain ⟨a, ha, hlength⟩ := exists_length?_of_firstLength? hn
    obtain ⟨e, he, rfl⟩ := Option.map_eq_some_iff.mp hlength
    -- Both rules go up to some spot, and from there to the end of the line.
    obtain ⟨m, w, hw, hm⟩ : ∃ m w, Spot.Moves { before, rest := x ++ r } w m ∧
        (lineEnd.ends m).head? = some e := by
      rcases List.mem_pair.mp ha with rfl | rfl
      · obtain ⟨m₁, h₁, he⟩ := Pattern.exists_head?_ends_of_seq he
        obtain ⟨m₂, h₂, he⟩ := Pattern.exists_head?_ends_of_seq he
        obtain ⟨m₃, h₃, he⟩ := Pattern.exists_head?_ends_of_seq he
        obtain ⟨w₁, hw₁, -⟩ := Pattern.exists_moves h₁
        obtain ⟨w₂, hw₂, -⟩ := Pattern.exists_moves h₂
        obtain ⟨w₃, hw₃, -⟩ := Pattern.exists_moves h₃
        exact ⟨m₃, _, (hw₁.trans hw₂).trans hw₃, he⟩
      · obtain ⟨m₁, h₁, he⟩ := Pattern.exists_head?_ends_of_seq he
        obtain ⟨m₂, h₂, he⟩ := Pattern.exists_head?_ends_of_seq he
        obtain ⟨w₁, hw₁, -⟩ := Pattern.exists_moves h₁
        obtain ⟨w₂, hw₂, -⟩ := Pattern.exists_moves h₂
        exact ⟨m₂, _, hw₁.trans hw₂, he⟩
    obtain ⟨y, hy, -⟩ := Pattern.exists_moves (List.mem_of_mem_head? hm)
    have hmoves := hw.trans hy
    have hoffset : e.offset = 0 + (w ++ y).length := hmoves.offset
    have hpos : max 1 (e.offset - 0) = (w ++ y).length := by
      have hopens := (opensLine_of_firstLength? hn).two_le_length
      rw [List.length_take] at hopens
      omega
    obtain rfl : x = w ++ y := by rw [← hmoves.take_length, ← hpos, htake]
    obtain rfl : r = e.rest := List.append_cancel_left hmoves.rest
    refine (rest_of_head?_ends_lineEnd hm).imp_right fun ⟨z, b, hz, hb⟩ => ⟨b, ?_, hb⟩
    have hyz : y = z ++ [b] := List.append_cancel_right (by rw [← hy.rest, hz, List.append_cons])
    simp [hyz]
  · cases hk

end Lexicon

namespace Comment

open Lexicon

variable {before : Option Char} {kind : Lexicon.Kind} {t x r : Text}

/-! ### Paths in masked texts -/

theorem exists_getLast?_maskFrom (before : Option Char) (t : Text) :
    ∃ kind, (maskFrom before t).getLast? = t.getLast?.map (maskChar kind) := by
  rcases List.eq_nil_or_concat' t with rfl | ⟨u, c, rfl⟩
  · exact ⟨.code, rfl⟩
  · have hlength := length_kindsFrom .code 0 before (u ++ [c])
    obtain ⟨kinds, kind, hkinds⟩ :=
      (List.eq_nil_or_concat' (kindsFrom .code 0 before (u ++ [c]))).resolve_left fun e => by
        simp [e] at hlength
    have hu : kinds.length = u.length := by
      rw [hkinds] at hlength
      simpa using hlength
    refine ⟨kind, ?_⟩
    rw [maskFrom, hkinds, List.zipWith_append hu]
    simp

theorem maskChar_eq_feed_iff (kind : Lexicon.Kind) (c : Char) : maskChar kind c = '\n' ↔ c = '\n' := by
  rw [maskChar]
  split_ifs
  · exact Iff.rfl
  · exact Text.blankChar_eq_feed_iff

/-- A line feed at the end stays one. -/
theorem length_dropFinalBreak_maskFrom (before : Option Char) (t : Text) :
    (Text.dropFinalBreak (maskFrom before t)).length = (Text.dropFinalBreak t).length := by
  obtain ⟨kind, hlast⟩ := exists_getLast?_maskFrom before t
  have hfeed : (maskFrom before t).getLast? = some '\n' ↔ t.getLast? = some '\n' := by
    rw [hlast, Option.map_eq_some_iff]
    simp only [maskChar_eq_feed_iff, exists_eq_right]
  rw [Text.dropFinalBreak, Text.dropFinalBreak]
  by_cases h : t.getLast? = some '\n'
  · rw [if_pos h, if_pos (hfeed.mpr h), List.length_dropLast, List.length_dropLast, length_maskFrom]
  · rw [if_neg h, if_neg (mt hfeed.mp h), length_maskFrom]

/-- No path goes on behind a comment that does not end with the text. -/
theorem takeWhileEnd_comment (h : IsLexeme before kind x r) (hk : kind ≠ .code) (hr : r ≠ []) :
    Text.takeWhileEnd Text.isPathChar x = [] := by
  rw [Text.takeWhileEnd_eq_nil_iff]
  cases kind with
  | code => exact absurd rfl hk
  | blockComment =>
    rw [h.getLast?_of_blockComment]
    decide
  | lineComment =>
    obtain ⟨b, hb, hbreak⟩ := h.getLast?_of_lineComment.resolve_left hr
    have hblank : Text.blankChar b = b := if_pos hbreak
    rw [hb, Option.any_some, ← hblank, Text.isPathChar_blankChar]

/-- No path stands where the text ends with a block comment, blanked or not. -/
theorem lastPath_blockComment (h : IsLexeme before .blockComment x []) :
    Text.lastPath (Text.blank x) = Text.lastPath x := by
  have hslash := h.getLast?_of_blockComment
  have hblank : (Text.blank x).getLast? = some ' ' := by
    rw [Text.blank, List.getLast?_map, hslash]
    rfl
  rw [Text.lastPath_eq_nil hslash (by decide), Text.lastPath_eq_nil hblank (by decide)]

/-- The path at the end of a text is seen behind a masked lexeme if it is seen in the rest. -/
theorem lastPath_append_maskFrom (h : IsLexeme before kind x r) (hr : r ≠ [])
    (hrest : Text.lastPath (maskFrom x.getLast? r) = Text.lastPath r) :
    Text.lastPath ((if kind = .code then x else Text.blank x) ++ maskFrom x.getLast? r) =
      Text.lastPath (x ++ r) := by
  have hmask : maskFrom x.getLast? r ≠ [] := fun e => by
    have hlength := length_maskFrom x.getLast? r
    rw [e] at hlength
    exact hr (List.length_eq_zero_iff.mp hlength.symm)
  have hfront : Text.takeWhileEnd Text.isPathChar (if kind = .code then x else Text.blank x) =
      Text.takeWhileEnd Text.isPathChar x := by
    split_ifs with hk
    · rfl
    · rw [Text.takeWhileEnd_blank, takeWhileEnd_comment h hk hr]
  replace hrest : Text.takeWhileEnd Text.isPathChar (Text.dropFinalBreak (maskFrom x.getLast? r)) =
      Text.takeWhileEnd Text.isPathChar (Text.dropFinalBreak r) := hrest
  rw [Text.lastPath, Text.lastPath, Text.dropFinalBreak_append _ hmask,
    Text.dropFinalBreak_append _ hr, Text.takeWhileEnd_append, Text.takeWhileEnd_append, hfront,
    hrest, length_dropFinalBreak_maskFrom]
  -- Where the path covers the rest, the rest is seen as it is.
  split_ifs with hcovers
  · rw [← (Text.takeWhileEnd_suffix _ _).eq_of_length hcovers, ← hrest]
    have hmasked := congrArg List.length hrest
    rw [hcovers, ← length_dropFinalBreak_maskFrom x.getLast?] at hmasked
    rw [(Text.takeWhileEnd_suffix _ _).eq_of_length hmasked]
  · rfl

/-- The path at the end is seen in the masked text, unless the last lexeme is a line comment. -/
theorem lastPath_maskFrom (h : (kindsFrom .code 0 before t).getLast? ≠ some .lineComment) :
    Text.lastPath (maskFrom before t) = Text.lastPath t := by
  induction before, t using lexemeInduction with
  | nil before => rfl
  | lexeme before kind x r hx ih =>
    rw [getLast?_kindsFrom_lexeme hx] at h
    rw [maskFrom_lexeme hx]
    split_ifs at h with hr
    · subst hr
      have hnil : maskFrom x.getLast? [] = [] := List.zipWith_nil_right
      rw [hnil, List.append_nil, List.append_nil]
      cases kind with
      | code => rfl
      | lineComment => exact absurd rfl h
      | blockComment => exact lastPath_blockComment hx
    · exact lastPath_append_maskFrom hx hr (ih h)

/-- The path at the end is seen in the masked text, unless the last lexeme is a line comment. -/
theorem lastPath_mask (h : (kinds t).getLast? ≠ some .lineComment) :
    Text.lastPath (mask t) = Text.lastPath t := by
  rw [mask_eq_maskFrom]
  exact lastPath_maskFrom h

/-- Behind a line comment no path is seen. -/
theorem lastPath_mask_of_lineComment (h : (kinds t).getLast? = some .lineComment) :
    Text.lastPath (mask t) = [] := by
  obtain ⟨a, x, m, rfl, hx, -, hmask⟩ := exists_of_getLast?_kindsFrom none t h
  have hopener := hx.two_le_length
  have hblank : Text.blank x ≠ [] := fun e => by
    rw [List.map_eq_nil_iff.mp e] at hopener
    exact absurd hopener (by decide)
  rw [mask_eq_maskFrom, hmask, Text.lastPath, Text.dropFinalBreak_append m hblank,
    Text.dropFinalBreak_blank, Text.takeWhileEnd_append, Text.takeWhileEnd_blank]
  -- The opener is left of the comment, with or without its line feed.
  refine if_neg fun hlength => ?_
  have hfront := Text.length_le_dropFinalBreak x
  simp only [List.length_nil, Text.blank, List.length_map] at hlength
  omega

end Comment

end SqlAssist
