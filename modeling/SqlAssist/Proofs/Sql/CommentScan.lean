import SqlAssist.Proofs.Sql.CommentEnd
import SqlAssist.Proofs.Sql.FinalBreak
import SqlAssist.Proofs.Sql.MarkerRules

/-!
# Comments found by a plain scan

The plain way to find comments goes from left to right (`scan`): outside comments two
hyphens open one up to the end of the line, and a slash and a star open one through the next
closer, if there is one. Masking takes the lexer's comments instead, and the two agree at
every lexeme that is a comment (`Lexicon.IsLexeme.comment_eq`). At a lexeme of code they
agree if it goes over no marker.
-/

namespace SqlAssist

namespace Comment

open Lexicon

/-! ### The scan -/

/-- The length of the comment at the start of the text: up to the end of the line, or through the
closer, if the text has one. -/
def commentLength? (t : Text) : Option Nat :=
  if "--".toList.isPrefixOf t then some (t.takeWhile fun c => !Text.isLineBreak c).length
  else if "/*".toList.isPrefixOf t then (lengthThrough? "*/".toList (t.drop 2)).map (· + 2)
  else none

/-- The text with its comments blanked, where the current one has `left` more characters. -/
def scanFrom : (left : Nat) → Text → Text
  | _, [] => []
  | left + 1, c :: r => Text.blankChar c :: scanFrom left r
  | 0, c :: r =>
    match commentLength? (c :: r) with
    | some n => Text.blankChar c :: scanFrom (n - 1) r
    | none => c :: scanFrom 0 r

/-- The text with its comments blanked, as a plain scan finds them. -/
def scan (t : Text) : Text :=
  scanFrom 0 t

/-- Behind the character stands a run of operators with one other than a hyphen. -/
def runGoesOn (inRun : Bool) (c : Char) : Bool :=
  isOperator c && (inRun || c != '-')

/-- A comment of the scan opens right behind a run of operators, or between two acute accents. The
flags say whether such a run, or an accent, stands before the text. -/
def hidesFrom (inRun accent : Bool) : (left : Nat) → Text → Bool
  | _, [] => false
  | left + 1, _ :: r => hidesFrom false accent left r
  | 0, c :: r =>
    match commentLength? (c :: r) with
    | some n => inRun || (accent && r.contains '´') || hidesFrom false accent (n - 1) r
    | none => hidesFrom (runGoesOn inRun c) (accent || c == '´') 0 r

/-- A comment of the scan opens right behind a run of operators that has one other than a hyphen, or
between two acute accents. -/
def hidesMarker (t : Text) : Bool :=
  hidesFrom false false 0 t

section Scan

variable {t x r : Text} {n : Nat} {inRun accent : Bool}

theorem startsMark_of_commentLength? (h : commentLength? t = some n) : StartsMark t := by
  rw [commentLength?] at h
  split_ifs at h with hline hblock
  · exact Or.inl (List.isPrefixOf_iff_prefix.mp hline)
  · exact Or.inr (List.isPrefixOf_iff_prefix.mp hblock)

theorem two_le_of_commentLength? (h : commentLength? t = some n) : 2 ≤ n := by
  rw [commentLength?] at h
  split_ifs at h with hline hblock
  · obtain ⟨r, rfl⟩ := List.isPrefixOf_iff_prefix.mp hline
    obtain rfl := Option.some.inj h
    simp [Text.isLineBreak]
  · obtain ⟨k, -, rfl⟩ := Option.map_eq_some_iff.mp h
    exact Nat.le_add_left 2 k

/-- A comment takes a character at least. -/
theorem exists_cons_of_commentLength? (h : commentLength? t = some n) :
    ∃ c r k, t = c :: r ∧ n = k + 1 := by
  have hlength := two_le_of_commentLength? h
  obtain ⟨k, rfl⟩ := Nat.exists_eq_add_one_of_ne_zero (n := n) (by omega)
  cases t with
  | nil => exact absurd (startsMark_of_commentLength? h) (by rintro (h | h) <;> cases h.length_le)
  | cons c r => exact ⟨c, r, k, rfl, rfl⟩

theorem scanFrom_left (left : Nat) (t : Text) :
    scanFrom left t = Text.blank (t.take left) ++ scanFrom 0 (t.drop left) := by
  induction left generalizing t with
  | zero => rfl
  | succ left ih =>
    cases t with
    | nil => rfl
    | cons c r => exact congrArg (Text.blankChar c :: ·) (ih r)

/-- A comment is blanked, and the scan goes on behind it. -/
theorem scanFrom_comment (h : commentLength? t = some n) :
    scanFrom 0 t = Text.blank (t.take n) ++ scanFrom 0 (t.drop n) := by
  obtain ⟨c, r, k, rfl, rfl⟩ := exists_cons_of_commentLength? h
  rw [scanFrom, h]
  exact congrArg (Text.blankChar c :: ·) (scanFrom_left k r)

theorem hidesFrom_left (accent : Bool) (left : Nat) (t : Text) :
    hidesFrom false accent left t = hidesFrom false accent 0 (t.drop left) := by
  induction left generalizing t with
  | zero => rfl
  | succ left ih =>
    cases t with
    | nil => rfl
    | cons c r => exact ih r

theorem hidesFrom_comment (h : commentLength? t = some n) (inRun accent : Bool) :
    hidesFrom inRun accent 0 t =
      (inRun || (accent && t.tail.contains '´') || hidesFrom false accent 0 (t.drop n)) := by
  obtain ⟨c, r, k, rfl, rfl⟩ := exists_cons_of_commentLength? h
  rw [hidesFrom, h]
  simp only [hidesFrom_left accent (k + 1 - 1)]
  rfl

/-- No comment opens in the first text. -/
def IsClear (x r : Text) : Prop := ∀ y, y <:+ x → y ≠ [] → commentLength? (y ++ r) = none

theorem IsClear.tail {c : Char} (h : IsClear (c :: x) r) : IsClear x r := fun y hy =>
  h y (hy.trans (List.suffix_cons c x))

/-- A text is clear of comments, or it is so up to the first that opens in it. -/
theorem isClear_or (x r : Text) :
    IsClear x r ∨ ∃ w y n, x = w ++ y ∧ y ≠ [] ∧ IsClear w (y ++ r) ∧
      commentLength? (y ++ r) = some n := by
  induction x with
  | nil => exact Or.inl fun y hy hne => absurd (List.suffix_nil.mp hy) hne
  | cons c x ih =>
    cases hc : commentLength? (c :: x ++ r) with
    | some n =>
      exact Or.inr ⟨[], c :: x, n, rfl, List.cons_ne_nil c x,
        fun y hy hne => absurd (List.suffix_nil.mp hy) hne, hc⟩
    | none =>
      have hcons {w r : Text} (hw : IsClear w r) (hc : commentLength? (c :: w ++ r) = none) :
          IsClear (c :: w) r := by
        intro y hy hne
        rcases List.suffix_cons_iff.mp hy with rfl | hy
        · exact hc
        · exact hw y hy hne
      rcases ih with hx | ⟨w, y, n, rfl, hy, hw, hn⟩
      · exact Or.inl (hcons hx hc)
      · refine Or.inr ⟨c :: w, y, n, rfl, hy, hcons hw ?_, hn⟩
        rwa [List.cons_append, List.append_assoc] at hc

/-- What is clear of comments is seen as it is. -/
theorem scanFrom_clear (h : IsClear x r) : scanFrom 0 (x ++ r) = x ++ scanFrom 0 r := by
  induction x with
  | nil => rfl
  | cons c x ih =>
    have hc := h (c :: x) List.suffix_rfl (List.cons_ne_nil c x)
    rw [List.cons_append] at hc ⊢
    rw [scanFrom, hc]
    exact congrArg (c :: ·) (ih h.tail)

/-- A scan that shows a text has no comment in it. -/
theorem isClear_of_scanFrom {t : Text} (h : x ++ t = scanFrom 0 (x ++ r)) : IsClear x r := by
  refine (isClear_or x r).resolve_right ?_
  rintro ⟨w, y, n, rfl, hy, hw, hn⟩
  rw [List.append_assoc, List.append_assoc, scanFrom_clear hw, scanFrom_comment hn] at h
  replace h := List.append_cancel_left h
  obtain ⟨c, y, rfl⟩ := List.exists_cons_of_ne_nil hy
  obtain ⟨n, rfl⟩ := Nat.exists_eq_add_one_of_ne_zero (n := n)
    (by have := two_le_of_commentLength? hn; omega)
  have hc : c = Text.blankChar c := (List.cons.inj h).1
  rcases (startsMark_of_commentLength? hn).head_eq with rfl | rfl
  · exact absurd hc (by decide)
  · exact absurd hc (by decide)

theorem hidesFrom_clear (h : IsClear x r) (inRun accent : Bool) :
    hidesFrom inRun accent 0 (x ++ r) =
      hidesFrom (x.foldl runGoesOn inRun) (accent || x.contains '´') 0 r := by
  induction x generalizing inRun accent with
  | nil => simp
  | cons c x ih =>
    have hc := h (c :: x) List.suffix_rfl (List.cons_ne_nil c x)
    rw [List.cons_append] at hc ⊢
    rw [hidesFrom, hc]
    simp only [ih h.tail, List.foldl_cons, List.contains_cons, Bool.or_assoc, BEq.comm]

end Scan

end Comment

/-! ### Lexemes that are comments -/

namespace Lexicon

open Pattern

variable {s e : Spot} {before : Option Char} {kind : Kind} {x r t : Text} {n : Nat}

/-- From the spot to the other one the text goes to the end of the line: through what stands before
the next line break and through this break, which only the end of the text can lack. -/
def EndsLine (s e : Spot) : Prop :=
  ∃ line br, s.Moves (line ++ br) e ∧ (∀ c ∈ line, Text.isLineBreak c = false) ∧
    (∀ c ∈ br, Text.isLineBreak c = true) ∧ (br = [] → e.rest = [])

theorem EndsLine.of_break (br : Text) (hs : s.Moves br e) (hne : br ≠ [])
    (hbr : ∀ c ∈ br, Text.isLineBreak c = true) : EndsLine s e :=
  ⟨[], br, hs, fun _ hc => absurd hc List.not_mem_nil, hbr, fun h => absurd h hne⟩

theorem EndsLine.of_moves {m : Spot} {y : Text} (h : EndsLine m e) (hs : s.Moves y m)
    (hy : ∀ c ∈ y, Text.isLineBreak c = false) : EndsLine s e := by
  obtain ⟨line, br, hmoves, hline, hbr, hend⟩ := h
  refine ⟨y ++ line, br, ?_, List.forall_mem_append.mpr ⟨hy, hline⟩, hbr, hend⟩
  rw [List.append_assoc]
  exact hs.trans hmoves

/-- The rest of a line matches everywhere, and goes to its end. -/
theorem exists_head?_restOfLine (s : Spot) :
    ∃ e, (restOfLine.ends s).head? = some e ∧ EndsLine s e := by
  obtain ⟨offset, before, rest⟩ := s
  induction rest generalizing offset before with
  | nil => exact ⟨_, rfl, [], [], .refl _, by simp, by simp, fun _ => rfl⟩
  | cons c r ih =>
    -- Where the line ends, its break is the first match.
    have hfirst {e : Spot} (hend : (lineEnd.ends ⟨offset, before, c :: r⟩).head? = some e) :
        (restOfLine.ends ⟨offset, before, c :: r⟩).head? = some e := by
      rw [ends_restOfLine_cons, List.head?_append, hend, Option.some_or]
    by_cases hreturn : c = '\r'
    · subst hreturn
      by_cases hfeed : r.head? = some '\n'
      · obtain ⟨r, rfl⟩ := List.head?_eq_some_iff.mp hfeed
        exact ⟨_, hfirst rfl, .of_break ['\r', '\n'] ⟨rfl, rfl⟩ (by simp) (by decide)⟩
      · have hpair : (exactly "\r\n").ends ⟨offset, before, '\r' :: r⟩ = [] := by
          refine List.eq_nil_iff_forall_not_mem.mpr fun e he => hfeed ?_
          rw [(List.cons.inj (rest_of_mem_ends_all_char he)).2]
          rfl
        have hend : (lineEnd.ends ⟨offset, before, '\r' :: r⟩).head? =
            some ⟨offset + 1, some '\r', r⟩ := by
          have halt : lineEnd =
            alt (exactly "\r\n") (any [char '\r', char '\n', textEnd]) := rfl
          rw [halt, ends_alt, hpair]
          rfl
        exact ⟨_, hfirst hend, .of_break ['\r'] ⟨rfl, rfl⟩ (by simp) (by decide)⟩
    by_cases hfeed : c = '\n'
    · subst hfeed
      exact ⟨_, hfirst rfl, .of_break ['\n'] ⟨rfl, rfl⟩ (by simp) (by decide)⟩
    · have hnext : inLine.ends ⟨offset, before, c :: r⟩ = [⟨offset + 1, some c, r⟩] := by
        simp [inLine, ends, endsBefore, hfeed]
      obtain ⟨e, hhead, hline⟩ := ih (offset + 1) (some c)
      refine ⟨e, ?_, hline.of_moves (y := [c]) ⟨rfl, rfl⟩ ?_⟩
      · rw [ends_restOfLine_cons, ends_lineEnd_of_ne hfeed hreturn, hnext, List.nil_append,
          List.flatMap_singleton, hhead]
      · exact List.forall_mem_singleton.mpr (by simp [Text.isLineBreak, hfeed, hreturn])

/-- A line comment goes to the end of its line. -/
theorem endsLine_of_lineCommentRules {a : Pattern} (ha : a ∈ lineCommentRules)
    (he : (a.ends s).head? = some e) : EndsLine s e := by
  have hopener {m : Spot} (hm : m ∈ lineCommentOpener.ends s) (h : EndsLine m e) : EndsLine s e := by
    obtain ⟨y, hy, huses⟩ := exists_moves hm
    refine h.of_moves hy fun c hc => ?_
    by_contra hbreak
    have hbreaks : (['\n', '\r'].any fun c => lineCommentOpener.uses c) = false := by decide
    rw [Bool.not_eq_false, Text.isLineBreak, Bool.or_eq_true, decide_eq_true_eq,
      decide_eq_true_eq] at hbreak
    rcases hbreak with rfl | rfl <;> simp [huses _ hc] at hbreaks
  have hrest {m : Spot} (h : (restOfLine.ends m).head? = some e) : EndsLine m e := by
    obtain ⟨e', he', hline⟩ := exists_head?_restOfLine m
    obtain rfl := Option.some.inj (he'.symm.trans h)
    exact hline
  rcases List.mem_pair.mp ha with rfl | rfl
  · obtain ⟨m, hm, he⟩ := exists_head?_ends_of_seq he
    obtain ⟨m', hm', he⟩ := exists_head?_ends_of_seq he
    obtain ⟨y, hy, huses⟩ := exists_moves hm'
    refine hopener hm ((hrest he).of_moves hy fun c hc => ?_)
    have hplus : c = '+' := by simpa [some1, uses, char] using huses c hc
    rw [hplus]
    decide
  · obtain ⟨m, hm, he⟩ := exists_head?_ends_of_seq he
    exact hopener hm (hrest he)

theorem blockCommentLength?_eq (t : Text) :
    blockCommentLength? t =
      if "/*".toList.isPrefixOf t then (lengthThrough? "*/".toList (t.drop 2)).map (· + 2)
      else none := by
  rw [blockCommentLength?]
  split_ifs with hhint hopens hopens
  · -- The plus sign of a hint is no part of a closer.
    obtain ⟨r, rfl⟩ := List.isPrefixOf_iff_prefix.mp hhint
    have hplus : lengthThrough? "*/".toList ('+' :: r) =
      (lengthThrough? "*/".toList r).map (· + 1) := rfl
    calc (lengthThrough? "*/".toList r).map (· + 3)
      _ = ((lengthThrough? "*/".toList r).map (· + 1)).map (· + 2) := by
        rw [Option.map_map]
        rfl
      _ = (lengthThrough? "*/".toList ('+' :: r)).map (· + 2) := by rw [hplus]
  · exact absurd (List.isPrefixOf_iff_prefix.mpr
      ((List.prefix_append _ ['+']).trans (List.isPrefixOf_iff_prefix.mp hhint))) hopens
  · rfl
  · rfl

theorem blockComment_eq (hn : blockCommentLength? (x ++ r) = some n)
    (htake : (x ++ r).take (max 1 n) = x) :
    Comment.commentLength? (x ++ r) = some n ∧ (x ++ r).take n = x := by
  obtain ⟨w, hw⟩ := exists_take_of_blockCommentLength? hn
  have hpos : max 1 n = n := by
    have hlength := congrArg List.length hw
    simp at hlength
    omega
  have hline : ¬ "--".toList.isPrefixOf (x ++ r) = true := by
    obtain ⟨u, hu⟩ := prefix_of_blockCommentLength? hn
    rw [List.isPrefixOf_iff_prefix, ← hu]
    exact fun hline => absurd (List.cons_prefix_cons.mp hline).1 (by decide)
  rw [blockCommentLength?_eq] at hn
  rw [Comment.commentLength?, if_neg hline, hn]
  exact ⟨rfl, hpos ▸ htake⟩

theorem IsLexeme.lineComment_eq (h : IsLexeme before .lineComment x r) (hhash : '#' ∉ x ++ r)
    (hn : firstLength? lineCommentRules { before, rest := x ++ r } = some n)
    (htake : (x ++ r).take (max 1 n) = x) :
    ∃ line br, x = line ++ br ∧ Comment.commentLength? (x ++ r) = some line.length ∧
      ∀ c ∈ br, Text.isLineBreak c = true := by
  obtain ⟨a, ha, hlength⟩ := exists_length?_of_firstLength? hn
  obtain ⟨e, he, rfl⟩ := Option.map_eq_some_iff.mp hlength
  obtain ⟨line, br, hmoves, hline, hbr, hend⟩ := endsLine_of_lineCommentRules ha he
  have hoffset : e.offset = 0 + (line ++ br).length := hmoves.offset
  have hpos : max 1 (e.offset - 0) = (line ++ br).length := by
    have hopens := (opensLine_of_firstLength? hn).two_le_length
    rw [List.length_take] at hopens
    omega
  obtain rfl : x = line ++ br := by rw [← hmoves.take_length, ← hpos, htake]
  obtain rfl : r = e.rest := List.append_cancel_left hmoves.rest
  have hopens : ['-', '-'] <+: line ++ br ++ e.rest :=
    (h.opensLine.append e.rest).resolve_right fun hp => hhash (hp.subset (by simp))
  have hwhile : (line ++ br ++ e.rest).takeWhile (fun c => !Text.isLineBreak c) = line := by
    rw [List.append_assoc]
    refine Text.takeWhile_append_stop (by simpa using hline) ?_
    cases br with
    | nil => rw [hend rfl]; rfl
    | cons b br => simp [hbr b List.mem_cons_self]
  have hprefix : "--".toList.isPrefixOf (line ++ br ++ e.rest) = true :=
    List.isPrefixOf_iff_prefix.mpr hopens
  refine ⟨line, br, rfl, ?_, hbr⟩
  rw [Comment.commentLength?, if_pos hprefix, hwhile]

/-- A lexeme that is a comment is one of the scan, and the line break that ends it. -/
theorem IsLexeme.comment_eq (h : IsLexeme before kind x r) (hk : kind ≠ .code)
    (hhash : '#' ∉ x ++ r) :
    ∃ n br, Comment.commentLength? (x ++ r) = some n ∧ x = (x ++ r).take n ++ br ∧
      (x ++ r).drop n = br ++ r ∧ ∀ c ∈ br, Text.isLineBreak c = true := by
  rcases h.cases with ⟨-, n, hn⟩ | ⟨rfl, -⟩ | ⟨rfl, n, hn, htake⟩ | ⟨rfl, -⟩
  · have htake := h.take_eq
    simp only [lexeme, hn] at htake
    obtain ⟨hlength, htake⟩ := blockComment_eq hn htake
    have hdrop : (x ++ r).drop n = r := by
      have hsplit := List.take_append_drop n (x ++ r)
      rw [htake] at hsplit
      exact List.append_cancel_left hsplit
    exact ⟨n, [], hlength, by rw [htake, List.append_nil], hdrop, by simp⟩
  · exact absurd rfl hk
  · obtain ⟨line, br, rfl, hlength, hbr⟩ := h.lineComment_eq hhash hn htake
    exact ⟨line.length, br, hlength, by simp, by simp, hbr⟩
  · exact absurd rfl hk

/-- Where a comment of the scan opens, no lexeme of code starts. -/
theorem IsLexeme.commentLength?_eq_none (h : IsLexeme before .code x r) (hdollar : '$' ∉ x ++ r) :
    Comment.commentLength? (x ++ r) = none := by
  refine Option.eq_none_iff_forall_ne_some.mpr fun n hn => ?_
  have hkind := h.kind_eq
  rw [lexeme] at hkind
  cases hblock : blockCommentLength? (x ++ r) with
  | some n => simp [hblock] at hkind
  | none =>
    simp only [hblock, dollarQuoteLength?_eq_none (s := { before, rest := x ++ r }) hdollar] at hkind
    rw [blockCommentLength?_eq] at hblock
    rw [Comment.commentLength?, hblock] at hn
    split_ifs at hn with hline
    obtain ⟨u, hu⟩ := List.isPrefixOf_iff_prefix.mp hline
    have hopener : ⟨2, some '-', u⟩ ∈ lineCommentOpener.ends { before, rest := x ++ r } := by
      rw [← hu]
      exact mem_ends_any.mpr ⟨exactly "--", by simp, by simp [exactly, all, char, ends, endsBefore]⟩
    obtain ⟨e, he, -⟩ := exists_head?_restOfLine ⟨2, some '-', u⟩
    obtain ⟨k, hk⟩ := exists_length?_of_mem_ends
      (mem_ends_seq.mpr ⟨_, hopener, List.mem_of_mem_head? he⟩)
    have hsome : (firstLength? lineCommentRules { before, rest := x ++ r }).isSome = true :=
      List.findSome?_isSome_iff.mpr ⟨seq lineCommentOpener restOfLine, by simp [lineCommentRules],
        hk ▸ rfl⟩
    obtain ⟨m, hm⟩ := Option.isSome_iff_exists.mp hsome
    simp [hm] at hkind

end Lexicon

namespace Comment

open Lexicon

variable {before : Option Char} {t w x y r : Text} {n : Nat} {inRun accent : Bool}

/-! ### Masking and the scan -/

theorem commentLength?_break {b : Char} (hb : Text.isLineBreak b = true) (t : Text) :
    commentLength? (b :: t) = none := by
  refine Option.eq_none_iff_forall_ne_some.mpr fun n hn => ?_
  rcases (startsMark_of_commentLength? hn).head_eq with rfl | rfl
  · exact absurd hb (by decide)
  · exact absurd hb (by decide)

theorem isClear_breaks (h : ∀ c ∈ x, Text.isLineBreak c = true) : IsClear x r := by
  intro y hy hne
  obtain ⟨b, y, rfl⟩ := List.exists_cons_of_ne_nil hne
  exact commentLength?_break (h b (hy.subset List.mem_cons_self)) (y ++ r)

/-- The state behind a run of operators. -/
theorem foldl_runGoesOn (hw : w ≠ []) (hhead : w.head? ≠ some '-')
    (hrun : ∀ c ∈ w, isOperator c = true) (inRun : Bool) : w.foldl runGoesOn inRun = true := by
  have hstays : ∀ w : Text, (∀ c ∈ w, isOperator c = true) → w.foldl runGoesOn true = true := by
    intro w hrun
    induction w with
    | nil => rfl
    | cons c w ih =>
      obtain ⟨hc, hrun⟩ := List.forall_mem_cons.mp hrun
      rw [List.foldl_cons, runGoesOn, hc]
      exact ih hrun
  obtain ⟨c, w, rfl⟩ := List.exists_cons_of_ne_nil hw
  obtain ⟨hc, hrun⟩ := List.forall_mem_cons.mp hrun
  have hstart : (c != '-') = true := bne_iff_ne.mpr fun e => hhead (by rw [e]; rfl)
  rw [List.foldl_cons, runGoesOn, hc, hstart, Bool.or_true, Bool.and_self]
  exact hstays w hrun

/-- Behind a text that a run goes over or starts in stands an operator. -/
theorem exists_operator_of_foldl (hx : x ≠ []) (h : x.foldl runGoesOn inRun = true) :
    ∃ d, x.getLast? = some d ∧ isOperator d = true := by
  obtain ⟨u, d, rfl⟩ := (List.eq_nil_or_concat' x).resolve_left hx
  rw [List.foldl_append, List.foldl_cons, List.foldl_nil, runGoesOn, Bool.and_eq_true] at h
  exact ⟨d, List.getLast?_concat, h.1⟩

theorem foldl_breaks (h : ∀ c ∈ x, Text.isLineBreak c = true) : x.foldl runGoesOn false = false := by
  rw [← Bool.not_eq_true]
  intro hrun
  by_cases hx : x = []
  · subst hx
    cases hrun
  · obtain ⟨d, hd, hop⟩ := exists_operator_of_foldl hx hrun
    have hbreak := h d (List.mem_of_getLast? hd)
    rw [Text.isLineBreak, Bool.or_eq_true, decide_eq_true_eq, decide_eq_true_eq] at hbreak
    rcases hbreak with rfl | rfl
    · exact absurd hop (by decide)
    · exact absurd hop (by decide)

/-- A lexeme of code goes over no comment of the scan, unless a marker is hidden. -/
theorem isClear_of_code (h : IsLexeme before .code x r) (hplain : ∀ c ∈ x ++ r, isDelimiter c = false)
    (hhides : hidesFrom inRun accent 0 (x ++ r) = false) : IsClear x r := by
  refine (isClear_or x r).resolve_right ?_
  rintro ⟨w, y, n, rfl, hy, hw, hn⟩
  have hne : w ≠ [] := by
    rintro rfl
    have hnone := h.commentLength?_eq_none (ne_of_not_isDelimiter hplain (by decide))
    cases hnone.symm.trans hn
  have hmark := startsMark_of_commentLength? hn
  rw [List.append_assoc, hidesFrom_clear hw, hidesFrom_comment hn, Bool.or_eq_false_iff,
    Bool.or_eq_false_iff] at hhides
  rcases h.operators_or_accents hplain hne hy hmark with ⟨hhead, hrun⟩ | ⟨hbefore, hbehind⟩
  · rw [foldl_runGoesOn hne hhead hrun] at hhides
    exact absurd hhides.1.1 (by decide)
  · have haccents := hhides.1.2
    rw [List.contains_iff_mem.mpr hbefore, List.contains_iff_mem.mpr hbehind, Bool.or_true,
      Bool.and_self] at haccents
    cases haccents

/-- At a lexeme that is a comment, masking and the scan do the same. -/
theorem scanFrom_comment_lexeme (h : IsLexeme before kind x r) (hk : kind ≠ .code)
    (hhash : '#' ∉ x ++ r) : scanFrom 0 (x ++ r) = Text.blank x ++ scanFrom 0 r := by
  obtain ⟨n, br, hn, hx, hdrop, hbr⟩ := h.comment_eq hk hhash
  have hblank : Text.blank x = Text.blank ((x ++ r).take n) ++ br := by
    conv_lhs => rw [hx]
    rw [Text.blank, Text.blank, List.map_append]
    exact congrArg _ (Text.blank_breaks hbr)
  rw [scanFrom_comment hn, hdrop, scanFrom_clear (isClear_breaks hbr), hblank, List.append_assoc]

theorem hidesFrom_comment_lexeme (h : IsLexeme before kind x r) (hk : kind ≠ .code)
    (hhash : '#' ∉ x ++ r) (inRun accent : Bool) :
    hidesFrom inRun accent 0 (x ++ r) =
      (inRun || (accent && (x ++ r).tail.contains '´') || hidesFrom false accent 0 r) := by
  obtain ⟨n, br, hn, -, hdrop, hbr⟩ := h.comment_eq hk hhash
  have hrun : br.foldl runGoesOn false = false := foldl_breaks hbr
  have haccent : br.contains '´' = false := by
    rw [← Bool.not_eq_true, List.contains_iff_mem]
    exact fun hmem => absurd (hbr _ hmem) (by decide)
  rw [hidesFrom_comment hn, hdrop, hidesFrom_clear (isClear_breaks hbr), hrun, haccent,
    Bool.or_false]

/-- Where no marker is hidden, masking finds the comments of the scan. -/
theorem maskFrom_eq_scanFrom (before : Option Char) (t : Text)
    (hplain : ∀ c ∈ t, isDelimiter c = false) (hhides : hidesFrom inRun accent 0 t = false) :
    maskFrom before t = scanFrom 0 t := by
  induction before, t using lexemeInduction generalizing inRun accent with
  | nil before => rfl
  | lexeme before kind x r hx ih =>
    have hr : ∀ c ∈ r, isDelimiter c = false := (List.forall_mem_append.mp hplain).2
    rw [maskFrom_lexeme hx]
    by_cases hk : kind = .code
    · subst hk
      have hclear := isClear_of_code hx hplain hhides
      rw [hidesFrom_clear hclear] at hhides
      rw [if_pos rfl, scanFrom_clear hclear, ih hr hhides]
    · have hhash := ne_of_not_isDelimiter hplain (d := '#') (by decide)
      rw [hidesFrom_comment_lexeme hx hk hhash, Bool.or_eq_false_iff] at hhides
      rw [if_neg hk, scanFrom_comment_lexeme hx hk hhash, ih hr hhides.2]

/-- Where masking finds the comments of the scan, none opens right behind a run of operators. A run
that goes on to a text ends there. -/
theorem hidesFrom_of_maskFrom_eq (before : Option Char) (t : Text)
    (hplain : ∀ c ∈ t, isDelimiter c = false) (haccent : '´' ∉ t) (harrow : ¬ ['<', '@'] <:+: t)
    (hrun : inRun = true → ∀ c, t.head? = some c → isOperator c = false)
    (heq : maskFrom before t = scanFrom 0 t) : hidesFrom inRun false 0 t = false := by
  induction before, t using lexemeInduction generalizing inRun with
  | nil before => simp [hidesFrom]
  | lexeme before kind x r hx ih =>
    have hr : ∀ c ∈ r, isDelimiter c = false := (List.forall_mem_append.mp hplain).2
    have hxr : '´' ∉ x ∧ '´' ∉ r := by rwa [List.mem_append, not_or] at haccent
    have harrowr : ¬ ['<', '@'] <:+: r := fun h => harrow (h.trans (List.suffix_append x r).isInfix)
    rw [maskFrom_lexeme hx] at heq
    by_cases hk : kind = .code
    · subst hk
      rw [if_pos rfl] at heq
      have hclear := isClear_of_scanFrom heq
      rw [scanFrom_clear hclear] at heq
      have hcontains : x.contains '´' = false := by
        rw [← Bool.not_eq_true, List.contains_iff_mem]
        exact hxr.1
      rw [hidesFrom_clear hclear, hcontains]
      refine ih hr hxr.2 harrowr (fun hstate => ?_) (List.append_cancel_left heq)
      refine hx.no_operator_behind hplain hxr.1
        (fun h => harrow (h.trans (List.prefix_append x r).isInfix)) ?_
        (exists_operator_of_foldl hx.ne_nil hstate)
      rintro rfl
      -- A hyphen by itself goes on with a run that cannot end here.
      cases inRun with
      | false => exact absurd hstate (by decide)
      | true => exact absurd (hrun rfl '-' rfl) (by decide)
    · have hhash := ne_of_not_isDelimiter hplain (d := '#') (by decide)
      rw [if_neg hk, scanFrom_comment_lexeme hx hk hhash] at heq
      have hstate : inRun = false := by
        rw [← Bool.not_eq_true]
        intro hin
        obtain ⟨n, -, hn, -⟩ := hx.comment_eq hk hhash
        obtain ⟨c, x, rfl⟩ := List.exists_cons_of_ne_nil hx.ne_nil
        have hop := hrun hin c rfl
        rcases (startsMark_of_commentLength? hn).head_eq with rfl | rfl
        · exact absurd hop (by decide)
        · exact absurd hop (by decide)
      rw [hidesFrom_comment_lexeme hx hk hhash, hstate, Bool.false_and, Bool.false_or, Bool.false_or]
      exact ih hr hxr.2 harrowr nofun (List.append_cancel_left heq)

/-- **Masking against a plain scan.** In a text without quotes, square brackets, backslashes, hashes
and dollar signs the comments that are blanked are those of the scan, if none of these opens right
behind a run of operators that has one other than a hyphen, or between two acute accents. Without
accents and the arrow that ends with an at sign this is needed as well. -/
theorem mask_eq_scan {t : Text} (hplain : ∀ c ∈ t, isDelimiter c = false) :
    (hidesMarker t = false → mask t = scan t) ∧
      ('´' ∉ t → ¬ ['<', '@'] <:+: t → (mask t = scan t ↔ hidesMarker t = false)) := by
  rw [mask_eq_maskFrom]
  refine ⟨maskFrom_eq_scanFrom none t hplain, fun haccent harrow => ⟨fun heq => ?_, ?_⟩⟩
  · exact hidesFrom_of_maskFrom_eq none t hplain haccent harrow nofun heq
  · exact maskFrom_eq_scanFrom none t hplain

theorem mask_eq_scan_of_semicolon :
    (∀ c ∈ "1 - --;\n/*(*/2".toList, isDelimiter c = false) ∧
      hidesMarker "1 - --;\n/*(*/2".toList = false ∧ '´' ∉ "1 - --;\n/*(*/2".toList ∧
      ¬ ['<', '@'] <:+: "1 - --;\n/*(*/2".toList ∧
      mask "1 - --;\n/*(*/2".toList = scan "1 - --;\n/*(*/2".toList ∧
      scan "1 - --;\n/*(*/2".toList = "1 -    \n     2".toList :=
  have hplain : ∀ c ∈ "1 - --;\n/*(*/2".toList, isDelimiter c = false := by decide
  have hhides : hidesMarker "1 - --;\n/*(*/2".toList = false := by decide
  have haccent : '´' ∉ "1 - --;\n/*(*/2".toList := by decide
  have harrow : ¬ ['<', '@'] <:+: "1 - --;\n/*(*/2".toList := by decide
  ⟨hplain, hhides, haccent, harrow, ((mask_eq_scan hplain).2 haccent harrow).mpr hhides, by decide⟩

/-- Behind a plus sign and between two acute accents the scan finds a comment that is not blanked. -/
theorem mask_ne_scan_of_operator :
    (∀ c ∈ "1 +--;\n2".toList, isDelimiter c = false) ∧
      scan "1 +--;\n2".toList = "1 +   \n2".toList ∧ mask "1 +--;\n2".toList = "1 +--;\n2".toList ∧
      (∀ c ∈ "´/*;*/´".toList, isDelimiter c = false) ∧
      scan "´/*;*/´".toList = "´     ´".toList ∧ mask "´/*;*/´".toList = "´/*;*/´".toList := by
  decide

end Comment

end SqlAssist
