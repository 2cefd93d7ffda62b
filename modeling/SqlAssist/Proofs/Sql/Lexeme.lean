import SqlAssist.Proofs.Sql.Comment
import SqlAssist.Proofs.Sql.Matching

/-!
# Lexemes

A text is cut into lexemes from left to right, and the kinds of its characters are listed
in one pass that counts how much of the current lexeme is left. `IsLexeme` says of a piece
that it is a whole lexeme; the kinds and the masked text are then those of the first lexeme
followed by those of the rest (`kindsFrom_lexeme`, `maskFrom_lexeme`), and what is said of
them is proved by `lexemeInduction`.

A lexeme is a comment only where a comment can open (`opensComment`). So masking leaves
a text alone up to the first such place (`exists_maskFrom_append`), and a text that ends
in a line comment has its end blanked from an opener on (`exists_of_getLast?_kinds`).
-/

namespace SqlAssist

namespace Lexicon

/-! ### Whole lexemes -/

/-- At the start of `x ++ r`, behind the given character, stands the lexeme `x`. -/
structure IsLexeme (before : Option Char) (kind : Kind) (x r : Text) : Prop where
  /-- A lexeme has a character. -/
  ne_nil : x ≠ []
  /-- It is of the given kind. -/
  kind_eq : (lexeme { before, rest := x ++ r }).1 = kind
  /-- It reaches as far as `x`. -/
  take_eq : (x ++ r).take (max 1 (lexeme { before, rest := x ++ r }).2) = x

theorem exists_isLexeme (before : Option Char) {t : Text} (ht : t ≠ []) :
    ∃ kind x r, t = x ++ r ∧ IsLexeme before kind x r := by
  let l := lexeme { before, rest := t }
  have happend : t.take (max 1 l.2) ++ t.drop (max 1 l.2) = t := List.take_append_drop _ _
  refine ⟨l.1, t.take (max 1 l.2), t.drop (max 1 l.2), happend.symm, ?_, ?_, ?_⟩
  · intro h
    rcases List.take_eq_nil_iff.mp h with h | h
    · omega
    · exact ht h
  · rw [happend]
  · rw [happend]

/-- What holds of the empty text and of a lexeme in front of what it holds of, holds of
every text. -/
theorem lexemeInduction {motive : Option Char → Text → Prop} (nil : ∀ before, motive before [])
    (lexeme : ∀ before kind x r, IsLexeme before kind x r → motive x.getLast? r →
      motive before (x ++ r)) (before : Option Char) (t : Text) : motive before t := by
  induction hn : t.length using Nat.strongRecOn generalizing before t with
  | ind n ih =>
    by_cases ht : t = []
    · rw [ht]
      exact nil before
    · obtain ⟨kind, x, r, rfl, hx⟩ := exists_isLexeme before ht
      refine lexeme before kind x r hx (ih _ ?_ _ r rfl)
      rw [← hn, List.length_append]
      have := List.length_pos_iff.mpr hx.ne_nil
      omega

/-! ### Where comments open -/

section Comments

variable {before : Option Char} {kind : Kind} {x r t : Text} {s : Spot}

/-- The two ways to open a line comment. -/
def OpensLine (t : Text) : Prop := ['-', '-'] <+: t ∨ ['#', ' '] <+: t

/-- A line comment opens, or a block comment that is closed further on. -/
def OpensComment (t : Text) : Prop := OpensLine t ∨ ∃ n, blockCommentLength? t = some n

theorem not_opensLine_cons {c : Char} (hdash : c ≠ '-') (hhash : c ≠ '#') : ¬ OpensLine (c :: t) := by
  rintro (h | h)
  · exact hdash (List.cons_prefix_cons.mp h).1.symm
  · exact hhash (List.cons_prefix_cons.mp h).1.symm

theorem prefix_of_blockCommentLength? {n : Nat} (h : blockCommentLength? t = some n) :
    ['/', '*'] <+: t := by
  rw [blockCommentLength?] at h
  split_ifs at h with hhint hopens
  · exact (List.prefix_append _ ['+']).trans (List.isPrefixOf_iff_prefix.mp hhint)
  · exact List.isPrefixOf_iff_prefix.mp hopens

theorem exists_length?_of_firstLength? {ps : List Pattern} {n : Nat}
    (h : firstLength? ps s = some n) : ∃ a ∈ ps, a.length? s = some n :=
  List.exists_of_findSome?_eq_some h

/-- A lexeme is a block comment, a dollar-quoted body, a line comment or the best match of a rule
for code; one that no rule matches is one character. -/
theorem IsLexeme.cases (h : IsLexeme before kind x r) :
    (kind = .blockComment ∧ ∃ n, blockCommentLength? (x ++ r) = some n) ∨
    (kind = .code ∧ ∃ n, dollarQuoteLength? { before, rest := x ++ r } = some n) ∨
    (kind = .lineComment ∧ ∃ n, firstLength? lineCommentRules { before, rest := x ++ r } = some n ∧
      (x ++ r).take (max 1 n) = x) ∨
    (kind = .code ∧
      (x ++ r).take (max 1 ((firstLength? codeRules { before, rest := x ++ r }).getD 1)) = x) := by
  have hkind := h.kind_eq
  have htake := h.take_eq
  rw [lexeme] at hkind htake
  cases hblock : blockCommentLength? (x ++ r) with
  | some n =>
    simp only [hblock] at hkind
    exact Or.inl ⟨hkind.symm, n, rfl⟩
  | none =>
    simp only [hblock] at hkind htake
    cases hdollar : dollarQuoteLength? { before, rest := x ++ r } with
    | some n =>
      simp only [hdollar] at hkind
      exact Or.inr (Or.inl ⟨hkind.symm, n, rfl⟩)
    | none =>
      simp only [hdollar] at hkind htake
      cases hline : firstLength? lineCommentRules { before, rest := x ++ r } with
      | some n =>
        simp only [hline] at hkind htake
        exact Or.inr (Or.inr (Or.inl ⟨hkind.symm, n, rfl, htake⟩))
      | none =>
        simp only [hline] at hkind htake
        exact Or.inr (Or.inr (Or.inr ⟨hkind.symm, htake⟩))

theorem opensLine_of_mem_ends {e : Spot} (h : e ∈ lineCommentOpener.ends s) :
    s.rest = ['-', '-'] ++ e.rest ∨ s.rest = ['#', ' '] ++ e.rest := by
  rcases Pattern.mem_ends_any_cons.mp h with h | h
  · exact Or.inl (Pattern.rest_of_mem_ends_all_char h)
  · exact Or.inr (Pattern.rest_of_mem_ends_all_char h)

/-- A line comment reaches over its opener. -/
theorem opensLine_of_firstLength? {n : Nat} (h : firstLength? lineCommentRules s = some n) :
    OpensLine (s.rest.take n) := by
  obtain ⟨a, ha, hn⟩ := exists_length?_of_firstLength? h
  obtain ⟨x, e, he, hx, rfl⟩ := Pattern.exists_moves_of_length? hn
  obtain ⟨m, hm, b, hb⟩ : ∃ m ∈ lineCommentOpener.ends s, ∃ b : Pattern, e ∈ b.ends m := by
    rcases List.mem_pair.mp ha with rfl | rfl
    · obtain ⟨m, hm, he⟩ := Pattern.mem_ends_all_cons.mp he
      exact ⟨m, hm, _, he⟩
    · obtain ⟨m, hm, he⟩ := Pattern.mem_ends_seq.mp he
      exact ⟨m, hm, _, he⟩
  obtain ⟨y, hy, -⟩ := Pattern.exists_moves hb
  have hpre : ∀ w, s.rest = w ++ m.rest → w <+: x := fun w hw =>
    ⟨y, List.append_cancel_right (by rw [List.append_assoc, ← hy.rest, ← hw, hx.rest])⟩
  rw [hx.take_length]
  exact (opensLine_of_mem_ends hm).imp (hpre _) (hpre _)

theorem OpensLine.append (h : OpensLine t) (r : Text) : OpensLine (t ++ r) :=
  h.imp (·.trans (List.prefix_append t r)) (·.trans (List.prefix_append t r))

/-- A line comment starts with an opener. -/
theorem IsLexeme.opensLine (h : IsLexeme before .lineComment x r) : OpensLine x := by
  rcases h.cases with ⟨hk, -⟩ | ⟨hk, -⟩ | ⟨-, n, hn, htake⟩ | ⟨hk, -⟩
  · cases hk
  · cases hk
  · have hopens := opensLine_of_firstLength? hn
    have hpre : (x ++ r).take n <+: x := by
      have hle : (x ++ r).take n <+: (x ++ r).take (max 1 n) :=
        List.take_prefix_take_left (Nat.le_max_right 1 n)
      rwa [htake] at hle
    exact hopens.imp (·.trans hpre) (·.trans hpre)
  · cases hk

/-- A comment stands only where one can open. -/
theorem IsLexeme.opensComment (h : IsLexeme before kind x r) (hk : kind ≠ .code) :
    OpensComment (x ++ r) := by
  cases kind with
  | code => exact absurd rfl hk
  | lineComment => exact Or.inl (h.opensLine.append r)
  | blockComment =>
    rcases h.cases with ⟨-, hn⟩ | ⟨hk, -⟩ | ⟨hk, -⟩ | ⟨hk, -⟩
    · exact Or.inr hn
    · cases hk
    · cases hk
    · cases hk

end Comments

/-! ### Kinds -/

section Kinds

variable {kind : Kind} {before : Option Char} {x r : Text}

theorem kindsFrom_zero (kind : Kind) (before : Option Char) (t : Text) :
    kindsFrom kind 0 before t = kindsFrom .code 0 before t := by
  cases t <;> rfl

/-- The character before a text goes on to be the last one of the part that was read. -/
theorem getLast?_or_cons (c : Char) (t : Text) (before : Option Char) :
    (c :: t).getLast?.or before = t.getLast?.or (some c) := by
  rw [List.getLast?_cons]
  cases t.getLast? <;> rfl

/-- The characters left of the current lexeme are of its kind. -/
theorem kindsFrom_left (kind : Kind) (left : Nat) (before : Option Char) (t : Text) :
    kindsFrom kind left before t =
      List.replicate (t.take left).length kind ++
        kindsFrom .code 0 ((t.take left).getLast?.or before) (t.drop left) := by
  induction left generalizing before t with
  | zero => exact kindsFrom_zero kind before t
  | succ left ih =>
    cases t with
    | nil => simp [kindsFrom]
    | cons c t =>
      rw [kindsFrom, ih, List.take_succ_cons, List.length_cons, List.replicate_succ,
        getLast?_or_cons]
      rfl

/-- The kinds of a lexeme's characters come before those of the rest. -/
theorem kindsFrom_lexeme (h : IsLexeme before kind x r) :
    kindsFrom .code 0 before (x ++ r) =
      List.replicate x.length kind ++ kindsFrom .code 0 x.getLast? r := by
  obtain ⟨c, y, rfl⟩ := List.exists_cons_of_ne_nil h.ne_nil
  have hkind := h.kind_eq
  have htake := h.take_eq
  rw [List.cons_append] at hkind htake ⊢
  rw [kindsFrom]
  simp only [hkind]
  generalize (lexeme { before, rest := c :: (y ++ r) }).2 = n at htake ⊢
  have hmax : max 1 n = n - 1 + 1 := by omega
  rw [hmax, List.take_succ_cons] at htake
  have hy : (y ++ r).take (n - 1) = y := (List.cons.inj htake).2
  have hr : (y ++ r).drop (n - 1) = r := by
    have hsplit := List.take_append_drop (n - 1) (y ++ r)
    rw [hy] at hsplit
    exact List.append_cancel_left hsplit
  have hlast : y.getLast?.or (some c) = (c :: y).getLast? := by
    rw [← getLast?_or_cons c y none, Option.or_none]
  rw [kindsFrom_left, hy, hr, List.length_cons, List.replicate_succ, hlast, List.cons_append]

theorem length_kindsFrom (kind : Kind) (left : Nat) (before : Option Char) (t : Text) :
    (kindsFrom kind left before t).length = t.length := by
  induction t generalizing kind left before with
  | nil => cases left <;> rfl
  | cons c t ih =>
    cases left with
    | zero => exact congrArg (· + 1) (ih _ _ _)
    | succ left => exact congrArg (· + 1) (ih _ _ _)

/-- The last kind is that of the last lexeme. -/
theorem getLast?_kindsFrom_lexeme (h : IsLexeme before kind x r) :
    (kindsFrom .code 0 before (x ++ r)).getLast? =
      if r = [] then some kind else (kindsFrom .code 0 x.getLast? r).getLast? := by
  rw [kindsFrom_lexeme h]
  split_ifs with hr
  · subst hr
    have hx : x.length ≠ 0 := fun e => h.ne_nil (List.length_eq_zero_iff.mp e)
    simp [kindsFrom, List.getLast?_replicate, hx]
  · have hne : kindsFrom .code 0 x.getLast? r ≠ [] := fun e => by
      have hlength := length_kindsFrom .code 0 x.getLast? r
      rw [e] at hlength
      exact hr (List.length_eq_zero_iff.mp hlength.symm)
    exact List.getLast?_append_of_ne_nil _ hne

end Kinds

end Lexicon

namespace Comment

open Lexicon

variable {before : Option Char} {kind : Lexicon.Kind} {t u v x r : Text}

/-! ### Masked texts -/

/-- A character as its kind lets it be seen. -/
def maskChar (kind : Lexicon.Kind) (c : Char) : Char := if kind = .code then c else Text.blankChar c

/-- What is seen of a text behind the given character. -/
def maskFrom (before : Option Char) (t : Text) : Text :=
  List.zipWith maskChar (kindsFrom .code 0 before t) t

theorem length_maskFrom (before : Option Char) (t : Text) : (maskFrom before t).length = t.length := by
  rw [maskFrom, List.length_zipWith, length_kindsFrom, Nat.min_self]

theorem zipWith_maskChar_replicate (kind : Lexicon.Kind) (x : Text) :
    List.zipWith maskChar (List.replicate x.length kind) x =
      if kind = .code then x else Text.blank x := by
  induction x with
  | nil => split_ifs <;> rfl
  | cons c x ih =>
    rw [List.length_cons, List.replicate_succ, List.zipWith_cons_cons, ih, maskChar]
    split_ifs <;> rfl

theorem maskChar_eq (kind : Lexicon.Kind) (c : Char) : maskChar kind c = c ∨ maskChar kind c = ' ' := by
  rw [maskChar, Text.blankChar]
  split_ifs
  · exact Or.inl rfl
  · exact Or.inl rfl
  · exact Or.inr rfl

theorem eq_of_zipWith_maskChar {kinds : List Lexicon.Kind} (hlength : kinds.length = t.length)
    (hspace : ' ' ∉ List.zipWith maskChar kinds t) : List.zipWith maskChar kinds t = t := by
  induction t generalizing kinds with
  | nil => exact List.zipWith_nil_right
  | cons c t ih =>
    obtain ⟨kind, kinds, rfl⟩ := List.exists_cons_of_length_eq_add_one hlength
    rw [List.zipWith_cons_cons, List.mem_cons, not_or] at hspace
    have hc : maskChar kind c = c := (maskChar_eq kind c).resolve_right fun e => hspace.1 e.symm
    rw [List.zipWith_cons_cons, hc, ih (Nat.succ.inj hlength) hspace.2]

/-- A lexeme is seen whole or not at all. -/
theorem maskFrom_lexeme (h : IsLexeme before kind x r) :
    maskFrom before (x ++ r) =
      (if kind = .code then x else Text.blank x) ++ maskFrom x.getLast? r := by
  rw [maskFrom, kindsFrom_lexeme h, List.zipWith_append (by rw [List.length_replicate]),
    zipWith_maskChar_replicate, maskFrom]

/-- Up to the first place where a comment opens, a text is seen as it is. -/
theorem exists_maskFrom_append (before : Option Char) (u v : Text)
    (h : ∀ s, s <:+ u → s ≠ [] → ¬ OpensComment (s ++ v)) :
    ∃ m, m.length = v.length ∧ maskFrom before (u ++ v) = u ++ m := by
  generalize ht : u ++ v = t
  induction before, t using lexemeInduction generalizing u with
  | nil before =>
    obtain ⟨rfl, rfl⟩ := List.append_eq_nil_iff.mp ht
    exact ⟨[], rfl, rfl⟩
  | lexeme before kind x r hx ih =>
    by_cases hu : u = []
    · subst hu
      exact ⟨maskFrom before (x ++ r), by rw [length_maskFrom, ← ht]; rfl, rfl⟩
    have hk : kind = .code := by
      by_contra hk
      exact h u List.suffix_rfl hu (ht ▸ hx.opensComment hk)
    rw [maskFrom_lexeme hx, if_pos hk]
    -- The lexeme goes on behind `u`, or it is a part of `u`.
    rcases List.append_eq_append_iff.mp ht with ⟨w, rfl, rfl⟩ | ⟨w, rfl, rfl⟩
    · exact ⟨w ++ maskFrom (u ++ w).getLast? r, by simp [length_maskFrom], by simp⟩
    · have hw : ∀ s, s <:+ w → s ≠ [] → ¬ OpensComment (s ++ v) := fun s hs =>
        h s (hs.trans (List.suffix_append x w))
      obtain ⟨m, hm, hmask⟩ := ih w hw rfl
      exact ⟨m, hm, by rw [hmask, List.append_assoc]⟩

theorem hasMarker_of_opensComment (h : OpensComment t) : hasMarker t = true := by
  rw [hasMarker_iff]
  rcases h with (h | ⟨r, rfl⟩) | ⟨n, hn⟩
  · exact Or.inl h.isInfix
  · exact Or.inr (Or.inr (by simp))
  · exact Or.inr (Or.inl (prefix_of_blockCommentLength? hn).isInfix)

/-- Where no marker is, no lexeme is a comment; so the lexemes say what is seen in any case. -/
theorem mask_eq_maskFrom (t : Text) : mask t = maskFrom none t := by
  cases hm : hasMarker t with
  | true =>
    rw [mask, hm]
    rfl
  | false =>
    obtain ⟨m, hlength, hmask⟩ := exists_maskFrom_append none t [] fun s hs _ hopens => by
      rw [List.append_nil] at hopens
      rw [hasMarker_mono hs.isInfix (hasMarker_of_opensComment hopens)] at hm
      cases hm
    obtain rfl := List.length_eq_zero_iff.mp hlength
    rw [List.append_nil] at hmask
    rw [mask_of_no_marker hm, hmask]

/-- A piece without spaces that is seen in a masked text stands in the text itself. -/
theorem isInfix_of_isInfix_maskFrom {p : Text} (hspace : ' ' ∉ p) (h : p <:+: maskFrom before t) :
    p <:+: t := by
  obtain ⟨a, b, happend⟩ := h
  rw [maskFrom, eq_comm, List.append_assoc, List.zipWith_eq_append_iff] at happend
  obtain ⟨k₁, k₂, t₁, t₂, hl₁, hk, rfl, rfl, hr⟩ := happend
  obtain ⟨k₃, k₄, t₃, t₄, hl₂, rfl, rfl, rfl, rfl⟩ := List.zipWith_eq_append_iff.mp hr.symm
  rw [eq_of_zipWith_maskChar hl₂ hspace]
  exact ⟨t₁, t₄, List.append_assoc _ _ _⟩

theorem isInfix_of_isInfix_mask {p : Text} (hspace : ' ' ∉ p) (h : p <:+: mask t) : p <:+: t :=
  isInfix_of_isInfix_maskFrom hspace (mask_eq_maskFrom t ▸ h)

theorem mem_of_mem_maskFrom {c : Char} (hspace : c ≠ ' ') (h : c ∈ maskFrom before t) : c ∈ t := by
  obtain ⟨a, b, happend⟩ := List.append_of_mem h
  have hinfix : [c] <:+: maskFrom before t := ⟨a, b, by rw [happend, List.append_assoc]; rfl⟩
  have hpiece := isInfix_of_isInfix_maskFrom (fun hc => hspace (List.mem_singleton.mp hc).symm) hinfix
  exact hpiece.subset List.mem_cons_self

/-- A text that ends in a line comment has its end blanked from an opener on. -/
theorem exists_of_getLast?_kindsFrom (before : Option Char) (t : Text)
    (h : (kindsFrom .code 0 before t).getLast? = some .lineComment) :
    ∃ a x m, t = a ++ x ∧ OpensLine x ∧ m.length = a.length ∧
      maskFrom before t = m ++ Text.blank x := by
  induction before, t using lexemeInduction with
  | nil before => cases h
  | lexeme before kind x r hx ih =>
    rw [getLast?_kindsFrom_lexeme hx] at h
    rw [maskFrom_lexeme hx]
    split_ifs at h with hr
    · subst hr
      obtain rfl := Option.some.inj h
      exact ⟨[], x, [], List.append_nil x, hx.opensLine, rfl, List.append_nil _⟩
    · obtain ⟨a, y, m, rfl, hy, hm, hmask⟩ := ih h
      refine ⟨x ++ a, y, (if kind = .code then x else Text.blank x) ++ m, (List.append_assoc ..).symm,
        hy, ?_, by rw [hmask, List.append_assoc]⟩
      rw [List.length_append, List.length_append, hm]
      split_ifs
      · rfl
      · rw [Text.blank, List.length_map]

end Comment

end SqlAssist
