import SqlAssist.Proofs.Sql.Lexeme
import SqlAssist.Proofs.Sql.Literal

/-!
# Quoted texts as lexemes

The lexical rules have a rule for each kind of quoted text, where the scan for literals
knows single and double quotes only. At a quote that comes again the first rule that can
begin there is the one for this quote (`firstLength?_codeRules`), and what it goes over
is a literal that is closed, as long as no quote stands behind a backslash
(`exists_quoted_of_mem_ends`). Of the other rules, some begin with a quote of another kind,
one is for time zones and may hold a literal, and the rest never go over a quote
(`mem_codeRules_cases`, `uses_plainRules`).

`ReadsAlike` says of a place that none of the differences shows there. Then a lexeme leaves
no literal open, or else the text is the start of a literal that is never closed
(`IsLexeme.isOpen_eq_false_or`).
-/

namespace SqlAssist

/-! ### The contents of a literal -/

namespace Literal

/-- What can stand between the quotes: doubled quotes and other characters. -/
inductive Contents (q : Char) : Text → Prop where
  /-- Nothing. -/
  | nil : Contents q []
  /-- A character that is not the quote. -/
  | other {c : Char} {v : Text} : c ≠ q → Contents q v → Contents q (c :: v)
  /-- The quote, doubled. -/
  | pair {v : Text} : Contents q v → Contents q (q :: q :: v)

variable {q : Char} {u v : Text}

theorem contents_of_not_mem (h : q ∉ v) : Contents q v := by
  induction v with
  | nil => exact .nil
  | cons c v ih =>
    rw [List.mem_cons, not_or] at h
    exact .other (fun e => h.1 e.symm) (ih h.2)

theorem openQuoteFrom_contents (h : Contents q v) : openQuoteFrom (some q) (v ++ [q]) = none := by
  induction h with
  | nil => exact openQuoteFrom_close nofun
  | other hc _ ih => rw [List.cons_append, openQuoteFrom_other hc, ih]
  | pair _ ih => rw [List.cons_append, List.cons_append, openQuoteFrom_pair, ih]

theorem isOpen_quoted (hq : isQuote q = true) (h : Contents q v) : isOpen (q :: v ++ [q]) = false := by
  rw [isOpen_eq_false_iff, List.cons_append, openQuoteFrom, hq]
  exact openQuoteFrom_contents h

/-- Of a literal that is not closed only the quote is seen. -/
theorem blank_of_not_mem (hq : isQuote q = true) (h : q ∉ u) :
    blank (q :: u) = q :: List.replicate u.length ' ' := by
  have htail : blankFrom (some q) u = List.replicate u.length ' ' := by
    induction u with
    | nil => rfl
    | cons c u ih =>
      rw [List.mem_cons, not_or] at h
      rw [blankFrom_other fun e => h.1 e.symm, ih h.2]
      rfl
  rw [blank, blankFrom, hq]
  exact congrArg (q :: ·) htail

end Literal

/-! ### The rule for a quoted text -/

namespace Lexicon

open Pattern Literal

variable {q : Char} {s e m : Spot}

/-- A text between two quotes, in which the quote may stand doubled or behind a backslash. -/
def quotedRule (q : Char) : Pattern :=
  all [char q, quotedBody q (some '\\'), char q]

/-- One round of the rule goes over a doubled quote, one behind a backslash or another character. -/
theorem moves_of_mem_ends_round
    (h : e ∈ (any [seq (char q) (char q), seq (char '\\') (char q), one (· != q)]).ends s) :
    s.Moves [q, q] e ∨ s.Moves ['\\', q] e ∨ ∃ c, c ≠ q ∧ s.Moves [c] e := by
  have hpair : ∀ c d : Char, e ∈ (seq (char c) (char d)).ends s → s.Moves [c, d] e := by
    intro c d h
    obtain ⟨m, hm, he⟩ := mem_ends_seq.mp h
    obtain ⟨r, hs, rfl⟩ := mem_ends_char.mp hm
    obtain ⟨r, rfl, rfl⟩ := mem_ends_char.mp he
    exact ⟨hs, rfl⟩
  rcases mem_ends_any_cons.mp h with h | h
  · exact Or.inl (hpair q q h)
  · rcases mem_ends_any_cons.mp h with h | h
    · exact Or.inr (Or.inl (hpair '\\' q h))
    · obtain ⟨c, r, hs, hc, rfl⟩ := mem_ends_one.mp h
      exact Or.inr (Or.inr ⟨c, bne_iff_ne.mp hc, hs, rfl⟩)

/-- Without a quote behind a backslash, a body is the contents of a literal. -/
theorem exists_contents_of_mem_ends (h : e ∈ (quotedBody q (some '\\')).ends s)
    (hescape : ¬ ['\\', q] <:+: s.rest) : ∃ v, s.Moves v e ∧ Contents q v := by
  have hrun := reflTransGen_of_mem_ends_many h
  clear h
  induction hrun using Relation.ReflTransGen.head_induction_on with
  | refl => exact ⟨[], .refl e, .nil⟩
  | @head s m hround _ ih =>
    have hrest : ∀ {x}, s.Moves x m → ∃ v, m.Moves v e ∧ Contents q v := fun hx =>
      ih fun hi => hescape (hi.trans (hx.rest ▸ List.suffix_append _ m.rest).isInfix)
    rcases moves_of_mem_ends_round hround with hx | hx | ⟨c, hc, hx⟩
    · obtain ⟨v, hv, hcontents⟩ := hrest hx
      exact ⟨q :: q :: v, hx.trans hv, .pair hcontents⟩
    · exact absurd (hx.rest ▸ List.infix_append' [] _ m.rest) hescape
    · obtain ⟨v, hv, hcontents⟩ := hrest hx
      exact ⟨c :: v, hx.trans hv, .other hc hcontents⟩

/-- A text between two quotes is a literal that is closed. -/
theorem exists_quoted_of_mem_ends (h : e ∈ (quotedRule q).ends s)
    (hescape : ¬ ['\\', q] <:+: s.rest) : ∃ v, s.Moves (q :: v ++ [q]) e ∧ Contents q v := by
  obtain ⟨m, hm, h⟩ := mem_ends_all_cons.mp h
  obtain ⟨m', hm', hend⟩ := mem_ends_all_cons.mp h
  obtain ⟨r, hs, rfl⟩ := mem_ends_char.mp hm
  obtain ⟨r', hs', rfl⟩ := mem_ends_char.mp hend
  have hopen : s.Moves [q] ⟨s.offset + 1, some q, r⟩ := ⟨hs, rfl⟩
  have hclose : m'.Moves [q] ⟨m'.offset + 1, some q, r'⟩ := ⟨hs', rfl⟩
  have hbody : ¬ ['\\', q] <:+: r := fun hi =>
    hescape (hi.trans (hs ▸ List.suffix_cons q r).isInfix)
  obtain ⟨v, hv, hcontents⟩ := exists_contents_of_mem_ends hm' hbody
  exact ⟨v, (hopen.trans hv).trans hclose, hcontents⟩

/-- Where the quote comes again, the rule matches. -/
theorem exists_mem_ends_quotedRule {u : Text} (hs : s.rest = q :: u) (hu : q ∈ u) :
    ∃ e, e ∈ (quotedRule q).ends s := by
  obtain ⟨v, w, rfl, hv⟩ := List.eq_append_cons_of_mem hu
  have hround : ∀ (m : Spot) c r, m.rest = c :: r → (c != q) = true →
      ∃ m' ∈ (any [seq (char q) (char q), seq (char '\\') (char q), one (· != q)]).ends m,
        m'.rest = r := by
    intro m c r hm hc
    have hone : ⟨m.offset + 1, some c, r⟩ ∈ (one (· != q)).ends m :=
      mem_ends_one.mpr ⟨c, r, hm, hc, rfl⟩
    exact ⟨_, mem_ends_any_cons.mpr (Or.inr (mem_ends_any_cons.mpr (Or.inr hone))), rfl⟩
  have hne : ∀ c ∈ v, (c != q) = true := fun c hc => bne_iff_ne.mpr fun e => hv (e ▸ hc)
  obtain ⟨m, hm, hrest⟩ := exists_mem_ends_many (s := ⟨s.offset + 1, some q, v ++ q :: w⟩) hround rfl hne
  have hopen := mem_ends_char.mpr ⟨_, hs, rfl⟩
  have hclose := mem_ends_char.mpr ⟨w, hrest, rfl⟩
  exact ⟨_, mem_ends_all_cons.mpr ⟨_, hopen, mem_ends_all_cons.mpr ⟨m, hm, hclose⟩⟩⟩

/-! ### Which rules can go over a quote -/

/-- What stands before the literal that gives a time zone. -/
def timeZoneWords : List Pattern :=
  [any [keyword "AT", seq (keyword "WITH") (char '\'')], spaces, keyword "TIME", spaces,
    keyword "ZONE", spaces]

/-- The rule for a time zone. -/
def timeZoneRule : Pattern :=
  all (timeZoneWords ++ [char '\'', some1 (noneOf "'"), char '\''])

/-- The rules for quoted texts of all kinds, with the character that they start with. -/
def quotingRules : List (Char × Pattern) :=
  [('\x60', all [char '\x60', quotedBody '\x60' none, char '\x60']),
    ('´', all [char '´', quotedBody '´' none, char '´']),
    ('\'', quotedRule '\''),
    ('"', quotedRule '"'),
    ('"', alt (exactly "\"\"") (all [char '"', reluctant inLine, noneOf "\\", char '"'])),
    ('[', all [notBehind fun c => Text.isWordChar c || c == ']' || c == ')', char '[',
      some1 (noneOf "[]"), char ']'])]

/-- All other rules for code. -/
def plainRules : List Pattern :=
  symbolRules.take 5 ++ symbolRules.drop 7 ++ nameRules.take 9 ++ phraseRules.take 16
    ++ phraseRules.drop 17 ++ operatorRules

theorem mem_codeRules_cases {a : Pattern} (h : a ∈ codeRules) :
    a ∈ plainRules ∨ a ∈ quotingRules.map (·.2) ∨ a = timeZoneRule := by
  have hsymbol : symbolRules =
    symbolRules.take 5 ++ (quotingRules.map (·.2)).take 2 ++ symbolRules.drop 7 := rfl
  have hname : nameRules = nameRules.take 9 ++ (quotingRules.map (·.2)).drop 2 := rfl
  have hphrase : phraseRules = phraseRules.take 16 ++ timeZoneRule :: phraseRules.drop 17 := rfl
  rw [codeRules, hsymbol, hname, hphrase] at h
  simp only [List.mem_append, List.mem_cons] at h
  simp only [plainRules, List.mem_append]
  rcases h with ((((h | h) | h) | h | h) | h | h | h) | h
  · simp [h]
  · exact Or.inr (Or.inl (List.mem_of_mem_take h))
  · simp [h]
  · simp [h]
  · exact Or.inr (Or.inl (List.mem_of_mem_drop h))
  · simp [h]
  · exact Or.inr (Or.inr h)
  · simp [h]
  · simp [h]

theorem uses_plainRules {a : Pattern} (h : a ∈ plainRules) :
    a.uses '\'' = false ∧ a.uses '"' = false := by
  have hall : (plainRules.all fun a => !a.uses '\'' && !a.uses '"') = true := by decide +kernel
  have ha := List.all_eq_true.mp hall a h
  rwa [Bool.and_eq_true, Bool.not_eq_true', Bool.not_eq_true'] at ha

theorem eq_of_canStart_quotingRules {p : Char × Pattern} (h : p ∈ quotingRules) {c : Char}
    (hc : p.2.canStart c = true) : c = p.1 := by
  simp only [quotingRules, List.mem_cons, List.not_mem_nil, or_false] at h
  rcases h with rfl | rfl | rfl | rfl | rfl | rfl <;>
    simpa [quotedRule, all, exactly, canStart, canSkip, char] using hc

/-- A quote of another kind: a backtick, an acute accent or a bracket. -/
def isOtherQuote (c : Char) : Bool :=
  c = '\x60' || c = '´' || c = '['

theorem isQuote_of_isOtherQuote {c : Char} (h : isOtherQuote c = true) : isQuote c = false := by
  rw [← Bool.not_eq_true, isQuote_iff]
  rintro (rfl | rfl)
  · exact absurd h (by decide)
  · exact absurd h (by decide)

theorem isQuote_or_isOtherQuote {p : Char × Pattern} (h : p ∈ quotingRules) :
    isQuote p.1 = true ∨ isOtherQuote p.1 = true := by
  have hall : (quotingRules.all fun p => isQuote p.1 || isOtherQuote p.1) = true := by decide
  exact Bool.or_eq_true_iff.mp (List.all_eq_true.mp hall p h)

theorem cannotStart_of_all {l : List Pattern}
    (h : (l.all fun a => !a.canSkip && !a.canStart q) = true) :
    ∀ a ∈ l, a.canSkip = false ∧ a.canStart q = false := by
  intro a ha
  have hboth := List.all_eq_true.mp h a ha
  rwa [Bool.and_eq_true, Bool.not_eq_true', Bool.not_eq_true'] at hboth

/-- No rule before the one for the quote can begin with it. -/
theorem codeRules_eq_append_quotedRule (hq : isQuote q = true) :
    ∃ before after, codeRules = before ++ quotedRule q :: after ∧
      ∀ a ∈ before, a.canSkip = false ∧ a.canStart q = false := by
  rcases isQuote_iff.mp hq with rfl | rfl
  · exact ⟨codeRules.take 20, codeRules.drop 21, rfl, cannotStart_of_all (by decide)⟩
  · exact ⟨codeRules.take 21, codeRules.drop 22, rfl, cannotStart_of_all (by decide)⟩

/-- At a quote that comes again the best match is the one of its own rule. -/
theorem firstLength?_codeRules {u : Text} (hq : isQuote q = true) (hs : s.rest = q :: u) (hu : q ∈ u) :
    ∃ n, (quotedRule q).length? s = some n ∧ firstLength? codeRules s = some n := by
  obtain ⟨before, after, hrules, hbefore⟩ := codeRules_eq_append_quotedRule hq
  obtain ⟨e, he⟩ := exists_mem_ends_quotedRule hs hu
  obtain ⟨n, hn⟩ := exists_length?_of_mem_ends he
  have hnone : before.findSome? (·.length? s) = none :=
    List.findSome?_eq_none_iff.mpr fun a ha =>
      length?_eq_none hs (hbefore a ha).1 (hbefore a ha).2
  refine ⟨n, hn, ?_⟩
  rw [firstLength?, hrules, List.findSome?_append, hnone, List.findSome?_cons, hn]
  rfl

/-! ### Lexemes and literals -/

/-- The words of a time zone hold no quote, unless it starts with a quote behind `WITH`. -/
theorem exists_words_of_mem_ends (h : e ∈ (all timeZoneWords).ends s)
    (hwith : ¬ "WITH'".toList <+: s.rest.map Text.letterKey) :
    ∃ w, s.Moves w e ∧ ∀ c ∈ w, isQuote c = false := by
  obtain ⟨m, hm, hrest⟩ := mem_ends_all_cons.mp h
  rcases mem_ends_any_cons.mp hm with hat | hquoted
  · obtain ⟨w, hw, huses⟩ := exists_moves (mem_ends_all_cons.mpr ⟨m, hat, hrest⟩)
    exact ⟨w, hw, no_quote_of_forall (by decide) huses⟩
  · obtain ⟨m', hm', hquote⟩ := mem_ends_seq.mp hquoted
    obtain ⟨y, hy, hkey⟩ := exists_moves_of_mem_ends_keyword hm'
    obtain ⟨r, hr, -⟩ := mem_ends_char.mp hquote
    refine absurd ⟨r.map Text.letterKey, ?_⟩ hwith
    rw [hy.rest, hr, List.map_append, hkey]
    rfl

/-- Behind its words, a time zone is a literal that is closed. -/
theorem isOpen_of_mem_ends_timeZoneRule (h : e ∈ timeZoneRule.ends s)
    (hwith : ¬ "WITH'".toList <+: s.rest.map Text.letterKey) :
    ∃ x, s.Moves x e ∧ isOpen x = false := by
  obtain ⟨m, hm, he⟩ := mem_ends_all_append.mp h
  obtain ⟨w, hw, hwords⟩ := exists_words_of_mem_ends hm hwith
  obtain ⟨m₁, hm₁, hbody⟩ := mem_ends_all_cons.mp he
  obtain ⟨m₂, hm₂, hend⟩ := mem_ends_all_cons.mp hbody
  obtain ⟨r, hs, rfl⟩ := mem_ends_char.mp hm₁
  obtain ⟨v, hv, huses⟩ := exists_moves hm₂
  obtain ⟨r', hs', rfl⟩ := mem_ends_char.mp hend
  have hopen : m.Moves ['\''] ⟨m.offset + 1, some '\'', r⟩ := ⟨hs, rfl⟩
  have hclose : m₂.Moves ['\''] ⟨m₂.offset + 1, some '\'', r'⟩ := ⟨hs', rfl⟩
  have hquote : '\'' ∉ v := fun hmem => absurd (huses _ hmem) (by decide)
  refine ⟨w ++ ('\'' :: v ++ ['\'']), hw.trans ((hopen.trans hv).trans hclose), ?_⟩
  rw [isOpen_append (isOpen_of_no_quote hwords)]
  exact isOpen_quoted rfl (contents_of_not_mem hquote)

/-- At the start of the text the rules for code and the scan for literals take a quote for the same
thing. -/
structure ReadsAlike (t : Text) : Prop where
  /-- No backslash stands before a quote. -/
  no_escape : ∀ q, isQuote q = true → ¬ ['\\', q] <:+: t
  /-- The text does not start with a quote of another kind. -/
  no_other_quote : ∀ c, isOtherQuote c = true → t.head? ≠ some c
  /-- It does not start with a dollar tag. -/
  no_tag : dollarTag? t = none
  /-- It does not start with `WITH` and a quote. -/
  no_with : ¬ "WITH'".toList <+: t.map Text.letterKey

section Best

variable {c : Char} {u : Text} {n : Nat}

/-- At a quote that comes again the best match is a literal that is closed. -/
theorem isOpen_of_quote (hread : ReadsAlike s.rest) (hs : s.rest = c :: u) (hc : isQuote c = true)
    (hu : c ∈ u) (hn : firstLength? codeRules s = some n) :
    isOpen (s.rest.take n) = false ∧ n ≠ 0 := by
  obtain ⟨k, hk, hfirst⟩ := firstLength?_codeRules hc hs hu
  obtain rfl : k = n := Option.some.inj (hfirst.symm.trans hn)
  obtain ⟨x, e, he, hx, rfl⟩ := exists_moves_of_length? hk
  obtain ⟨v, hv, hcontents⟩ := exists_quoted_of_mem_ends he (hread.no_escape c hc)
  obtain rfl := hx.unique hv
  rw [hx.take_length]
  exact ⟨isOpen_quoted hc hcontents, by simp⟩

/-- At another character no literal opens but in a time zone, which closes it. -/
theorem isOpen_of_not_quote (hread : ReadsAlike s.rest) (hs : s.rest = c :: u)
    (hc : isQuote c = false) (hn : firstLength? codeRules s = some n) :
    isOpen (s.rest.take n) = false := by
  obtain ⟨a, ha, hn⟩ := exists_length?_of_firstLength? hn
  obtain ⟨x, e, he, hx, rfl⟩ := exists_moves_of_length? hn
  rw [hx.take_length]
  rcases mem_codeRules_cases ha with hplain | hquoting | rfl
  · obtain ⟨y, hy, huses⟩ := exists_moves he
    obtain rfl := hx.unique hy
    exact isOpen_of_no_quote (no_quote_of_forall (uses_plainRules hplain) huses)
  · obtain ⟨p, hp, rfl⟩ := List.mem_map.mp hquoting
    rcases canStart_of_mem_ends he with ⟨-, rfl⟩ | ⟨d, r, hd, hstart⟩
    · obtain rfl := hx.unique (.refl e)
      rfl
    · obtain rfl : c = d := (List.cons.inj (hs.symm.trans hd)).1
      obtain rfl := eq_of_canStart_quotingRules hp hstart
      rcases isQuote_or_isOtherQuote hp with hquote | hother
      · rw [hc] at hquote
        cases hquote
      · exact absurd (by rw [hs]; rfl) (hread.no_other_quote p.1 hother)
  · obtain ⟨y, hy, hclosed⟩ := isOpen_of_mem_ends_timeZoneRule he hread.no_with
    obtain rfl := hx.unique hy
    exact hclosed

/-- The same of the characters that are taken: the best match, or one character. -/
theorem isOpen_take_best (hread : ReadsAlike s.rest) (hs : s.rest = c :: u)
    (hu : isQuote c = true → c ∈ u) :
    isOpen (s.rest.take (max 1 ((firstLength? codeRules s).getD 1))) = false := by
  cases hc : isQuote c with
  | true =>
    obtain ⟨n, -, hn⟩ := firstLength?_codeRules hc hs (hu hc)
    obtain ⟨hclosed, hn0⟩ := isOpen_of_quote hread hs hc (hu hc) hn
    rwa [hn, Option.getD_some, Nat.max_eq_right (Nat.one_le_iff_ne_zero.mpr hn0)]
  | false =>
    have hsingle : isOpen (s.rest.take 1) = false := by
      rw [hs]
      exact isOpen_of_no_quote (List.forall_mem_singleton.mpr hc)
    cases hn : firstLength? codeRules s with
    | none => exact hsingle
    | some n =>
      rw [Option.getD_some]
      rcases Nat.eq_zero_or_pos n with rfl | hpos
      · exact hsingle
      · rw [Nat.max_eq_right hpos]
        exact isOpen_of_not_quote hread hs hc hn

end Best

/-- A lexeme of code leaves no literal open, or the whole rest is a literal that is not closed. -/
theorem IsLexeme.isOpen_eq_false_or {before : Option Char} {x r : Text}
    (h : IsLexeme before .code x r) (hread : ReadsAlike (x ++ r)) :
    isOpen x = false ∨ ∃ q u, x ++ r = q :: u ∧ isQuote q = true ∧ q ∉ u := by
  obtain ⟨c, y, rfl⟩ := List.exists_cons_of_ne_nil h.ne_nil
  by_cases hunclosed : isQuote c = true ∧ c ∉ y ++ r
  · exact Or.inr ⟨c, y ++ r, rfl, hunclosed.1, hunclosed.2⟩
  left
  rcases h.cases with ⟨hk, -⟩ | ⟨-, n, hn⟩ | ⟨hk, -⟩ | ⟨-, htake⟩
  · cases hk
  · rw [dollarQuoteLength?, hread.no_tag] at hn
    split_ifs at hn
  · cases hk
  · have hquote : isQuote c = true → c ∈ y ++ r := fun hc =>
      by_contra fun hmem => hunclosed ⟨hc, hmem⟩
    have hbest := isOpen_take_best (s := { before, rest := c :: y ++ r }) hread rfl hquote
    rwa [htake] at hbest

end Lexicon

end SqlAssist
