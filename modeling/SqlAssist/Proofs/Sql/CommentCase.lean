import SqlAssist.Proofs.Sql.LetterCase
import SqlAssist.Proofs.Sql.Lexeme

/-!
# The case of letters and comments

The rules of the lexicon do not tell small letters from capitals (`Pattern.ignoresCase`, which is
computed), so a text is cut into lexemes as its capitals are. The one exception are dollar tags,
which are compared letter by letter: in a text without a dollar sign the comments do not depend on
the case of letters (`Lexicon.kinds_eq_of_no_dollar`). Two texts that have the same comments and
the same capitals have the same capitals once their comments are blanked.
-/

namespace SqlAssist

open Text

/-! ### Patterns -/

/-- The spot in the capitals of the text. -/
def Spot.capitals (s : Spot) : Spot :=
  ⟨s.offset, s.before.map Char.toUpper, s.rest.capitals⟩

namespace Pattern

/-- No test of the pattern tells a small letter from its capital. -/
def ignoresCase : Pattern → Bool
  | one p | behind p | notBehind p => smallLetters.all fun c => p c.toUpper == p c
  | seq a b | alt a b => a.ignoresCase && b.ignoresCase
  | many a | reluctant a | ahead a | notAhead a => a.ignoresCase
  | empty | wordEdge | textEnd => true

variable {a : Pattern} {p : Char → Bool} {step : Spot → List Spot}

theorem ignoresCase_test (h : (smallLetters.all fun c => p c.toUpper == p c) = true) : IgnoresCase p :=
  ignoresCase_of_forall fun c hc => beq_iff_eq.mp (List.all_eq_true.mp h c hc)

theorem foldr_capitals {f g : Spot → List Spot → List Spot}
    (hf : ∀ s others, f s.capitals (others.map Spot.capitals) = (g s others).map Spot.capitals)
    (l others : List Spot) :
    (l.map Spot.capitals).foldr f (others.map Spot.capitals) = (l.foldr g others).map Spot.capitals := by
  induction l with
  | nil => rfl
  | cons s l ih => rw [List.map_cons, List.foldr_cons, ih, hf, List.foldr_cons]

theorem repeatMany_capitals (hstep : ∀ s, step s.capitals = (step s).map Spot.capitals)
    (fuel : Text) (s : Spot) (others : List Spot) :
    repeatMany step fuel.capitals s.capitals (others.map Spot.capitals) =
      (repeatMany step fuel s others).map Spot.capitals := by
  induction fuel generalizing s others with
  | nil => rfl
  | cons c fuel ih =>
    rw [capitals_cons, repeatMany, repeatMany, hstep, ← List.map_cons, foldr_capitals ih]

theorem repeatReluctant_capitals (hstep : ∀ s, step s.capitals = (step s).map Spot.capitals)
    (fuel : Text) (s : Spot) (others : List Spot) :
    repeatReluctant step fuel.capitals s.capitals (others.map Spot.capitals) =
      (repeatReluctant step fuel s others).map Spot.capitals := by
  induction fuel generalizing s others with
  | nil => rfl
  | cons c fuel ih =>
    rw [capitals_cons, repeatReluctant, repeatReluctant, hstep, foldr_capitals ih, List.map_cons]

theorem endsBefore_capitals (h : a.ignoresCase = true) (s : Spot) (others : List Spot) :
    a.endsBefore s.capitals (others.map Spot.capitals) = (a.endsBefore s others).map Spot.capitals := by
  induction a generalizing s others with
  | empty => rfl
  | one p =>
    obtain ⟨offset, before, rest⟩ := s
    cases rest with
    | nil => rfl
    | cons c r =>
      have hc := ignoresCase_test h c
      simp only [Spot.capitals, capitals_cons, endsBefore, hc]
      split_ifs <;> rfl
  | seq a b iha ihb =>
    obtain ⟨ha, hb⟩ := (Bool.and_eq_true _ _).mp h
    have hends : a.endsBefore s.capitals [] = (a.endsBefore s []).map Spot.capitals := iha ha s []
    rw [endsBefore, endsBefore, hends, foldr_capitals (ihb hb)]
  | alt a b iha ihb =>
    obtain ⟨ha, hb⟩ := (Bool.and_eq_true _ _).mp h
    rw [endsBefore, endsBefore, ihb hb, iha ha]
  | many a ih => exact repeatMany_capitals (fun s => ih h s []) s.rest s others
  | reluctant a ih => exact repeatReluctant_capitals (fun s => ih h s []) s.rest s others
  | ahead a ih | notAhead a ih =>
    have hends : a.endsBefore s.capitals [] = (a.endsBefore s []).map Spot.capitals := ih h s []
    rw [endsBefore, endsBefore, hends, List.isEmpty_map]
    split_ifs <;> rfl
  | behind p | notBehind p =>
    have hbefore : s.capitals.before.any p = s.before.any p :=
      any_map_toUpper (ignoresCase_test h) s.before
    rw [endsBefore, endsBefore, hbefore]
    split_ifs <;> rfl
  | wordEdge =>
    have hbefore : s.capitals.before.any isWordChar = s.before.any isWordChar :=
      any_map_toUpper ignoresCase_isWordChar s.before
    have hrest : s.capitals.rest.head?.any isWordChar = s.rest.head?.any isWordChar :=
      any_head?_capitals ignoresCase_isWordChar s.rest
    rw [endsBefore, endsBefore, hbefore, hrest]
    split_ifs <;> rfl
  | textEnd =>
    have hend : s.capitals.rest = [] ∨ s.capitals.rest = ['\n'] ↔ s.rest = [] ∨ s.rest = ['\n'] := by
      obtain ⟨offset, before, rest⟩ := s
      rcases rest with _ | ⟨c, _ | ⟨d, r⟩⟩
      · rfl
      · simp [Spot.capitals, toUpper_eq_iff (d := '\n') rfl]
      · simp [Spot.capitals]
    simp only [endsBefore, hend]
    split_ifs <;> rfl

theorem length?_capitals (h : a.ignoresCase = true) (s : Spot) : a.length? s.capitals = a.length? s := by
  have hends : a.ends s.capitals = (a.ends s).map Spot.capitals := endsBefore_capitals h s []
  rw [length?, hends, List.head?_map, Option.map_map]
  rfl

@[simp] theorem ignoresCase_all (as : List Pattern) :
    (all as).ignoresCase = as.all (·.ignoresCase) := by
  induction as using all.induct with
  | case1 => rfl
  | case2 a => simp [all]
  | case3 a as _ ih => rw [all, ignoresCase, ih, List.all_cons]; assumption

@[simp] theorem ignoresCase_any (as : List Pattern) :
    (any as).ignoresCase = as.all (·.ignoresCase) := by
  induction as using any.induct with
  | case1 => rfl
  | case2 a => simp [any]
  | case3 a as _ ih => rw [any, ignoresCase, ih, List.all_cons]; assumption

@[simp] theorem ignoresCase_maybe (a : Pattern) : (maybe a).ignoresCase = a.ignoresCase := by
  rw [maybe, ignoresCase, ignoresCase, Bool.and_true]

@[simp] theorem ignoresCase_some1 (a : Pattern) : (some1 a).ignoresCase = a.ignoresCase := by
  rw [some1, ignoresCase, ignoresCase, Bool.and_self]

theorem ignoresCase_one (hp : IgnoresCase p) : (one p).ignoresCase = true :=
  List.all_eq_true.mpr fun c _ => beq_iff_eq.mpr (hp c)

@[simp] theorem ignoresCase_space : space.ignoresCase = true := ignoresCase_one ignoresCase_isSpace

@[simp] theorem ignoresCase_spaces : spaces.ignoresCase = true := by
  rw [spaces, ignoresCase_some1, ignoresCase_space]

@[simp] theorem ignoresCase_keyword (k : String) : (keyword k).ignoresCase = true := by
  rw [keyword, ignoresCase_all, List.all_map]
  refine List.all_eq_true.mpr fun d _ => ?_
  have hd : IgnoresCase fun c => letterKey c == d :=
    fun c => congrArg (· == d) (ignoresCase_letterKey c)
  exact ignoresCase_one hd

end Pattern

/-! ### Lexemes -/

namespace Lexicon

open Pattern

theorem firstLength?_capitals {ps : List Pattern} (h : (ps.all (·.ignoresCase)) = true) (s : Spot) :
    firstLength? ps s.capitals = firstLength? ps s := by
  induction ps with
  | nil => rfl
  | cons a ps ih =>
    rw [List.all_cons, Bool.and_eq_true] at h
    simp only [firstLength?, List.findSome?_cons, Pattern.length?_capitals h.1]
    cases a.length? s with
    | some n => rfl
    | none => exact ih h.2

theorem lengthThrough?_capitals {p : Text} (hp : ∀ d ∈ p, d.isAlpha = false) (t : Text) :
    lengthThrough? p t.capitals = lengthThrough? p t := by
  induction t with
  | nil => rfl
  | cons c t ih =>
    rw [capitals_cons, lengthThrough?, lengthThrough?, ih, ← capitals_cons, isPrefixOf_capitals hp]

theorem blockCommentLength?_capitals (t : Text) :
    blockCommentLength? t.capitals = blockCommentLength? t := by
  have hcloser : ∀ d ∈ "*/".toList, d.isAlpha = false := by decide
  rw [blockCommentLength?, blockCommentLength?, isPrefixOf_capitals (by decide),
    isPrefixOf_capitals (by decide), drop_capitals, drop_capitals, lengthThrough?_capitals hcloser,
    lengthThrough?_capitals hcloser]

theorem dollarQuoteLength?_eq_none {s : Spot} (h : '$' ∉ s.rest) : dollarQuoteLength? s = none := by
  have htag : dollarTag? s.rest = none := by
    rw [dollarTag?]
    intro r hr
    exact h (hr ▸ List.mem_cons_self)
  rw [dollarQuoteLength?, htag]
  split_ifs <;> rfl

theorem dollar_not_mem_capitals {t : Text} (h : '$' ∉ t) : '$' ∉ t.capitals := by
  intro hmem
  obtain ⟨c, hc, hcd⟩ := List.mem_map.mp hmem
  rw [toUpper_eq_iff rfl] at hcd
  exact h (hcd ▸ hc)

@[simp] theorem ignoresCase_keywords (ks : List String) : (keywords ks).ignoresCase = true := by
  simp [keywords, ignoresCase, Function.comp_def]

@[simp] theorem ignoresCase_leadWord (ks : List String) : (leadWord ks).ignoresCase = true := by
  simp [leadWord, ignoresCase, Function.comp_def]

/-- The rules that are not made of keywords, and what the others are made of besides. The letters of
keywords are too many to be tested one by one. -/
theorem ignoresCase_wordless :
    (lineCommentRules ++ symbolRules ++ nameRules.tail ++ operatorRules ++
      [digit, char '\'', noneOf "'"]).all (·.ignoresCase) = true := by
  decide +kernel

theorem ignoresCase_rules :
    lineCommentRules.all (·.ignoresCase) = true ∧ codeRules.all (·.ignoresCase) = true := by
  have hrules := ignoresCase_wordless
  simp only [List.all_append, List.all_cons, List.all_nil, Bool.and_eq_true, and_true] at hrules
  obtain ⟨⟨⟨⟨hcomments, hsymbols⟩, hnames⟩, hoperators⟩, hdigit, hquote, hother⟩ := hrules
  have hphrases : phraseRules.all (·.ignoresCase) = true := by
    simp [phraseRules, ignoresCase, hdigit, hquote, hother]
  have hfirst : nameRules =
    keywords ["CASE", "IN", "VALUES", "USING", "FROM", "AS"] :: nameRules.tail := rfl
  refine ⟨hcomments, ?_⟩
  rw [codeRules, hfirst, List.all_append, List.all_append, List.all_append, List.all_cons, hsymbols,
    ignoresCase_keywords, hnames, hphrases, hoperators]
  rfl

theorem lexeme_capitals {s : Spot} (h : '$' ∉ s.rest) : lexeme s.capitals = lexeme s := by
  have hdollar : '$' ∉ s.capitals.rest := dollar_not_mem_capitals h
  have hblock : blockCommentLength? s.capitals.rest = blockCommentLength? s.rest :=
    blockCommentLength?_capitals s.rest
  rw [lexeme, lexeme, hblock, dollarQuoteLength?_eq_none h, dollarQuoteLength?_eq_none hdollar,
    firstLength?_capitals ignoresCase_rules.1, firstLength?_capitals ignoresCase_rules.2]

theorem kindsFrom_capitals {t : Text} (h : '$' ∉ t) (kind : Kind) (left : Nat) (before : Option Char) :
    kindsFrom kind left (before.map Char.toUpper) t.capitals = kindsFrom kind left before t := by
  induction t generalizing kind left before with
  | nil => cases left <;> rfl
  | cons c t ih =>
    have ht : '$' ∉ t := fun hmem => h (List.mem_cons_of_mem c hmem)
    have hnext (kind : Kind) (left : Nat) :
        kindsFrom kind left (some c.toUpper) (capitals t) = kindsFrom kind left (some c) t :=
      ih ht kind left (some c)
    cases left with
    | succ left => rw [capitals_cons, kindsFrom, kindsFrom, hnext]
    | zero =>
      have hlexeme : lexeme { before := before.map Char.toUpper, rest := c.toUpper :: capitals t } =
          lexeme { before, rest := c :: t } :=
        lexeme_capitals (s := { before, rest := c :: t }) h
      simp only [capitals_cons, kindsFrom, hlexeme, hnext]

/-- Without dollar signs, the case of letters does not matter to comments. -/
theorem kinds_eq_of_no_dollar {s t : Text} (hs : '$' ∉ s) (h : SameLetters s t) : kinds s = kinds t := by
  have ht : '$' ∉ t := by
    intro hmem
    refine dollar_not_mem_capitals hs (h ▸ ?_)
    exact List.mem_map.mpr ⟨'$', hmem, rfl⟩
  have hs' := kindsFrom_capitals hs .code 0 none
  have ht' := kindsFrom_capitals ht .code 0 none
  rw [kinds, kinds, ← hs', ← ht']
  exact congrArg (kindsFrom .code 0 none) h

end Lexicon

/-! ### Blanked comments -/

namespace Comment

variable {s t : Text}

theorem zipWith_maskChar_capitals (kinds : List Lexicon.Kind) (t : Text) :
    capitals (List.zipWith maskChar kinds t) = List.zipWith maskChar kinds t.capitals := by
  rw [capitals, capitals, List.map_zipWith, List.zipWith_map_right]
  congr 1
  funext kind c
  rw [maskChar, maskChar, ignoresCase_blankChar c]
  split_ifs
  · rfl
  · exact toUpper_blankChar c

/-- With the same comments in both, texts that differ in the case of letters still do so once their
comments are blanked. -/
theorem mask_sameLetters (h : SameLetters s t) (hkinds : Lexicon.kinds s = Lexicon.kinds t) :
    SameLetters (mask s) (mask t) := by
  have hmask (t : Text) : mask t = List.zipWith maskChar (Lexicon.kinds t) t := mask_eq_maskFrom t
  rw [SameLetters, hmask, hmask, zipWith_maskChar_capitals, zipWith_maskChar_capitals, h, hkinds]

theorem hasMarker_capitals (t : Text) : hasMarker t.capitals = hasMarker t := by
  have hhash : t.capitals.contains '#' = t.contains '#' := by
    rw [Bool.eq_iff_iff, List.contains_iff_mem, List.contains_iff_mem, capitals, List.mem_map]
    simp only [toUpper_eq_iff (d := '#') rfl, exists_eq_right]
  rw [hasMarker, hhash, hasInfix_capitals (by decide), hasInfix_capitals (by decide)]
  rfl

/-- With the same comments in both, the cursor is inside a comment in both texts or in neither. -/
theorem isOpen_eq (h : SameLetters s t) (hkinds : Lexicon.kinds s = Lexicon.kinds t) :
    isOpen s = isOpen t := by
  have hbreak (t : Text) : t.capitals.getLast?.any isLineBreak = t.getLast?.any isLineBreak :=
    any_getLast?_capitals (ignoresCase_of_forall (by decide)) t
  have hopener (t : Text) : hasInfix "/*".toList (Literal.blank t.capitals) =
      hasInfix "/*".toList (Literal.blank t) := by
    rw [Literal.blank_capitals, hasInfix_capitals (by decide)]
  have hmask : (mask s).capitals = (mask t).capitals := mask_sameLetters h hkinds
  rw [isOpen, isOpen, ← hasMarker_capitals s, ← hasMarker_capitals t, ← hbreak s, ← hbreak t,
    ← hopener (mask s), ← hopener (mask t), hmask, h, hkinds]

end Comment

end SqlAssist
