import SqlAssist.Proofs.Sql.CommentCase
import SqlAssist.Proofs.Sql.CommentEnd
import SqlAssist.Proofs.Sql.Quoted
import SqlAssist.Proofs.Sql.TextEnd

/-!
# Rules that go over a comment marker

A comment is found only if a lexeme starts at its marker. So the question is which rule for
code can begin further left and go over a hyphen or a slash. That a pattern cannot do so is
computed from its shape (`Pattern.late`), which settles all rules but ten: those for quoted
texts and for time zones, the one for numbers with an exponent, the one for arrows, and the
one for runs of operators.

In a text without the characters that mean something else to the lexer (`isDelimiter`), only
two of the ten are left to go over a marker (`IsLexeme.operators_or_accents`): the run of
operators, which does not start with a hyphen, and the text between two acute accents. An
exponent may have a hyphen, but a digit follows it.
-/

namespace SqlAssist

namespace Pattern

variable {a b : Pattern} {s e : Spot} {x : Text} {c : Char}

/-- Some test that may be applied behind the first character of a piece admits the character. -/
def late (c : Char) : Pattern → Bool
  | seq a b => a.late c || b.late c || (!a.isTest && b.uses c)
  | alt a b => a.late c || b.late c
  | many a | reluctant a => a.uses c
  | empty | one _ | ahead _ | notAhead _ | behind _ | notBehind _ | wordEdge | textEnd => false

theorem Takes.isTest_eq_false (h : a.Takes s x e) (hx : x ≠ []) : a.isTest = false := by
  cases h with
  | empty _ | manyNil _ _ | reluctantNil _ _ | test _ _ => exact absurd rfl hx
  | one _ _ | seq _ _ | altLeft _ | altRight _ | manyCons _ _ | reluctantCons _ _ => rfl

/-- Behind its first character a piece is made of characters that a late test admits. -/
theorem Takes.late (h : a.Takes s x e) (hc : c ∈ x.tail) : a.late c = true := by
  induction h with
  | empty _ | one _ _ | manyNil _ _ | reluctantNil _ _ | test _ _ => cases hc
  | @seq a _ _ _ _ x _ ha hb iha ihb =>
    rw [Pattern.late, Bool.or_eq_true, Bool.or_eq_true, Bool.and_eq_true, Bool.not_eq_true']
    cases x with
    | nil => exact Or.inl (Or.inr (ihb hc))
    | cons d x =>
      rw [List.cons_append, List.tail_cons, List.mem_append] at hc
      rcases hc with hc | hc
      · exact Or.inl (Or.inl (iha hc))
      · -- What the first pattern has matched is not empty, so it is more than a test.
        exact Or.inr ⟨ha.isTest_eq_false (List.cons_ne_nil d x), hb.uses hc⟩
  | altLeft _ ih => rw [Pattern.late, ih hc, Bool.true_or]
  | altRight _ ih => rw [Pattern.late, ih hc, Bool.or_true]
  | manyCons ha hrest _ _ => exact (ha.manyCons hrest).uses (List.mem_of_mem_tail hc)
  | reluctantCons ha hrest _ _ => exact (ha.reluctantCons hrest).uses (List.mem_of_mem_tail hc)

/-- A repetition can stop where it starts. -/
theorem ends_many_ne_nil (a : Pattern) (s : Spot) : (many a).ends s ≠ [] := by
  obtain ⟨m, hm, -⟩ := exists_mem_ends_many (a := a) (p := fun _ => false) (v := [])
    (fun _ _ _ _ h => absurd h Bool.false_ne_true) (List.nil_append s.rest).symm
    (fun _ h => absurd h List.not_mem_nil)
  exact List.ne_nil_of_mem hm

/-- The best match of a repetition leaves no character that it could take. -/
theorem rest_of_head?_ends_many_one {p : Char → Bool} (h : ((many (one p)).ends s).head? = some e) :
    e.rest.head?.any p = false := by
  obtain ⟨offset, before, rest⟩ := s
  induction rest generalizing offset before with
  | nil =>
    obtain rfl := Option.some.inj h
    rfl
  | cons c r ih =>
    have hrounds : (many (one p)).ends ⟨offset, before, c :: r⟩ =
        ((one p).ends ⟨offset, before, c :: r⟩).flatMap (many (one p)).ends ++
          [⟨offset, before, c :: r⟩] := by
      refine (repeatMany_cons _ c r _).trans ?_
      refine congrArg (· ++ _) (List.flatMap_congr fun m hm => ?_)
      obtain ⟨d, r', hs, -, rfl⟩ := mem_ends_one.mp hm
      rw [← (List.cons.inj hs).2]
      rfl
    rw [hrounds] at h
    cases hc : p c with
    | true =>
      have hone : (one p).ends ⟨offset, before, c :: r⟩ = [⟨offset + 1, some c, r⟩] := by
        simp [ends, endsBefore, hc]
      rw [hone, List.flatMap_singleton, List.head?_append_of_ne_nil] at h
      · exact ih _ _ h
      · exact ends_many_ne_nil _ _
    | false =>
      have hone : (one p).ends ⟨offset, before, c :: r⟩ = [] := by simp [ends, endsBefore, hc]
      rw [hone] at h
      obtain rfl := Option.some.inj h
      exact hc

theorem mem_ends_any {as : List Pattern} : e ∈ (any as).ends s ↔ ∃ a ∈ as, e ∈ a.ends s := by
  induction as with
  | nil =>
    have hnone : (any []).ends s = [] := rfl
    simp [hnone]
  | cons a as ih =>
    rw [mem_ends_any_cons, ih]
    simp

end Pattern

namespace Lexicon

open Pattern

variable {s e : Spot} {before : Option Char} {x w y r t : Text} {c : Char}

/-! ### The rules -/

/-- A number with an exponent. -/
def exponentRule : Pattern :=
  all ([maybe (char '-'), some1 digit, maybe (seq (char '.') (some1 digit)), keyword "E"] ++
    [maybe (char '-'), some1 digit])

/-- The arrows of several characters, and a hyphen by itself. -/
def arrows : List Pattern :=
  [seq (exactly "->") (maybe (char '>')), seq (exactly "#>") (maybe (char '>')), exactly "@>",
    exactly "<@", all [char '?', char '|', maybe (char '|')], exactly "?&", char '-', exactly "#-"]

/-- A run of operators. -/
def operatorRule : Pattern :=
  some1 (oneOf "+/@#%^&|-")

/-- The rules that go over a hyphen or a slash only where they start. -/
def steadyRules : List Pattern :=
  symbolRules.take 5 ++ symbolRules.drop 7 ++ nameRules.take 6 ++ (nameRules.drop 7).take 2
    ++ phraseRules.take 16 ++ phraseRules.drop 17 ++ operatorRules.take 2
    ++ (operatorRules.drop 3).take 1

/-- All rules but the last one, the one for runs of operators. -/
theorem mem_dropLast_codeRules_cases {a : Pattern} (h : a ∈ codeRules.dropLast) :
    a ∈ steadyRules ∨ a ∈ quotingRules.map (·.2) ∨ a = timeZoneRule ∨ a = exponentRule ∨
      a = any arrows := by
  have hrules : codeRules.dropLast =
      (symbolRules.take 5 ++ (quotingRules.map (·.2)).take 2 ++ symbolRules.drop 7)
      ++ (nameRules.take 6 ++ exponentRule :: (nameRules.drop 7).take 2
        ++ (quotingRules.map (·.2)).drop 2)
      ++ (phraseRules.take 16 ++ timeZoneRule :: phraseRules.drop 17)
      ++ (operatorRules.take 2 ++ any arrows :: (operatorRules.drop 3).take 1) := rfl
  rw [hrules] at h
  simp only [List.mem_append, List.mem_cons] at h
  simp only [steadyRules, List.mem_append]
  rcases h with ((((h | h) | h) | (h | h | h) | h) | h | h | h) | h | h | h
  · simp [h]
  · exact Or.inr (Or.inl (List.mem_of_mem_take h))
  · simp [h]
  · simp [h]
  · simp [h]
  · simp [h]
  · exact Or.inr (Or.inl (List.mem_of_mem_drop h))
  · simp [h]
  · simp [h]
  · simp [h]
  · simp [h]
  · simp [h]
  · simp [h]

theorem late_steadyRules {a : Pattern} (h : a ∈ steadyRules) :
    a.late '-' = false ∧ a.late '/' = false := by
  have hall : (steadyRules.all fun a => !a.late '-' && !a.late '/') = true := by decide
  have ha := List.all_eq_true.mp hall a h
  rwa [Bool.and_eq_true, Bool.not_eq_true', Bool.not_eq_true'] at ha

/-- At a hyphen the arrows match, so no run of operators starts there. -/
theorem firstLength?_hyphen (hs : s.rest = '-' :: t) :
    (codeRules.dropLast.findSome? (·.length? s)).isSome = true := by
  have hends : ⟨s.offset + 1, some '-', t⟩ ∈ (any arrows).ends s :=
    mem_ends_any.mpr ⟨char '-', by simp [arrows], mem_ends_char.mpr ⟨t, hs, rfl⟩⟩
  obtain ⟨n, hn⟩ := exists_length?_of_mem_ends hends
  have hmem : any arrows ∈ codeRules.dropLast := List.mem_of_getElem? (i := 45) rfl
  exact List.findSome?_isSome_iff.mpr ⟨any arrows, hmem, hn ▸ rfl⟩

/-! ### Delimiters -/

/-- A quote, a square bracket, a backslash, a hash or a dollar sign. -/
def isDelimiter (c : Char) : Bool :=
  "'\"\x60[]\\#$".toList.contains c

theorem ne_of_not_isDelimiter {d : Char} (h : ∀ c ∈ t, isDelimiter c = false)
    (hd : isDelimiter d = true) : d ∉ t := fun hmem => by
  rw [h d hmem] at hd
  cases hd

/-- The rule for runs of operators is tried where no other one matches. -/
theorem firstLength?_or_operatorRule (s : Spot) :
    firstLength? codeRules s =
      (codeRules.dropLast.findSome? (·.length? s)).or (operatorRule.length? s) := by
  have hrules : codeRules = codeRules.dropLast ++ [operatorRule] := rfl
  rw [firstLength?, hrules, List.findSome?_append, List.dropLast_concat]
  simp

/-- A rule whose best match has the length of the lexeme goes to its end. -/
theorem exists_best_of_length? {a : Pattern} {n : Nat} (ha : a ∈ codeRules)
    (hn : a.length? { before, rest := x ++ r } = some n) (htake : (x ++ r).take (max 1 n) = x) :
    ∃ e, (a.ends { before, rest := x ++ r }).head? = some e ∧
      Spot.Moves { before, rest := x ++ r } x e := by
  obtain ⟨e, he, rfl⟩ := Option.map_eq_some_iff.mp hn
  obtain ⟨z, hz, -⟩ := exists_moves (List.mem_of_head? he)
  have hpos : z ≠ [] := by
    rintro rfl
    have hskip : (codeRules.all fun a => !a.canSkip) = true := by decide
    have hlt := length_rest_lt (by simpa using List.all_eq_true.mp hskip a ha)
      (List.mem_of_head? he)
    rw [hz.rest] at hlt
    exact absurd hlt (Nat.lt_irrefl _)
  have hlength : max 1 (e.offset - 0) = z.length := by
    have hoffset : e.offset = 0 + z.length := hz.offset
    have := List.length_pos_iff.mpr hpos
    omega
  obtain rfl : z = x := by rw [← hz.take_length, ← hlength, htake]
  exact ⟨e, he, hz⟩

/-- A lexeme of code is the best match of a rule; of the one for runs of operators only where no
hyphen stands, and without a rule it is one character. -/
theorem IsLexeme.best_match (h : IsLexeme before .code x r) (hdollar : '$' ∉ x ++ r) :
    (∃ a ∈ codeRules.dropLast, ∃ e, (a.ends { before, rest := x ++ r }).head? = some e ∧
      Spot.Moves { before, rest := x ++ r } x e) ∨
    (x.head? ≠ some '-' ∧ ∃ e, (operatorRule.ends { before, rest := x ++ r }).head? = some e ∧
      Spot.Moves { before, rest := x ++ r } x e) ∨
    (x.length = 1 ∧ operatorRule.length? { before, rest := x ++ r } = none) := by
  rcases h.cases with ⟨hk, -⟩ | ⟨-, n, hn⟩ | ⟨hk, -⟩ | ⟨-, htake⟩
  · cases hk
  · rw [dollarQuoteLength?_eq_none hdollar] at hn
    cases hn
  · cases hk
  · rw [firstLength?_or_operatorRule] at htake
    cases hplain : codeRules.dropLast.findSome? (·.length? { before, rest := x ++ r }) with
    | some n =>
      rw [hplain, Option.some_or, Option.getD_some] at htake
      obtain ⟨a, ha, hn⟩ := List.exists_of_findSome?_eq_some hplain
      exact Or.inl ⟨a, ha, exists_best_of_length? (List.mem_of_mem_dropLast ha) hn htake⟩
    | none =>
      rw [hplain, Option.none_or] at htake
      cases hn : operatorRule.length? { before, rest := x ++ r } with
      | some n =>
        rw [hn, Option.getD_some] at htake
        have hmem : operatorRule ∈ codeRules := List.mem_of_getElem? (i := 47) rfl
        refine Or.inr (Or.inl ⟨fun hhead => ?_, exists_best_of_length? hmem hn htake⟩)
        obtain ⟨u, rfl⟩ := List.head?_eq_some_iff.mp hhead
        have hsome := firstLength?_hyphen (s := { before, rest := '-' :: u ++ r }) rfl
        rw [hplain] at hsome
        cases hsome
      | none =>
        rw [hn, Option.getD_none] at htake
        have hlength := congrArg List.length htake
        have := List.length_pos_iff.mpr h.ne_nil
        rw [List.length_take, List.length_append] at hlength
        exact Or.inr (Or.inr ⟨by omega, rfl⟩)

/-! ### Markers inside lexemes -/

/-- A marker of a comment without a hash. -/
def StartsMark (t : Text) : Prop := ['-', '-'] <+: t ∨ ['/', '*'] <+: t

/-- An operator that may stand in a run; the hash is a delimiter. -/
def isOperator (c : Char) : Bool :=
  "+/@%^&|-".toList.contains c

theorem runsOn_of_isOperator (h : isOperator c = true) : "+/@#%^&|-".toList.contains c = true := by
  rw [isOperator, List.contains_iff_mem] at h
  rw [List.contains_iff_mem]
  exact (by decide : "+/@%^&|-".toList ⊆ "+/@#%^&|-".toList) h

theorem StartsMark.head_eq (h : StartsMark (c :: t)) : c = '-' ∨ c = '/' :=
  h.imp (fun h => (List.cons_prefix_cons.mp h).1.symm) fun h => (List.cons_prefix_cons.mp h).1.symm

theorem StartsMark.head_mem (h : StartsMark (y ++ r)) (hy : y ≠ []) : '-' ∈ y ∨ '/' ∈ y := by
  obtain ⟨c, y, rfl⟩ := List.exists_cons_of_ne_nil hy
  rcases h.head_eq with rfl | rfl
  · exact Or.inl List.mem_cons_self
  · exact Or.inr List.mem_cons_self

/-- The sign of the exponent is the only hyphen behind the first character of a number. -/
theorem count_hyphen_of_exponent (he : e ∈ exponentRule.ends s) (hx : s.Moves x e) :
    x.tail.count '-' ≤ 1 := by
  obtain ⟨m, hm, hexp⟩ := mem_ends_all_append.mp he
  obtain ⟨m', hm', hdigits⟩ := mem_ends_all_cons.mp hexp
  obtain ⟨u, hu, -⟩ := exists_moves hm
  obtain ⟨v, hv, -⟩ := exists_moves hm'
  obtain ⟨z, hz, huses⟩ := exists_moves hdigits
  have hfront : '-' ∉ u.tail := fun hc => absurd ((takes_of_moves hm hu).late hc) (by decide)
  have hback : '-' ∉ z := fun hc => absurd (huses _ hc) (by decide)
  have hsign : v.length ≤ 1 := by
    rcases mem_ends_alt.mp hm' with h | h
    · obtain ⟨r, hr, rfl⟩ := mem_ends_char.mp h
      rw [hv.unique (y := ['-']) ⟨hr, rfl⟩]
      exact Nat.le_refl 1
    · rw [mem_ends_empty.mp h] at hv
      rw [hv.unique (.refl m)]
      exact Nat.zero_le 1
  rw [hx.unique (hu.trans (hv.trans hz))]
  cases u with
  | nil =>
    have hlt := length_rest_lt (by decide) hm
    rw [hu.rest] at hlt
    exact absurd hlt (Nat.lt_irrefl _)
  | cons d u =>
    rw [List.tail_cons] at hfront
    rw [List.cons_append, List.tail_cons, List.count_append, List.count_append,
      List.count_eq_zero.mpr hfront, List.count_eq_zero.mpr hback]
    have := List.count_le_length (a := '-') (l := v)
    omega

/-- Behind the first character of a number no comment starts: a digit follows the only hyphen. -/
theorem not_startsMark_of_exponent (he : e ∈ exponentRule.ends s) (hx : s.Moves (w ++ y) e)
    (hw : w ≠ []) (hy : y ≠ []) : ¬ StartsMark (y ++ e.rest) := by
  obtain ⟨d, w, rfl⟩ := List.exists_cons_of_ne_nil hw
  obtain ⟨c, y, rfl⟩ := List.exists_cons_of_ne_nil hy
  rintro (hmark | hmark)
  · obtain ⟨rfl, hnext⟩ := List.cons_prefix_cons.mp hmark
    cases y with
    | nil =>
      have hend : exponentRule.canEnd '-' = false := by decide
      rw [(takes_of_moves he hx).canEnd List.getLast?_concat] at hend
      cases hend
    | cons c y =>
      obtain ⟨rfl, -⟩ := List.cons_prefix_cons.mp hnext
      have hone := count_hyphen_of_exponent he hx
      rw [List.cons_append, List.tail_cons, List.count_append, List.count_cons_self,
        List.count_cons_self] at hone
      omega
  · obtain ⟨rfl, -⟩ := List.cons_prefix_cons.mp hmark
    have hslash : exponentRule.late '/' = false := by decide
    rw [(takes_of_moves he hx).late (by simp)] at hslash
    cases hslash

/-- Arrows go over no marker, unless there is a hash. -/
theorem late_of_arrows (he : e ∈ (any arrows).ends s) (hhash : '#' ∉ s.rest) (hx : s.Moves x e) :
    '-' ∉ x.tail ∧ '/' ∉ x.tail := by
  obtain ⟨a, ha, he⟩ := mem_ends_any.mp he
  have hsplit : arrows = arrows.dropLast ++ [exactly "#-"] := rfl
  rw [hsplit, List.mem_append, List.mem_singleton] at ha
  rcases ha with ha | rfl
  · have hall : (arrows.dropLast.all fun a => !a.late '-' && !a.late '/') = true := by decide
    have hlate := List.all_eq_true.mp hall a ha
    rw [Bool.and_eq_true, Bool.not_eq_true', Bool.not_eq_true', ← Bool.not_eq_true,
      ← Bool.not_eq_true] at hlate
    exact ⟨fun hc => hlate.1 ((takes_of_moves he hx).late hc),
      fun hc => hlate.2 ((takes_of_moves he hx).late hc)⟩
  · refine absurd ?_ hhash
    rw [rest_of_mem_ends_all_char he]
    exact List.mem_append_left _ (by decide)

/-- A quoted text starts with its quote; the only one that is no delimiter is the acute accent. -/
theorem accents_of_quoting {a : Pattern} (ha : a ∈ quotingRules.map (·.2)) (he : e ∈ a.ends s)
    (hplain : ∀ c ∈ s.rest, isDelimiter c = false) (hx : s.Moves x e) (hne : x ≠ []) :
    ∃ v, x = '´' :: v ++ ['´'] := by
  obtain ⟨p, hp, rfl⟩ := List.mem_map.mp ha
  obtain ⟨c, u, hs, hstart⟩ := (canStart_of_mem_ends he).resolve_left fun ⟨_, h⟩ =>
    hne (hx.unique (h ▸ Spot.Moves.refl s))
  have hfirst := eq_of_canStart_quotingRules hp hstart
  have hc := hplain c (hs ▸ List.mem_cons_self)
  simp only [quotingRules, List.mem_cons, List.not_mem_nil, or_false] at hp
  rcases hp with rfl | rfl | rfl | rfl | rfl | rfl <;> obtain rfl := hfirst
  · exact absurd hc (by decide)
  · obtain ⟨m, hm, hbody⟩ := mem_ends_all_cons.mp he
    obtain ⟨m', hm', hclose⟩ := mem_ends_all_cons.mp hbody
    obtain ⟨r, hr, rfl⟩ := mem_ends_char.mp hm
    obtain ⟨r', hr', rfl⟩ := mem_ends_char.mp hclose
    obtain ⟨v, hv, -⟩ := exists_moves hm'
    have hopen : s.Moves ['´'] ⟨s.offset + 1, some '´', r⟩ := ⟨hr, rfl⟩
    have hend : m'.Moves ['´'] ⟨m'.offset + 1, some '´', r'⟩ := ⟨hr', rfl⟩
    exact ⟨v, hx.unique ((hopen.trans hv).trans hend)⟩
  · exact absurd hc (by decide)
  · exact absurd hc (by decide)
  · exact absurd hc (by decide)
  · exact absurd hc (by decide)

/-- The accents of a quoted text that goes over a marker stand around it. -/
theorem accents_around {v : Text} (hv : w ++ y = '´' :: v ++ ['´']) (hw : w ≠ []) (hy : y ≠ [])
    (hmark : StartsMark (y ++ r)) : '´' ∈ w ∧ '´' ∈ (y ++ r).tail := by
  obtain ⟨d, w, rfl⟩ := List.exists_cons_of_ne_nil hw
  obtain ⟨rfl, hbody⟩ : d = '´' ∧ w ++ y = v ++ ['´'] := List.cons.inj hv
  refine ⟨List.mem_cons_self, ?_⟩
  -- The text ends with an accent, but no marker starts with one.
  have hlast : y.getLast? = some '´' := by
    rw [← List.getLast?_append_of_ne_nil w hy, hbody, List.getLast?_concat]
  obtain ⟨c, y, rfl⟩ := List.exists_cons_of_ne_nil hy
  have hc : '´' ≠ c := by
    rcases hmark.head_eq with rfl | rfl
    · decide
    · decide
  have hmem := List.mem_of_getLast? hlast
  exact List.mem_append_left r ((List.mem_cons.mp hmem).resolve_left hc)

/-- A run of operators is made of operators, and of hashes. -/
theorem isOperator_of_run (he : e ∈ operatorRule.ends s) (hx : s.Moves x e) (hc : c ∈ x)
    (hplain : isDelimiter c = false) : isOperator c = true := by
  obtain ⟨z, hz, huses⟩ := exists_moves he
  obtain rfl := hx.unique hz
  have hmem := huses c hc
  simp only [operatorRule, some1, uses, oneOf, Bool.or_self, List.contains_iff_mem] at hmem
  have hhash : c ≠ '#' := fun e => by
    rw [e] at hplain
    exact absurd hplain (by decide)
  rw [isOperator, List.contains_iff_mem]
  simpa [hhash] using hmem

/-- A time zone holds a quote. -/
theorem quote_mem_of_timeZone (he : e ∈ timeZoneRule.ends s) : '\'' ∈ s.rest := by
  obtain ⟨m, hm, hquoted⟩ := mem_ends_all_append.mp he
  obtain ⟨m', hm', -⟩ := mem_ends_all_cons.mp hquoted
  obtain ⟨r, hr, -⟩ := mem_ends_char.mp hm'
  obtain ⟨u, hu, -⟩ := exists_moves hm
  rw [hu.rest, hr]
  exact List.mem_append_right u List.mem_cons_self

/-- A lexeme of code goes over a marker behind its start only as a run of operators that does not
start with a hyphen, or as a text between two acute accents. -/
theorem IsLexeme.operators_or_accents (h : IsLexeme before .code (w ++ y) r)
    (hplain : ∀ c ∈ w ++ y ++ r, isDelimiter c = false) (hw : w ≠ []) (hy : y ≠ [])
    (hmark : StartsMark (y ++ r)) :
    (w.head? ≠ some '-' ∧ ∀ c ∈ w, isOperator c = true) ∨ ('´' ∈ w ∧ '´' ∈ (y ++ r).tail) := by
  have hlength : 2 ≤ (w ++ y).length := by
    have := List.length_pos_iff.mpr hw
    have := List.length_pos_iff.mpr hy
    rw [List.length_append]
    omega
  have htail : ¬ ('-' ∉ (w ++ y).tail ∧ '/' ∉ (w ++ y).tail) := by
    obtain ⟨d, w, rfl⟩ := List.exists_cons_of_ne_nil hw
    exact fun ⟨hhyphen, hslash⟩ => (hmark.head_mem hy).elim
      (fun hc => hhyphen (List.mem_append_right w hc)) fun hc => hslash (List.mem_append_right w hc)
  rcases h.best_match (ne_of_not_isDelimiter hplain (by decide)) with
    ⟨a, ha, e, he, hx⟩ | ⟨hhead, e, he, hx⟩ | ⟨hone, -⟩
  · obtain rfl : r = e.rest := List.append_cancel_left hx.rest
    replace he := List.mem_of_head? he
    rcases mem_dropLast_codeRules_cases ha with ha | ha | rfl | rfl | rfl
    · obtain ⟨hhyphen, hslash⟩ := late_steadyRules ha
      rw [← Bool.not_eq_true] at hhyphen hslash
      exact absurd ⟨fun hc => hhyphen ((takes_of_moves he hx).late hc),
        fun hc => hslash ((takes_of_moves he hx).late hc)⟩ htail
    · obtain ⟨v, hv⟩ := accents_of_quoting ha he hplain hx (by simp [hw])
      exact Or.inr (accents_around hv hw hy hmark)
    · exact absurd (quote_mem_of_timeZone he) (ne_of_not_isDelimiter hplain (by decide))
    · exact absurd hmark (not_startsMark_of_exponent he hx hw hy)
    · exact absurd (late_of_arrows he (ne_of_not_isDelimiter hplain (by decide)) hx) htail
  · rw [List.head?_append_of_ne_nil w hw] at hhead
    refine Or.inl ⟨hhead, fun c hc => ?_⟩
    have hmem : c ∈ w ++ y := List.mem_append_left y hc
    exact isOperator_of_run (List.mem_of_head? he) hx hmem (hplain c (List.mem_append_left r hmem))
  · omega

/-! ### Where a run of operators ends -/

/-- A question mark is a lexeme by itself. -/
theorem IsLexeme.eq_question (h : IsLexeme before .code ('?' :: y) r)
    (hdollar : '$' ∉ '?' :: y ++ r) : y = [] := by
  have hfirst : firstLength? codeRules { before, rest := '?' :: y ++ r } = some 1 := by
    have hrules : codeRules = codeRules.take 7 ++ char '?' :: codeRules.drop 8 := rfl
    have hnone : (codeRules.take 7).findSome? (·.length? { before, rest := '?' :: y ++ r }) = none :=
      List.findSome?_eq_none_iff.mpr fun a ha =>
        have hall := cannotStart_of_all (q := '?') (l := codeRules.take 7) (by decide) a ha
        length?_eq_none rfl hall.1 hall.2
    rw [firstLength?, hrules, List.findSome?_append, hnone]
    rfl
  rcases h.cases with ⟨hk, -⟩ | ⟨-, n, hn⟩ | ⟨hk, -⟩ | ⟨-, htake⟩
  · cases hk
  · rw [dollarQuoteLength?_eq_none hdollar] at hn
    cases hn
  · cases hk
  · rw [hfirst] at htake
    exact (List.cons.inj htake).2.symm

theorem isOperator_eq_false_of_ends {a : Pattern} {d : Char}
    (ha : ("+/@%^&|-".toList.all fun c => !a.canEnd c) = true) (he : e ∈ a.ends s)
    (hx : s.Moves x e) (hd : x.getLast? = some d) : isOperator d = false := by
  rw [← Bool.not_eq_true]
  intro hop
  have hnot := List.all_eq_true.mp ha d (List.contains_iff_mem.mp hop)
  rw [(takes_of_moves he hx).canEnd hd] at hnot
  cases hnot

/-- An arrow that ends with an operator. -/
theorem arrow_of_operator_end {d : Char} (he : e ∈ (any arrows).ends s) (hx : s.Moves x e)
    (hd : x.getLast? = some d) (hop : isOperator d = true) :
    x = ['-'] ∨ x = ['<', '@'] ∨ x = ['#', '-'] ∨ x.head? = some '?' := by
  have hexact {p : Text} (he : e ∈ (all (p.map char)).ends s) : x = p :=
    List.append_cancel_right (hx.rest.symm.trans (rest_of_mem_ends_all_char he))
  obtain ⟨a, ha, he⟩ := mem_ends_any.mp he
  have hends (ha : ("+/@%^&|-".toList.all fun c => !a.canEnd c) = true) : False :=
    Bool.false_ne_true ((isOperator_eq_false_of_ends ha he hx hd).symm.trans hop)
  simp only [arrows, List.mem_cons, List.not_mem_nil, or_false] at ha
  rcases ha with rfl | rfl | rfl | rfl | rfl | rfl | rfl | rfl
  · exact (hends (by decide)).elim
  · exact (hends (by decide)).elim
  · exact (hends (by decide)).elim
  · exact Or.inr (Or.inl (hexact he))
  · obtain ⟨m, hm, he⟩ := mem_ends_all_cons.mp he
    obtain ⟨u, hu, rfl⟩ := mem_ends_char.mp hm
    obtain ⟨y, hy, -⟩ := exists_moves he
    have hopen : s.Moves ['?'] ⟨s.offset + 1, some '?', u⟩ := ⟨hu, rfl⟩
    rw [hx.unique (hopen.trans hy)]
    exact Or.inr (Or.inr (Or.inr rfl))
  · exact Or.inr (Or.inr (Or.inr (by rw [hexact he]; rfl)))
  · exact Or.inl (hexact (p := ['-']) he)
  · exact Or.inr (Or.inr (Or.inl (hexact he)))

/-- A lexeme of code that ends with an operator is a hyphen or a whole run of operators, so no other
operator follows; texts between accents and one arrow apart. -/
theorem IsLexeme.no_operator_behind (h : IsLexeme before .code x r)
    (hplain : ∀ c ∈ x ++ r, isDelimiter c = false) (haccent : '´' ∉ x)
    (harrow : ¬ ['<', '@'] <:+: x) (hhyphen : x ≠ ['-'])
    (hlast : ∃ d, x.getLast? = some d ∧ isOperator d = true) :
    ∀ c, r.head? = some c → isOperator c = false := by
  obtain ⟨d, hd, hop⟩ := hlast
  have hdollar := ne_of_not_isDelimiter hplain (d := '$') (by decide)
  rcases h.best_match hdollar with ⟨a, ha, e, he, hx⟩ | ⟨-, e, he, hx⟩ | ⟨hone, hnone⟩
  · exfalso
    replace he := List.mem_of_head? he
    rcases mem_dropLast_codeRules_cases ha with ha | ha | rfl | rfl | rfl
    · have hall : (steadyRules.all fun a => "+/@%^&|-".toList.all fun c => !a.canEnd c) = true := by
        decide
      have hnot := isOperator_eq_false_of_ends (List.all_eq_true.mp hall a ha) he hx hd
      exact Bool.false_ne_true (hnot.symm.trans hop)
    · obtain ⟨v, rfl⟩ := accents_of_quoting ha he hplain hx h.ne_nil
      exact haccent (by simp)
    · exact ne_of_not_isDelimiter hplain (by decide) (quote_mem_of_timeZone he)
    · have hnot := isOperator_eq_false_of_ends (by decide) he hx hd
      exact Bool.false_ne_true (hnot.symm.trans hop)
    · rcases arrow_of_operator_end he hx hd hop with rfl | rfl | rfl | hhead
      · exact hhyphen rfl
      · exact harrow List.infix_rfl
      · exact ne_of_not_isDelimiter hplain (d := '#') (by decide) List.mem_cons_self
      · obtain ⟨y, rfl⟩ := List.head?_eq_some_iff.mp hhead
        rw [h.eq_question hdollar] at hd
        obtain rfl := Option.some.inj hd
        exact absurd hop (by decide)
  · obtain rfl : r = e.rest := List.append_cancel_left hx.rest
    obtain ⟨m, -, he⟩ := exists_head?_ends_of_seq he
    have hrest := rest_of_head?_ends_many_one he
    intro c hc
    rw [hc, Option.any_some] at hrest
    exact Bool.eq_false_iff.mpr fun hopc => absurd (runsOn_of_isOperator hopc) (by simpa using hrest)
  · exfalso
    obtain ⟨c, rfl⟩ := List.length_eq_one_iff.mp hone
    obtain rfl := Option.some.inj hd
    obtain ⟨m, hm⟩ := List.exists_mem_of_ne_nil _ (ends_many_ne_nil (oneOf "+/@#%^&|-") ⟨1, some c, r⟩)
    have hone : ⟨1, some c, r⟩ ∈ (oneOf "+/@#%^&|-").ends { before, rest := [c] ++ r } :=
      mem_ends_one.mpr ⟨c, r, rfl, runsOn_of_isOperator hop, rfl⟩
    obtain ⟨n, hn⟩ := exists_length?_of_mem_ends (mem_ends_seq.mpr ⟨_, hone, hm⟩)
    cases hnone.symm.trans hn

end Lexicon

end SqlAssist
