import SqlAssist.Proofs.Sql.Literal
import SqlAssist.Proofs.Text.LetterCase
import SqlAssist.Sql.Clause

/-!
# The case of letters in statements

Quotes, semicolons and parentheses are no letters, so the capitals of a statement have the same
literals, levels and groups; and keywords are found whatever their case. The clause at the cursor
is the same, and it is read from the capitals of the same level (`Clause.detect_capitals`).
-/

namespace SqlAssist

open Text

/-! ### Literals and statements -/

namespace Literal

variable {q c : Char}

theorem toUpper_eq_quote_iff (hq : isQuote q = true) : c.toUpper = q ↔ c = q := by
  rcases isQuote_iff.mp hq with rfl | rfl
  · exact toUpper_eq_iff rfl
  · exact toUpper_eq_iff rfl

theorem toUpper_of_isQuote (hq : isQuote q = true) : q.toUpper = q :=
  (toUpper_eq_quote_iff hq).mpr rfl

theorem opened_toUpper (c : Char) : opened c.toUpper = opened c := by
  have hquote : isQuote c.toUpper = isQuote c := ignoresCase_of_forall (by decide) c
  rw [opened, opened, hquote]
  split_ifs with h
  · rw [toUpper_of_isQuote h]
  · rfl

theorem head?_capitals_ne (hq : isQuote q = true) {r : Text} (hr : r.head? ≠ some q) :
    r.capitals.head? ≠ some q := by
  intro h
  rw [capitals, List.head?_map] at h
  obtain ⟨c, hc, hcq⟩ := Option.map_eq_some_iff.mp h
  exact hr (hc.trans (congrArg some ((toUpper_eq_quote_iff hq).mp hcq)))

theorem blankFrom_capitals {o : Option Char} (ho : IsState o) (t : Text) :
    blankFrom o t.capitals = capitals (blankFrom o t) := by
  induction o, t, ho using scanInduction with
  | nil o => cases o <;> rfl
  | outside c r ih =>
    have hstep (c : Char) (r : Text) : blankFrom none (c :: r) = c :: blankFrom (opened c) r := rfl
    rw [capitals_cons, hstep, hstep, opened_toUpper, ih, capitals_cons]
  | inside q c r hq hc ih =>
    rw [capitals_cons, blankFrom_other (mt (toUpper_eq_quote_iff hq).mp hc), blankFrom_other hc, ih]
    rfl
  | pair q r hq ih =>
    rw [capitals_cons, capitals_cons, toUpper_of_isQuote hq, blankFrom_pair, blankFrom_pair, ih]
    rfl
  | close q r hq hr ih =>
    rw [capitals_cons, toUpper_of_isQuote hq, blankFrom_close (head?_capitals_ne hq hr),
      blankFrom_close hr, ih, capitals_cons, toUpper_of_isQuote hq]

theorem openQuoteFrom_capitals {o : Option Char} (ho : IsState o) (t : Text) :
    openQuoteFrom o t.capitals = openQuoteFrom o t := by
  induction o, t, ho using scanInduction with
  | nil o => rfl
  | outside c r ih =>
    have hstep (c : Char) (r : Text) : openQuoteFrom none (c :: r) = openQuoteFrom (opened c) r := rfl
    rw [capitals_cons, hstep, hstep, opened_toUpper, ih]
  | inside q c r hq hc ih =>
    rw [capitals_cons, openQuoteFrom_other (mt (toUpper_eq_quote_iff hq).mp hc),
      openQuoteFrom_other hc, ih]
  | pair q r hq ih =>
    rw [capitals_cons, capitals_cons, toUpper_of_isQuote hq, openQuoteFrom_pair, openQuoteFrom_pair, ih]
  | close q r hq hr ih =>
    rw [capitals_cons, toUpper_of_isQuote hq, openQuoteFrom_close (head?_capitals_ne hq hr),
      openQuoteFrom_close hr, ih]

@[simp] theorem blank_capitals (t : Text) : blank t.capitals = capitals (blank t) :=
  blankFrom_capitals isState_none t

@[simp] theorem isOpen_capitals (t : Text) : isOpen t.capitals = isOpen t := by
  rw [isOpen, openQuoteFrom_capitals isState_none]
  rfl

end Literal

namespace Statement

@[simp] theorem beforeCursor_capitals (t : Text) : beforeCursor t.capitals = capitals (beforeCursor t) := by
  rw [beforeCursor, Literal.blank_capitals, lastOffset_capitals rfl, drop_capitals]
  rfl

@[simp] theorem afterCursor_capitals (t : Text) : afterCursor t.capitals = capitals (afterCursor t) := by
  rw [afterCursor, Literal.blank_capitals, firstOffset_capitals rfl, take_capitals]
  rfl

end Statement

/-! ### Parentheses -/

namespace Paren

theorem toUpper_eq_open_iff {c : Char} : c.toUpper = '(' ↔ c = '(' := toUpper_eq_iff rfl

theorem toUpper_eq_close_iff {c : Char} : c.toUpper = ')' ↔ c = ')' := toUpper_eq_iff rfl

@[simp] theorem depth_capitals (t : Text) : depth t.capitals = depth t := by
  have hstep (d : Nat) (c : Char) : depthStep d c.toUpper = depthStep d c := by
    simp only [depthStep, toUpper_eq_open_iff, toUpper_eq_close_iff]
  rw [depth, capitals, List.foldl_map]
  simp only [hstep]
  rfl

theorem enclosingFrom_capitals (depth lowest : Nat) (found : List Nat) (t : Text) :
    enclosingFrom depth lowest found t.capitals = enclosingFrom depth lowest found t := by
  induction t generalizing depth lowest found with
  | nil => rfl
  | cons c t ih =>
    simp only [capitals_cons, enclosingFrom, toUpper_eq_open_iff, toUpper_eq_close_iff, ih,
      length_capitals]

@[simp] theorem enclosing_capitals (t : Text) : enclosing t.capitals = enclosing t := by
  rw [enclosing, depth_capitals, reverse_capitals, enclosingFrom_capitals]
  rfl

theorem closes_capitals (inner : Nat) (t : Text) : closes inner t.capitals = closes inner t := by
  induction t generalizing inner with
  | nil => rfl
  | cons c t ih => simp only [capitals_cons, closes, toUpper_eq_open_iff, toUpper_eq_close_iff, ih]

theorem maskFrom_capitals (inside : Nat) (t : Text) :
    maskFrom inside t.capitals = capitals (maskFrom inside t) := by
  induction t generalizing inside with
  | nil => cases inside <;> rfl
  | cons c t ih =>
    cases inside with
    | zero => simp only [capitals_cons, maskFrom, toUpper_eq_open_iff, closes_capitals, ih]
    | succ n =>
      simp only [capitals_cons, maskFrom, toUpper_eq_open_iff, toUpper_eq_close_iff, ih,
        ignoresCase_blankChar c]
      split_ifs
      · rfl
      · rfl
      · rfl
      · rw [capitals_cons, toUpper_blankChar]

@[simp] theorem maskGroups_capitals (t : Text) : maskGroups t.capitals = capitals (maskGroups t) :=
  maskFrom_capitals 0 t

@[simp] theorem untilClosed_capitals (spare : Nat) (t : Text) :
    untilClosed spare t.capitals = capitals (untilClosed spare t) := by
  induction t generalizing spare with
  | nil => rfl
  | cons c t ih =>
    simp only [capitals_cons, untilClosed, toUpper_eq_open_iff, toUpper_eq_close_iff, ih]
    split_ifs <;> rfl

end Paren

/-! ### Levels -/

namespace Level

/-- The level of the same parentheses in the capitals of the statement. -/
def capitals (l : Level) : Level :=
  { l with statement := l.statement.capitals }

@[simp] theorem capitals_statement (l : Level) : l.capitals.statement = l.statement.capitals := rfl

@[simp] theorem capitals_opens (l : Level) : l.capitals.opens = l.opens := rfl

@[simp] theorem capitals_depth (l : Level) : l.capitals.depth = l.depth := rfl

@[simp] theorem atCursor_capitals (t : Text) : atCursor t.capitals = (atCursor t).capitals := by
  rw [atCursor, Paren.enclosing_capitals]
  rfl

@[simp] theorem start_capitals (l : Level) : l.capitals.start = l.start := rfl

@[simp] theorem masked_capitals (l : Level) : l.capitals.masked = l.masked.capitals := by
  have hstop : l.capitals.stop = l.stop := by
    rw [stop, stop, capitals_statement, length_capitals]
    rfl
  rw [masked, text, start_capitals, hstop, capitals_statement, slice_capitals,
    Paren.maskGroups_capitals]
  rfl

theorem startsClause_capitals (t : Text) : startsClause t.capitals = startsClause t := by
  have hby (r : Option Text) : (r.map Text.capitals).any (fun r => isKeyword "BY".toList r.firstWord) =
      r.any fun r => isKeyword "BY".toList r.firstWord := by
    cases r with
    | none => rfl
    | some r => simp only [Option.map_some, Option.any_some, firstWord_capitals, isKeyword_capitals]
  simp only [startsClause, firstWord_capitals, isKeyword_capitals, afterKeywords?_capitals, hby]

@[simp] theorem hasClause_capitals (l : Level) : l.capitals.hasClause = l.hasClause := by
  rw [hasClause, masked_capitals, wordStarts_capitals, List.any_map]
  exact congrArg l.masked.wordStarts.any (funext startsClause_capitals)

theorem effectiveFrom_capitals (t : Text) (opens : List Nat) (d : Nat) :
    effectiveFrom t.capitals opens d = (effectiveFrom t opens d).capitals := by
  induction d with
  | zero => rfl
  | succ d ih =>
    have hclause := hasClause_capitals ⟨t, opens, d + 1⟩
    simp only [capitals] at hclause
    simp only [effectiveFrom, hclause, ih]
    split_ifs <;> rfl

@[simp] theorem effective_capitals (l : Level) : l.capitals.effective = l.effective.capitals :=
  effectiveFrom_capitals l.statement l.opens l.depth

@[simp] theorem parent?_capitals (l : Level) : l.capitals.parent? = l.parent?.map capitals := by
  obtain ⟨statement, opens, depth⟩ := l
  cases depth <;> rfl

@[simp] theorem extended_capitals (l : Level) (t : Text) :
    l.capitals.extended t.capitals = (l.extended t).capitals := by
  rw [extended, start_capitals, capitals_statement, drop_capitals, capitals_opens, capitals_depth,
    Paren.untilClosed_capitals, ← capitals_append, Paren.maskGroups_capitals]
  rfl

end Level

/-! ### Clauses -/

namespace Clause

theorem classify_capitals (t : Text) : classify t.capitals = classify t := by
  rw [classify, normalize, collapseSpace_capitals, trim_capitals, upper_capitals]
  rfl

theorem isTargetOnly_capitals (t : Text) : isTargetOnly t.capitals = isTargetOnly t := by
  rw [isTargetOnly, takeWhile_capitals ignoresCase_isPathChar,
    dropWhile_capitals ignoresCase_isPathChar, isEmpty_capitals, all_capitals ignoresCase_isSpace]
  rfl

theorem isColumnList_capitals (l : Level) : isColumnList l.capitals = isColumnList l := by
  rw [isColumnList, isColumnList, Level.parent?_capitals]
  cases l.parent? with
  | none => rfl
  | some p =>
    rw [Option.map_some, Option.any_some, Option.any_some, Level.masked_capitals,
      afterEachKeywords_capitals, List.any_map]
    exact congrArg (afterEachKeywords insertWords p.masked).any (funext isTargetOnly_capitals)

/-- The clause at the cursor does not depend on the case of letters, and neither does the place of
the level that it is read from. -/
theorem detect_capitals (l : Level) : detect l.capitals = ((detect l).1, (detect l).2.capitals) := by
  rw [detect, detect, isColumnList_capitals, Level.effective_capitals, Level.masked_capitals,
    classify_capitals, Level.parent?_capitals]
  split_ifs
  · exact congrArg (Prod.mk insertColumns) (Option.getD_map Level.capitals l l.parent?)
  · dsimp only

end Clause

end SqlAssist
