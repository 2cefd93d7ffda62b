import SqlAssist.Proofs.Sql.InsertedSpace
import Mathlib.Data.Setoid.Basic

/-!
# White space beside parentheses

In front of a parenthesis that opens a group and behind one that closes a group, white space may be
put in or left out, before the cursor and behind it. Neither the clause nor the depths change, but
the tables may: `FROM` and `JOIN` have to be followed by white space, so `FROM(SELECT 1) d` has no
table, and an alias has to follow white space, so neither has `FROM (SELECT 1)d`
(`tables_lost_beside_parens`). **`detect_beside_parens`** says that these two places are the only
ones.
-/

namespace SqlAssist

namespace Clause

open Level

variable {w p q : Text}

theorem detect_insert (hw : IsGap w) (h : PartAtParen p q) :
    (detect (atCursor (p ++ (w ++ q)))).1 = (detect (atCursor (p ++ q))).1 ∧
      ∃ k ≤ Paren.depth (p ++ q), (detect (atCursor (p ++ (w ++ q)))).2 = atDepth (p ++ (w ++ q)) k ∧
        (detect (atCursor (p ++ q))).2 = atDepth (p ++ q) k := by
  have hdepth := Paren.depth_insert hw p q
  rw [← hdepth]
  refine detect_congr hdepth (fun k hk => ?_) (fun k hk => ?_) (fun k hk => ?_)
  · obtain ⟨n, hmasked⟩ := masked_insert hw h (hdepth ▸ hk)
    exact hmasked.any_startsClause
  · obtain ⟨n, hmasked⟩ := masked_insert hw h (hdepth ▸ hk)
    exact hmasked.any_isTargetOnly
  · obtain ⟨n, hmasked⟩ := masked_insert hw h (hdepth ▸ hk)
    exact hmasked.classify

/-! ### Statements and their continuations -/

/-- A parenthesis that opens a group follows the place between the texts, or one that closes a group
stands in front of it. -/
def BesideParen (u v : Text) : Prop :=
  u.getLast? = some ')' ∨ v.head? = some '('

theorem BesideParen.partAtParen {u v : Text} (h : BesideParen u v) : PartAtParen u v :=
  h.imp_right fun hhead _ hc => Option.some.inj (hc.symm.trans hhead)

/-- A statement up to the cursor and its continuation. The first pair has white space more than the
second, in one place beside a parenthesis, which stands `i` characters behind the start of the
statement. -/
inductive Spaced : (i : Nat) → Text × Text → Text × Text → Prop where
  /-- It stands in the statement. -/
  | statement {p w q c : Text} : IsGap w → BesideParen p (q ++ c) →
      Spaced p.length (p ++ (w ++ q), c) (p ++ q, c)
  /-- It stands in the continuation. -/
  | continuation {s p w q : Text} : IsGap w → BesideParen (s ++ p) q →
      Spaced (s.length + p.length) (s, p ++ (w ++ q)) (s, p ++ q)

/-- White space counts that is put in `i` characters behind the start of the statement: it does in
the level that the clause is read from. -/
def CountsAt (a : Text × Text) (i : Nat) : Prop :=
  let level := (detect (atCursor a.1)).2
  let text := level.extended a.2
  Resolution.Counts (Text.upper (text.take (i - level.start))) (Text.upper (text.drop (i - level.start)))

variable {a b : Text × Text} {i : Nat}

theorem Spaced.exists_level (h : Spaced i a b) :
    (detect (atCursor a.1)).1 = (detect (atCursor b.1)).1 ∧
      Paren.depth a.1 = Paren.depth b.1 ∧
      ∃ k, (detect (atCursor a.1)).2 = atDepth a.1 k ∧ (detect (atCursor b.1)).2 = atDepth b.1 k ∧
        Widened (i - (atDepth b.1 k).start) ((atDepth a.1 k).extended a.2)
          ((atDepth b.1 k).extended b.2) := by
  cases h with
  | @statement p w q c hw hplace =>
    have hpart := hplace.partAtParen
    obtain ⟨hclause, k, hk, hlevel, hlevel'⟩ :=
      detect_insert hw (hpart.prefix_right (List.prefix_append q c))
    exact ⟨hclause, Paren.depth_insert hw p q, k, hlevel, hlevel', extended_insert hw hpart hk⟩
  | @continuation s p w q hw hplace =>
    obtain ⟨k, hk, hlevel⟩ := exists_detect_eq s
    exact ⟨rfl, rfl, k, hlevel, hlevel, extended_insert_behind hw hplace.partAtParen hk⟩

theorem Spaced.scope_eq (h : Spaced i a b) :
    (detect (atCursor a.1)).1 = (detect (atCursor b.1)).1 ∧
      (atCursor a.1).depth = (atCursor b.1).depth ∧
      (detect (atCursor a.1)).2.depth = (detect (atCursor b.1)).2.depth := by
  obtain ⟨hclause, hdepth, k, hlevel, hlevel', -⟩ := h.exists_level
  refine ⟨hclause, ?_, ?_⟩
  · rw [atCursor_eq, atCursor_eq, depth_atDepth, depth_atDepth, hdepth]
  · rw [hlevel, hlevel', depth_atDepth, depth_atDepth]

theorem Spaced.tables_eq (h : Spaced i a b) (hc : ¬ CountsAt b i) :
    Resolution.ofText (Text.upper ((detect (atCursor a.1)).2.extended a.2)) =
      Resolution.ofText (Text.upper ((detect (atCursor b.1)).2.extended b.2)) := by
  obtain ⟨-, -, k, hlevel, hlevel', hwidened⟩ := h.exists_level
  simp only [CountsAt, hlevel'] at hc
  rw [hlevel, hlevel']
  exact hwidened.ofText_upper hc

/-- What one step keeps is kept by any number of steps, there and back. -/
theorem eq_of_eqvGen {α β : Type} {r : α → α → Prop} {f : α → β} (hf : ∀ a b, r a b → f a = f b)
    {a b : α} (h : Relation.EqvGen r a b) : f a = f b :=
  (Setoid.ker f).iseqv.eqvGen_iff.mp (Relation.EqvGen.mono hf _ _ h)

/-- **White space beside parentheses**: put in or left out directly in front of a parenthesis that
opens a group or directly behind one that closes a group, before the cursor and behind it, it changes
neither the clause nor how deep the cursor and the clause are. The tables are the same, too, if none
of it stands between `FROM` or `JOIN` and a group, or between a group behind these and its alias. -/
theorem detect_beside_parens (h : Relation.EqvGen (fun a b => ∃ i, Spaced i a b) a b) :
    (detect (atCursor a.1)).1 = (detect (atCursor b.1)).1 ∧
      (atCursor a.1).depth = (atCursor b.1).depth ∧
      (detect (atCursor a.1)).2.depth = (detect (atCursor b.1)).2.depth ∧
      (Relation.EqvGen (fun a b => ∃ i, Spaced i a b ∧ ¬ CountsAt b i) a b →
        Resolution.ofText (Text.upper ((detect (atCursor a.1)).2.extended a.2)) =
          Resolution.ofText (Text.upper ((detect (atCursor b.1)).2.extended b.2))) := by
  have hscope : ∀ a b, (∃ i, Spaced i a b) →
      ((detect (atCursor a.1)).1, (atCursor a.1).depth, (detect (atCursor a.1)).2.depth) =
        ((detect (atCursor b.1)).1, (atCursor b.1).depth, (detect (atCursor b.1)).2.depth) := by
    rintro a b ⟨i, h⟩
    obtain ⟨hclause, hdepth, hlevel⟩ := h.scope_eq
    rw [hclause, hdepth, hlevel]
  have htables : ∀ a b, (∃ i, Spaced i a b ∧ ¬ CountsAt b i) →
      Resolution.ofText (Text.upper ((detect (atCursor a.1)).2.extended a.2)) =
        Resolution.ofText (Text.upper ((detect (atCursor b.1)).2.extended b.2)) := by
    rintro a b ⟨i, h, hc⟩
    exact h.tables_eq hc
  have hsame := eq_of_eqvGen (f := fun a : Text × Text =>
    ((detect (atCursor a.1)).1, (atCursor a.1).depth, (detect (atCursor a.1)).2.depth)) hscope h
  rw [Prod.mk.injEq, Prod.mk.injEq] at hsame
  obtain ⟨hclause, hdepth, hlevel⟩ := hsame
  exact ⟨hclause, hdepth, hlevel, eq_of_eqvGen (f := fun a : Text × Text =>
    Resolution.ofText (Text.upper ((detect (atCursor a.1)).2.extended a.2))) htables⟩

/-- The white space stands behind a condition, where a keyword follows, and in a call behind the
cursor. -/
theorem detect_beside_parens_in_condition :
    (detect (atCursor "SELECT a FROM t WHERE (b) AND c IN (".toList)).1 =
        (detect (atCursor "SELECT a FROM t WHERE (b)AND c IN (".toList)).1 ∧
      Resolution.ofText (Text.upper ((detect (atCursor
          "SELECT a FROM t WHERE (b) AND c IN (".toList)).2.extended "f (d))".toList)) =
        Resolution.ofText (Text.upper ((detect (atCursor
          "SELECT a FROM t WHERE (b)AND c IN (".toList)).2.extended "f(d))".toList)) := by
  have hcall : Spaced 37 ("SELECT a FROM t WHERE (b) AND c IN (".toList, "f (d))".toList)
      ("SELECT a FROM t WHERE (b) AND c IN (".toList, "f(d))".toList) :=
    .continuation (s := "SELECT a FROM t WHERE (b) AND c IN (".toList) (p := "f".toList)
      (w := " ".toList) (q := "(d))".toList) (by decide) (Or.inr rfl)
  have hcondition : Spaced 25 ("SELECT a FROM t WHERE (b) AND c IN (".toList, "f(d))".toList)
      ("SELECT a FROM t WHERE (b)AND c IN (".toList, "f(d))".toList) :=
    .statement (p := "SELECT a FROM t WHERE (b)".toList) (w := " ".toList) (q := "AND c IN (".toList)
      (by decide) (Or.inl rfl)
  have hcall' : ¬ CountsAt ("SELECT a FROM t WHERE (b) AND c IN (".toList, "f(d))".toList) 37 := by
    rintro (⟨hopener, -⟩ | ⟨-, halias⟩)
    · exact absurd hopener (by decide)
    · exact absurd halias (by decide)
  have hcondition' : ¬ CountsAt ("SELECT a FROM t WHERE (b)AND c IN (".toList, "f(d))".toList) 25 := by
    rintro (⟨hopener, -⟩ | ⟨-, halias⟩)
    · exact absurd hopener (by decide)
    · exact absurd halias (by decide)
  obtain ⟨hclause, -, -, htables⟩ := detect_beside_parens
    (.trans _ _ _ (.rel _ _ ⟨37, hcall⟩) (.rel _ _ ⟨25, hcondition⟩))
  exact ⟨hclause, htables
    (.trans _ _ _ (.rel _ _ ⟨37, hcall, hcall'⟩) (.rel _ _ ⟨25, hcondition, hcondition'⟩))⟩

/-- Between `FROM` and a group, and between a group and its alias, white space decides whether the
group is a table. -/
theorem tables_lost_beside_parens :
    Spaced 13 ("SELECT * FROM (SELECT 1) d".toList, []) ("SELECT * FROM(SELECT 1) d".toList, []) ∧
      Spaced 24 ("SELECT * FROM (SELECT 1) d".toList, []) ("SELECT * FROM (SELECT 1)d".toList, []) ∧
      (Resolution.ofText (Text.upper ((detect (atCursor
        "SELECT * FROM (SELECT 1) d".toList)).2.extended []))).tables =
          [("D".toList, { table := "D".toList, derived := true })] ∧
      (Resolution.ofText (Text.upper ((detect (atCursor
        "SELECT * FROM(SELECT 1) d".toList)).2.extended []))).tables = [] ∧
      (Resolution.ofText (Text.upper ((detect (atCursor
        "SELECT * FROM (SELECT 1)d".toList)).2.extended []))).tables = [] := by
  refine ⟨?_, ?_, ?_⟩
  · exact .statement (p := "SELECT * FROM".toList) (w := " ".toList) (q := "(SELECT 1) d".toList)
      (by decide) (Or.inr rfl)
  · exact .statement (p := "SELECT * FROM (SELECT 1)".toList) (w := " ".toList) (q := "d".toList)
      (by decide) (Or.inl rfl)
  · decide

end Clause

end SqlAssist
